import Switchboard.Number.Reading
import Switchboard.Number.Shortest
import Switchboard.Json

/-!
# Number

A number is a whole number of any size or a finite binary64 number.  Numbers are compared by the
values they denote, exactly, whatever their kinds.
-/

namespace Switchboard

/-- A finite number. -/
inductive Number where
  | int (i : Int)
  | float (x : Binary64)
  deriving DecidableEq

namespace Number

/-- The value as a whole numerator over a power of two. -/
def ratio : Number → Int × Nat
  | .int i => (i, 0)
  | .float x => x.ratio

/-- Whether the value of the first number is below that of the second. -/
def lt (a b : Number) : Bool :=
  a.ratio.1 * Nat.pow 2 b.ratio.2 < b.ratio.1 * Nat.pow 2 a.ratio.2

/-- Whether two numbers denote the same value. -/
def same (a b : Number) : Bool :=
  a.ratio.1 * Nat.pow 2 b.ratio.2 == b.ratio.1 * Nat.pow 2 a.ratio.2

/-- The value if it is whole. -/
def toInt? : Number → Option Int
  | .int i => some i
  | .float x => x.toInt?

/-- The finite number that a token denotes.  A token beyond ASCII, or with a low line in it, denotes
none. -/
def read? (token : List Char) : Option Number :=
  if token.all (fun c => c.toNat < 128 && c != '_') then
    match Reading.int? token with
    | some i => some (.int i)
    | none =>
      match Reading.decimal? token with
      | some (.finite x) => some (.float x)
      | _ => none
  else none

end Number

/-- The decimal digits of a whole number, behind a minus sign if it is negative. -/
def decimalText (i : Int) : String :=
  String.ofList (Json.intChars i)

namespace Binary64

/-- How a decimal is written: digits with a point if the point falls between four places before
the first digit and sixteen places after it, and with an exponent of at least two digits
otherwise. -/
def writeDecimal (d : Decimal) : List Char :=
  let digits := Nat.toDigits 10 d.digits
  let point : Int := digits.length + d.exponent
  if -4 < point ∧ point ≤ 16 then
    if point ≤ 0 then '0' :: '.' :: List.replicate (-point).toNat '0' ++ digits
    else
      let whole := digits.take point.toNat
      let fraction := digits.drop point.toNat
      whole ++ List.replicate (point.toNat - whole.length) '0' ++
        '.' :: (if fraction.isEmpty then ['0'] else fraction)
  else
    let e := point - 1
    let places := Nat.toDigits 10 e.natAbs
    let mantissa := match digits with
      | first :: second :: more => first :: '.' :: second :: more
      | short => short
    mantissa ++ 'e' :: (if e < 0 then '-' else '+') ::
      List.replicate (2 - places.length) '0' ++ places

/-- The text of a number: its shortest decimal, which always has a point or an exponent. -/
def text (x : Binary64) : String :=
  let magnitude :=
    if x.significand = 0 then ['0', '.', '0'] else writeDecimal x.shortest
  String.ofList (if x.negative then '-' :: magnitude else magnitude)

end Binary64

/-- The text of a binary64 number. -/
def Float64.text : Float64 → String
  | .finite x => x.text
  | .infinite negative => if negative then "-inf" else "inf"
  | .nan => "nan"

/-- The text of a number as people write it: a whole value without a point. -/
def Number.plainText : Number → String
  | .int i => decimalText i
  | .float x =>
    match x.toInt? with
    | some i => decimalText i
    | none => x.text

/-- The text of a number with its kind showing: a binary64 number has a point or an exponent. -/
def Number.text : Number → String
  | .int i => decimalText i
  | .float x => x.text

end Switchboard
