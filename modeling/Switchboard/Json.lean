import Switchboard.Text.Quoted

/-!
# Json

JSON values and their written form.  The form is pure ASCII: a character beyond it, and every
control character, is written as one `\u` escape or, above the basic plane, as the two escapes of
its surrogate pair.  A comma and a colon are each followed by one space.
-/

namespace Switchboard

/-- A JSON value; its numbers are whole. -/
inductive Json where
  | null
  | bool (b : Bool)
  | int (i : Int)
  | string (s : String)
  | array (items : List Json)
  | object (fields : List (String × Json))
  deriving Inhabited

namespace Json

/-- The `\u` escape of a 16-bit unit. -/
def unitEscape (n : Nat) : List Char :=
  '\\' :: 'u' :: Text.hexDigits 4 n

/-- A character inside a JSON string. -/
def escapeChar (c : Char) : List Char :=
  let n := c.toNat
  if c == '"' || c == '\\' then ['\\', c]
  else if c == '\n' then ['\\', 'n']
  else if c == '\r' then ['\\', 'r']
  else if c == '\t' then ['\\', 't']
  else if n == 0x08 then ['\\', 'b']
  else if n == 0x0C then ['\\', 'f']
  else if 0x20 ≤ n && n < 0x7F then [c]
  else if n < 0x10000 then unitEscape n
  else unitEscape (0xD800 + (n - 0x10000) / 0x400) ++ unitEscape (0xDC00 + (n - 0x10000) % 0x400)

/-- A JSON string with its quotes. -/
def stringChars (cs : List Char) : List Char :=
  '"' :: cs.flatMap escapeChar ++ ['"']

/-- The decimal digits of a whole number, behind a minus sign if it is negative. -/
def intChars : Int → List Char
  | .ofNat n => Nat.toDigits 10 n
  | .negSucc n => '-' :: Nat.toDigits 10 (n + 1)

mutual
/-- The written form of a value. -/
def chars : Json → List Char
  | .null => ['n', 'u', 'l', 'l']
  | .bool true => ['t', 'r', 'u', 'e']
  | .bool false => ['f', 'a', 'l', 's', 'e']
  | .int i => intChars i
  | .string s => stringChars s.toList
  | .array items => '[' :: itemChars items ++ [']']
  | .object fields => '{' :: fieldChars fields ++ ['}']

/-- The written form of a row of values, between separators. -/
def itemChars : List Json → List Char
  | [] => []
  | [item] => chars item
  | item :: items => chars item ++ ',' :: ' ' :: itemChars items

/-- The written form of a row of fields, between separators. -/
def fieldChars : List (String × Json) → List Char
  | [] => []
  | [(name, value)] => stringChars name.toList ++ ':' :: ' ' :: chars value
  | (name, value) :: fields =>
      stringChars name.toList ++ ':' :: ' ' :: chars value ++ ',' :: ' ' :: fieldChars fields
end

/-- The text of a value. -/
def render (j : Json) : String :=
  String.ofList (chars j)

end Json

end Switchboard
