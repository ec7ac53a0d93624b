import Switchboard.Argument.Basic
import Switchboard.Argument.ClientLink
import Switchboard.Text.Token

/-!
# Argument — Validate

Reading an argument off the front of a text.  An argument either accepts and gives its value and
the text that is left, or is rejected: with the argument at fault and the first thing that is wrong
about the text.  A text token or a number is the first token; a client reference is read as it is
written; the rest takes everything.  An argument that comes to a pattern for bytes can do neither,
and no more can an argument of no kind.

Groups are read however deep they lie inside one another, while the interpreter gives up with a
`RecursionError` some 500 groups down.
-/

namespace Switchboard

/-- What is wrong about a text. -/
inductive Reason where
  | tooShort (minimum length : Nat)
  | tooLong (maximum length : Nat)
  | unlisted (text : String) (words : List String)
  | mismatch (text : String) (pattern : String)
  | notNumber (token : String)
  | belowMinimum (minimum number : Number)
  | aboveMaximum (maximum number : Number)
  | notWhole (number : Number)
  | notPositive (number : Number)
  | notNegative (number : Number)
  | noClient
  | noMembers (display : String)
  | noAlternative

/-- The wording of a reason. -/
def Reason.message : Reason → String
  | .tooShort minimum length =>
      "String length not greater or equal! Expected at least " ++ decimalText minimum ++
        ", but got " ++ decimalText length
  | .tooLong maximum length =>
      "String length not less or equal! Maximum " ++ decimalText maximum ++
        " chars allowed, but got " ++ decimalText length
  | .unlisted text words =>
      "Invalid Input for " ++ text ++ ". Allowed words: " ++ ", ".intercalate words
  | .mismatch text pattern =>
      "Regex mismatch, the input '" ++ text ++ "' did not match the expression " ++ pattern
  | .notNumber token => "Searched for number but found \"" ++ token ++ "\""
  | .belowMinimum minimum number =>
      "Number not greater or equal! Expected at least " ++ minimum.plainText ++ ", but got " ++
        number.plainText
  | .aboveMaximum maximum number =>
      "Number not less or equal! Expected at most " ++ maximum.plainText ++ ", but got " ++
        number.plainText
  | .notWhole number => "Given Number is not an Integer! (" ++ number.plainText ++ ")"
  | .notPositive number => "Given Number is not Positive! (" ++ number.plainText ++ ")"
  | .notNegative number => "Given Number is not Negative! (" ++ number.plainText ++ ")"
  | .noClient => "Client not found!"
  | .noMembers display => "Group " ++ display ++ " has no arguments to match"
  | .noAlternative => "No valid match found"

/-- The rejection of a text by an argument. -/
structure Rejection where
  argument : Argument
  reason : Reason

/-- The wording of a rejection. -/
def Rejection.message (r : Rejection) : String := r.reason.message

/-- What keeps an argument from reading a text. -/
inductive Obstacle where
  /-- The argument is of no kind and cannot read anything. -/
  | noKind
  /-- The text is to be searched for a pattern for bytes. -/
  | bytesPattern
  deriving DecidableEq

/-- Why an argument gives no value. -/
inductive Refusal where
  | rejected (r : Rejection)
  /-- The argument cannot read the text. -/
  | unusable (obstacle : Obstacle)

/-- What an argument reads: its value and the text that is left. -/
abbrev Reading.Result := Except Refusal (Value × List Char)

namespace LetterCase

/-- The text in the case. -/
def apply : LetterCase → List Char → List Char
  | .upper, cs => Text.upper cs
  | .lower, cs => Text.lower cs

end LetterCase

namespace TextRule

/-- The text in the case that the rule forces. -/
def forced (r : TextRule) (cs : List Char) : List Char :=
  match r.letterCase with
  | none => cs
  | some letterCase => letterCase.apply cs

/-- Whether the pattern of the rule is one for bytes. -/
def ofBytes (r : TextRule) : Bool :=
  r.pattern.any (·.ofBytes)

/-- The first demand that a text, already forced, does not meet.  It is not searched for a pattern
for bytes. -/
def fault? (r : TextRule) (cs : List Char) : Option Reason :=
  let tooShort := r.minimum.bind fun minimum =>
    if cs.length < minimum then some (Reason.tooShort minimum cs.length) else none
  let tooLong := r.maximum.bind fun maximum =>
    if maximum < cs.length then some (Reason.tooLong maximum cs.length) else none
  let unlisted := r.words.bind fun words =>
    if words.contains (String.ofList cs) then none
    else some (Reason.unlisted (String.ofList cs) words)
  let mismatch := r.pattern.bind fun pattern =>
    if pattern.ofBytes || pattern.search cs then none
    else some (Reason.mismatch (String.ofList cs) pattern.source)
  tooShort.or (tooLong.or (unlisted.or mismatch))

end TextRule

namespace NumberRule

/-- The first demand that a number does not meet. -/
def fault? (r : NumberRule) (n : Number) : Option Reason :=
  let below := r.minimum.bind fun minimum =>
    if n.lt minimum then some (Reason.belowMinimum minimum n) else none
  let above := r.maximum.bind fun maximum =>
    if maximum.lt n then some (Reason.aboveMaximum maximum n) else none
  let fractional := if r.integral && n.toInt?.isNone then some (Reason.notWhole n) else none
  let sign := match r.sign with
    | some .positive => if (Number.int 0).lt n then none else some (Reason.notPositive n)
    | some .negative => if n.lt (Number.int 0) then none else some (Reason.notNegative n)
    | none => none
  below.or (above.or (fractional.or sign))

end NumberRule

/-- A number as a value. -/
def Number.toValue : Number → Value
  | .int i => .int i
  | .float x => .float (.finite x)

/-- The value of a group: a mapping from the names of its members. -/
def Record.toValue (record : Record) : Value :=
  .mapping (record.map fun (name, value) => (.text name, value))

namespace Argument

/-- Rejects a text on behalf of an argument. -/
def reject {α : Type} (a : Argument) (reason : Reason) : Except Refusal α :=
  .error (.rejected ⟨a, reason⟩)

mutual
/-- Reads an argument off the front of a text. -/
def validate : Argument → List Char → Reading.Result
  | .bare _, _ => .error (.unusable .noKind)
  | .string label rule, cs =>
      let (token, left) := Text.splitToken cs
      let text := rule.forced token
      match rule.fault? text with
      | some reason => reject (.string label rule) reason
      | none =>
        if rule.ofBytes then .error (.unusable .bytesPattern)
        else .ok (.text (String.ofList text), left)
  | .rest label rule, cs =>
      let text := rule.forced cs
      match rule.fault? text with
      | some reason => reject (.rest label rule) reason
      | none =>
        if rule.ofBytes then .error (.unusable .bytesPattern)
        else .ok (.text (String.ofList text), [])
  | .number label rule, cs =>
      let (token, left) := Text.splitToken cs
      match Number.read? token with
      | none => reject (.number label rule) (.notNumber (String.ofList token))
      | some n =>
        match rule.fault? n with
        | some reason => reject (.number label rule) reason
        | none => .ok (n.toValue, left)
  | .client label, cs =>
      match ClientLink.split? cs with
      | none => reject (.client label) .noClient
      | some (id, left) => .ok (.text (String.ofList id), left)
  | .group label combinator members, cs =>
      let group := Argument.group label combinator members
      if members.isEmpty then reject group (.noMembers label.display)
      else
        match combinator with
        | .and =>
          match validateAll members cs [] with
          | .error e => .error e
          | .ok (record, left) => .ok (record.toValue, left)
        | .or =>
          match validateAny members cs with
          | .error e => .error e
          | .ok none => reject group .noAlternative
          | .ok (some (record, left)) => .ok (record.toValue, left)

/-- Reads arguments one after the other, each from the trimmed text that the one before it left.
The first refusal is the refusal of all. -/
def validateAll : List Argument → List Char → Record → Except Refusal (Record × List Char)
  | [], cs, record => .ok (record, cs)
  | a :: arguments, cs, record =>
      match validate a cs with
      | .error e => .error e
      | .ok (value, left) => validateAll arguments (Text.trim left) (record.put a.name value)

/-- Reads the first argument that accepts the text. -/
def validateAny : List Argument → List Char → Except Refusal (Option (Record × List Char))
  | [], _ => .ok none
  | a :: arguments, cs =>
      match validate a cs with
      | .ok (value, left) => .ok (some ([(a.name, value)], Text.trim left))
      | .error (.unusable obstacle) => .error (.unusable obstacle)
      | .error (.rejected _) => validateAny arguments cs
end

/-- An argument of no kind reads nothing. -/
theorem validate_bare (label : Label) (cs : List Char) :
    (bare label).validate cs = .error (.unusable .noKind) := by
  rw [validate]

end Argument

end Switchboard
