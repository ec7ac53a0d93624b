import Switchboard.Argument.Basic
import Switchboard.Text.Case

/-!
# Argument — Builder

Making arguments and laying demands on them, one call at a time.  A call is given whatever a host
hands over; one that is refused says why.  Naming an argument is in two parts, the name and then
the display, so a naming with a wrong display still gives the name.  A pattern that a host has made
is taken as it is, also if it is one for bytes.

Arguments are trees: a group is not made a member of itself, directly or through others.
-/

namespace Switchboard

/-- The two bounds of a rule. -/
inductive Bound where
  | min
  | max
  deriving DecidableEq

/-- The word for a bound. -/
def Bound.word : Bound → String
  | .min => "min"
  | .max => "max"

/-- Why an argument cannot be made or a call is refused. -/
inductive BuildError where
  | unknownKind
  | unknownCombinator (given : Value)
  | nameNotText (kind : ArgumentKind)
  | nameEmpty (kind : ArgumentKind)
  | nameCharacters (kind : ArgumentKind)
  | displayNotText (kind : ArgumentKind)
  | boundNotNumber (kind : ArgumentKind) (bound : Bound)
  | boundNotLength (kind : ArgumentKind) (bound : Bound)
  | boundNotFinite (kind : ArgumentKind) (bound : Bound)
  /-- A bound is beyond the range of binary64 numbers. -/
  | boundTooLarge
  | notPattern (kind : ArgumentKind)
  | badPattern (e : Pattern.Error)
  | wordsAreText (kind : ArgumentKind)
  | wordsNotTexts (kind : ArgumentKind)
  | wordsNotMany (kindName : String)
  | memberNotArgument (kind : ArgumentKind)
  /-- Arguments of the kind have no such call. -/
  | noSuchCall (kind : ArgumentKind) (call : String)

/-- The words for the primitive kinds, in the order in which they are listed. -/
def ArgumentKind.words : List (String × ArgumentKind) :=
  [("string", .string), ("number", .number), ("client", .client), ("rest", .rest)]

/-- The wording of a refusal. -/
def BuildError.message : BuildError → String
  | .unknownKind =>
      "Argument type not found! Available Arguments: " ++
        ", ".intercalate (ArgumentKind.words.map (·.1))
  | .unknownCombinator given =>
      "Unexpected group argument type, expected one of [" ++
        ", ".intercalate (Combinator.all.map (·.word)) ++ "] but got " ++ given.literal
  | .nameNotText kind => kind.noun ++ " 'name' must be a string"
  | .nameEmpty kind => kind.noun ++ " 'name' must be at least 1 char long"
  | .nameCharacters kind => kind.noun ++ " 'name' should contain only chars A-z, 0-9 and _"
  | .displayNotText kind => kind.noun ++ " 'display' must be a string"
  | .boundNotNumber kind bound => kind.noun ++ " '" ++ bound.word ++ "' must be a number"
  | .boundNotLength kind bound =>
      kind.noun ++ " '" ++ bound.word ++ "' must be a non-negative integer"
  | .boundNotFinite kind bound => kind.noun ++ " '" ++ bound.word ++ "' must be finite"
  | .boundTooLarge => "int too large to convert to float"
  | .notPattern kind => kind.noun ++ " 'pattern' must be a string or a compiled pattern"
  | .badPattern .malformed => "malformed pattern"
  | .badPattern .repetitionTooLarge => "the repetition number is too large"
  | .badPattern .characterSetConflict => "ASCII and UNICODE flags are incompatible"
  | .badPattern (.tooManyDigits count) =>
      "Exceeds the limit (4300 digits) for integer string conversion: value has " ++
        decimalText count ++
        " digits; use sys.set_int_max_str_digits() to increase the limit"
  | .wordsAreText kind =>
      kind.noun ++ " 'whitelist' must be an iterable of strings, not a string"
  | .wordsNotTexts kind => kind.noun ++ " 'whitelist' must contain only strings"
  | .wordsNotMany kindName => "'" ++ kindName ++ "' object is not iterable"
  | .memberNotArgument kind => kind.noun ++ " children must be arguments"
  | .noSuchCall kind call => "'" ++ kind.title ++ "' object has no attribute '" ++ call ++ "'"

/-- A call that lays a demand on an argument. -/
inductive Build where
  | setName (name display : Value)
  | optional (fallback : Value)
  | min (bound : Value)
  | max (bound : Value)
  | matching (pattern : Value)
  | whitelist (words : Value)
  | forceUpper
  | forceLower
  | integer
  | positive
  | negative
  /-- Adds members to a group; what is no argument is nothing. -/
  | add (members : List (Option Argument))

/-- The name of a call. -/
def Build.word : Build → String
  | .setName .. => "set_name"
  | .optional _ => "optional"
  | .min _ => "min"
  | .max _ => "max"
  | .matching _ => "match"
  | .whitelist _ => "whitelist"
  | .forceUpper => "force_upper_case"
  | .forceLower => "force_lower_case"
  | .integer => "integer"
  | .positive => "positive"
  | .negative => "negative"
  | .add _ => "argument"

/-- An argument after a call, and why the call was refused if it was. -/
structure Built where
  argument : Argument
  error : Option BuildError := none

namespace Argument

/-- Whether the character may stand in the name of an argument. -/
def isNameChar (c : Char) : Bool :=
  c.isAlphanum || c == '_'

/-- The name that a value gives. -/
def checkName (kind : ArgumentKind) : Value → Except BuildError String
  | .text name =>
      if name.isEmpty then .error (.nameEmpty kind)
      else if name.toList.all isNameChar then .ok name
      else .error (.nameCharacters kind)
  | _ => .error (.nameNotText kind)

/-- Whole numbers from this one on are beyond the range of binary64 numbers. -/
def floatRange : Nat := Nat.pow 2 1024 - Nat.pow 2 970

/-- The whole number, if it is within the range of binary64 numbers. -/
def checkRange (i : Int) : Except BuildError Int :=
  if i.natAbs < floatRange then .ok i else .error .boundTooLarge

/-- The whole number that a value is; a truth value is none. -/
def whole? : Value → Option Int
  | .int i => some i
  | .verbosity v => some v.index
  | _ => none

/-- The bound of numbers that a value gives. -/
def checkBound (kind : ArgumentKind) (bound : Bound) (v : Value) : Except BuildError Number :=
  match whole? v, v with
  | some i, _ => (checkRange i).map .int
  | none, .float (.finite x) => .ok (.float x)
  | none, .float _ => .error (.boundNotFinite kind bound)
  | none, _ => .error (.boundNotNumber kind bound)

/-- The bound of lengths that a value gives. -/
def checkLength (kind : ArgumentKind) (bound : Bound) (v : Value) : Except BuildError Nat :=
  match whole? v, v with
  | some i, _ =>
      if i < 0 then .error (.boundNotLength kind bound) else (checkRange i).map Int.toNat
  | none, .float _ => .error (.boundNotLength kind bound)
  | none, _ => .error (.boundNotNumber kind bound)

/-- The pattern that a value gives. -/
def checkPattern (kind : ArgumentKind) : Value → Except BuildError Pattern
  | .text source => (Pattern.compile source).mapError .badPattern
  | .pattern p => .ok p
  | _ => .error (.notPattern kind)

/-- The words that a value gives. -/
def checkWords (kind : ArgumentKind) : Value → Except BuildError (List String)
  | .text _ => .error (.wordsAreText kind)
  | v =>
    match v.members? with
    | none => .error (.wordsNotMany v.fullKindName)
    | some members =>
      match members.mapM Value.text? with
      | none => .error (.wordsNotTexts kind)
      | some words => .ok words

/-- Names an argument.  The name stands even if the display is refused. -/
def setName (a : Argument) (name display : Value) : Built :=
  match checkName a.kind name with
  | .error e => ⟨a, some e⟩
  | .ok name =>
    let shownBy (display : String) : Argument := a.withLabel { a.label with name, display }
    match display with
    | .unset => ⟨shownBy name, none⟩
    | .text display => ⟨shownBy (if display.isEmpty then name else display), none⟩
    | _ => ⟨shownBy a.display, some (.displayNotText a.kind)⟩

/-- Lets an argument be left out, with a fallback unless the value is the unset one. -/
def setOptional (a : Argument) (fallback : Value) : Argument :=
  let fallback := match fallback with
    | .unset => none
    | fallback => some fallback
  a.withLabel { a.label with need := .optional fallback }

/-- What a call changes in a rule for texts, if it is a call on texts. -/
def textChange? (kind : ArgumentKind) : Build → Option (Except BuildError (TextRule → TextRule))
  | .min bound => some <|
      (checkLength kind .min bound).map fun n r => { r with minimum := some n }
  | .max bound => some <|
      (checkLength kind .max bound).map fun n r => { r with maximum := some n }
  | .matching pattern => some <|
      (checkPattern kind pattern).map fun p r => { r with pattern := some p }
  | .whitelist words => some <|
      (checkWords kind words).map fun words r => { r with words := some (r.words.getD [] ++ words) }
  | .forceUpper => some (.ok fun r => { r with letterCase := some .upper })
  | .forceLower => some (.ok fun r => { r with letterCase := some .lower })
  | _ => none

/-- What a call changes in a rule for numbers, if it is a call on numbers. -/
def numberChange? (kind : ArgumentKind) :
    Build → Option (Except BuildError (NumberRule → NumberRule))
  | .min bound => some <|
      (checkBound kind .min bound).map fun n r => { r with minimum := some n }
  | .max bound => some <|
      (checkBound kind .max bound).map fun n r => { r with maximum := some n }
  | .integer => some (.ok fun r => { r with integral := true })
  | .positive => some (.ok fun r => { r with sign := some .positive })
  | .negative => some (.ok fun r => { r with sign := some .negative })
  | _ => none

/-- Calls a builder on an argument. -/
def build (a : Argument) (call : Build) : Built :=
  let refuse : Built := ⟨a, some (.noSuchCall a.kind call.word)⟩
  match call, a with
  | .setName name display, _ => a.setName name display
  | .optional fallback, _ => ⟨a.setOptional fallback, none⟩
  | .add members, .group label combinator old =>
      match members.mapM id with
      | none => ⟨a, some (.memberNotArgument a.kind)⟩
      | some members => ⟨.group label combinator (old ++ members), none⟩
  | call, .string label rule =>
      match textChange? .string call with
      | none => refuse
      | some (.error e) => ⟨a, some e⟩
      | some (.ok change) => ⟨.string label (change rule), none⟩
  | call, .rest label rule =>
      match textChange? .rest call with
      | none => refuse
      | some (.error e) => ⟨a, some e⟩
      | some (.ok change) => ⟨.rest label (change rule), none⟩
  | call, .number label rule =>
      match numberChange? .number call with
      | none => refuse
      | some (.error e) => ⟨a, some e⟩
      | some (.ok change) => ⟨.number label (change rule), none⟩
  | _, _ => refuse

/-- Gives a new argument the name it was asked for with, if any. -/
def named (a : Argument) (name display : Value) : Except BuildError Argument :=
  match name with
  | .unset => .ok a
  | name =>
    match a.setName name display with
    | ⟨a, none⟩ => .ok a
    | ⟨_, some e⟩ => .error e

/-- An argument of a kind without demands. -/
def ofKind : ArgumentKind → Argument
  | .bare => .bare {}
  | .string => .string {} {}
  | .number => .number {} {}
  | .client => .client {}
  | .rest => .rest {} {}
  | .group => .group {} .and []

/-- Makes an argument of the primitive kind that a word names, in any case. -/
def make (kind name display : Value) : Except BuildError Argument :=
  match kind with
  | .text word =>
    match ArgumentKind.words.lookup (String.ofList (Text.lower word.toList)) with
    | some kind => (ofKind kind).named name display
    | none => .error .unknownKind
  | _ => .error .unknownKind

/-- Makes an empty group of the combinator that a word names, in any case. -/
def makeGroup (combinator name display : Value) : Except BuildError Argument :=
  match combinator with
  | .text word =>
    let word := String.ofList (Text.lower word.toList)
    match Combinator.all.find? (·.word == word) with
    | some combinator => (Argument.group {} combinator []).named name display
    | none => .error (.unknownCombinator (.text word))
  | given => .error (.unknownCombinator given)

/-- Makes an argument of no kind. -/
def makeBare (name display : Value) : Except BuildError Argument :=
  (Argument.bare {}).named name display

end Argument

end Switchboard
