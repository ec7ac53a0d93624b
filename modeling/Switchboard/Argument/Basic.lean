import Switchboard.Value

/-!
# Argument

The arguments of a command's grammar.  An argument is a text token, a number token, a reference to
a client, or all the text that is left; groups of arguments are arguments themselves, so a grammar
is a tree of any depth.  Every argument has a label: the name its value is resolved under, the name
it is shown by, and whether it may be left out.
-/

namespace Switchboard

/-- Whether an argument may be left out, and with what in its place.  Only an argument that may be
left out has a fallback. -/
inductive Need where
  | required
  | optional (fallback : Option Value)

/-- What every argument has. -/
structure Label where
  name : String := "_"
  display : String := "_"
  need : Need := .required

/-- The case that a text is forced into. -/
inductive LetterCase where
  | upper
  | lower
  deriving DecidableEq

/-- What a text must satisfy. -/
structure TextRule where
  minimum : Option Nat := none
  maximum : Option Nat := none
  words : Option (List String) := none
  pattern : Option Pattern := none
  letterCase : Option LetterCase := none

/-- The sign that a number must have. -/
inductive Sign where
  | positive
  | negative
  deriving DecidableEq

/-- What a number must satisfy. -/
structure NumberRule where
  minimum : Option Number := none
  maximum : Option Number := none
  integral : Bool := false
  sign : Option Sign := none

/-- How the members of a group are joined. -/
inductive Combinator where
  /-- Every member must match, in order. -/
  | and
  /-- The first member that matches wins. -/
  | or
  deriving DecidableEq

/-- An argument of a grammar. -/
inductive Argument where
  /-- An argument of no kind, which accepts nothing. -/
  | bare (label : Label)
  | string (label : Label) (rule : TextRule)
  | number (label : Label) (rule : NumberRule)
  | client (label : Label)
  | rest (label : Label) (rule : TextRule)
  | group (label : Label) (combinator : Combinator) (members : List Argument)

/-- The kinds of arguments. -/
inductive ArgumentKind where
  | bare
  | string
  | number
  | client
  | rest
  | group
  deriving DecidableEq

namespace ArgumentKind

/-- What an argument of the kind is called in messages. -/
def noun : ArgumentKind → String
  | .bare => "argument"
  | .string => "string-argument"
  | .number => "number-argument"
  | .client => "client-argument"
  | .rest => "rest-argument"
  | .group => "group-argument"

/-- The name of the kind itself. -/
def title : ArgumentKind → String
  | .bare => "Argument"
  | .string => "StringArgument"
  | .number => "NumberArgument"
  | .client => "ClientArgument"
  | .rest => "RestArgument"
  | .group => "GroupArgument"

end ArgumentKind

namespace Combinator

/-- All combinators. -/
def all : List Combinator := [.and, .or]

/-- The word for a combinator. -/
def word : Combinator → String
  | .and => "and"
  | .or => "or"

/-- A combinator as it is shown with its type. -/
def describe : Combinator → String
  | .and => "<Combinator.AND: 'and'>"
  | .or => "<Combinator.OR: 'or'>"

end Combinator

/-- The word for a letter case. -/
def LetterCase.word : LetterCase → String
  | .upper => "upper"
  | .lower => "lower"

/-- The word for a sign. -/
def Sign.word : Sign → String
  | .positive => "positive"
  | .negative => "negative"

namespace Argument

/-- The kind of an argument. -/
def kind : Argument → ArgumentKind
  | .bare _ => .bare
  | .string .. => .string
  | .number .. => .number
  | .client _ => .client
  | .rest .. => .rest
  | .group .. => .group

/-- The label of an argument. -/
def label : Argument → Label
  | .bare label | .string label _ | .number label _ | .client label | .rest label _
  | .group label _ _ => label

/-- The argument under another label. -/
def withLabel (a : Argument) (label : Label) : Argument :=
  match a with
  | .bare _ => .bare label
  | .string _ rule => .string label rule
  | .number _ rule => .number label rule
  | .client _ => .client label
  | .rest _ rule => .rest label rule
  | .group _ combinator members => .group label combinator members

/-- The name that the value is resolved under. -/
def name (a : Argument) : String := a.label.name

/-- The name that the argument is shown by. -/
def display (a : Argument) : String := a.label.display

/-- The value in the place of an argument that was left out. -/
def fallback? (a : Argument) : Option Value :=
  match a.label.need with
  | .required => none
  | .optional fallback => fallback

/-- Whether the argument may be left out. -/
def isOptional (a : Argument) : Bool :=
  match a.label.need with
  | .required => false
  | .optional _ => true

/-- What an argument that was left out resolves to. -/
def absent (a : Argument) : Value :=
  a.fallback?.getD .null

/-- How the argument is shown in a usage line: `<name>`, `[name]` or `[name=fallback]`. -/
def manual (a : Argument) : String :=
  match a.label.need with
  | .required => "<" ++ a.display ++ ">"
  | .optional none => "[" ++ a.display ++ "]"
  | .optional (some fallback) => "[" ++ a.display ++ "=" ++ fallback.display ++ "]"

/-! ### Descriptions -/

/-- The fields of a label as they are described. -/
def labelFields (l : Label) : List (String × String) :=
  [("name", Text.quoted l.name), ("display", Text.quoted l.display),
    ("default", match l.need with
      | .optional (some fallback) => fallback.literal
      | _ => "Unset")]

/-- A field that may not be set. -/
def describeOption {α : Type} (describe : α → String) : Option α → String
  | none => "None"
  | some x => describe x

/-- The fields of a rule for texts as they are described. -/
def textFields (r : TextRule) : List (String × String) :=
  [("minimum", describeOption (fun n => decimalText n) r.minimum),
    ("maximum", describeOption (fun n => decimalText n) r.maximum),
    ("words", describeOption
      (fun words => "[" ++ ", ".intercalate (words.map Text.quoted) ++ "]") r.words),
    ("pattern", describeOption Pattern.describe r.pattern),
    ("case", describeOption (fun c => Text.quoted c.word) r.letterCase)]

/-- The fields of a rule for numbers as they are described. -/
def numberFields (r : NumberRule) : List (String × String) :=
  [("minimum", describeOption Number.text r.minimum),
    ("maximum", describeOption Number.text r.maximum),
    ("integral", (Value.bool r.integral).literal),
    ("sign", describeOption (fun s => Text.quoted s.word) r.sign)]

/-- A description made of a noun and named fields. -/
def fieldText (noun : String) (fields : List (String × String)) : String :=
  noun ++ "(" ++ ", ".intercalate (fields.map fun (name, text) => name ++ "=" ++ text) ++ ")"

mutual
/-- The description of an argument: its kind and all its fields. -/
def describe : Argument → String
  | .bare label => fieldText ArgumentKind.bare.noun (labelFields label)
  | .string label rule =>
      fieldText ArgumentKind.string.noun (labelFields label ++ textFields rule)
  | .number label rule =>
      fieldText ArgumentKind.number.noun (labelFields label ++ numberFields rule)
  | .client label => fieldText ArgumentKind.client.noun (labelFields label)
  | .rest label rule => fieldText ArgumentKind.rest.noun (labelFields label ++ textFields rule)
  | .group label combinator members =>
      fieldText ArgumentKind.group.noun (labelFields label ++
        [("kind", combinator.describe),
          ("arguments", "[" ++ ", ".intercalate (describeAll members) ++ "]")])

/-- The descriptions of arguments in a row. -/
def describeAll : List Argument → List String
  | [] => []
  | a :: arguments => describe a :: describeAll arguments
end

end Argument

end Switchboard
