import Switchboard.Number.Basic
import Switchboard.Pattern.Basic
import Switchboard.Verbosity

/-!
# Value

The values that a host hands over and gets back: what arguments resolve to, what stands in for an
argument that was left out, and what is given in place of a name, a bound or a callback, right or
wrong.  A host's own callbacks are known by number; what they do is the host's affair.

Texts are rows of Unicode characters, so a lone surrogate is no text.  Whole numbers are written out
however long they are, while the interpreter refuses to write more than 4300 digits and raises a
`ValueError`.  That concerns whole numbers that a host hands over and that a manual, a description or
a message shows, such as what stands in for an argument that was left out; bounds and the numbers of
tokens never have so many digits.
-/

namespace Switchboard

/-- A value of a host. -/
inductive Value where
  | null
  | bool (b : Bool)
  | int (i : Int)
  | float (x : Float64)
  | text (s : String)
  | list (items : List Value)
  | mapping (entries : List (Value × Value))
  | set (members : List String)
  /-- The sign that a value was not given, which is not the same as the null value. -/
  | unset
  | verbosity (v : Verbosity)
  | pattern (p : Pattern)
  /-- A callback that answers every call with one value. -/
  | constant (result : Value)
  /-- A callback of the host. -/
  | callback (id : Nat)
  deriving Inhabited

/-- The values resolved for the arguments of a line, by name, in the order of first occurrence. -/
abbrev Record := List (String × Value)

/-- Puts a value under a name: in the place of the old one, or at the end. -/
def Record.put : Record → String → Value → Record
  | [], name, value => [(name, value)]
  | (n, v) :: record, name, value =>
      if n = name then (n, value) :: record else (n, v) :: Record.put record name value

/-- The value under a name. -/
def Record.get? (record : Record) (name : String) : Option Value :=
  record.lookup name

namespace Value

/-- The value as a number: truth values count as 0 and 1, a verbosity as its index. -/
def number? : Value → Option Number
  | .bool b => some (.int (if b then 1 else 0))
  | .int i => some (.int i)
  | .float (.finite x) => some (.float x)
  | .verbosity v => some (.int v.index)
  | _ => none

/-- Whether the value equals a whole number. -/
def isNumber (v : Value) (n : Int) : Bool :=
  match v.number? with
  | some m => m.same (.int n)
  | none => false

/-- Whether the value is a given text. -/
def isText (v : Value) (s : String) : Bool :=
  match v with
  | .text t => t == s
  | _ => false

/-- The text that the value is. -/
def text? : Value → Option String
  | .text s => some s
  | _ => none

/-- Whether the value can be called. -/
def isCallable : Value → Bool
  | .constant _ | .callback _ => true
  | _ => false

/-- Whether the value counts as true. -/
def isTrue : Value → Bool
  | .null | .unset => false
  | .bool b => b
  | .int i => i != 0
  | .float (.finite x) => x.significand != 0
  | .float _ => true
  | .text s => !s.isEmpty
  | .list items => !items.isEmpty
  | .mapping entries => !entries.isEmpty
  | .set members => !members.isEmpty
  | .verbosity v => v.index != 0
  | .pattern _ | .constant _ | .callback _ => true

/-- A value in the place of the missing one. -/
def orElse (v fallback : Value) : Value :=
  match v with
  | .unset => fallback
  | v => v

/-- The name of the kind of a value. -/
def kindName : Value → String
  | .null => "NoneType"
  | .bool _ => "bool"
  | .int _ => "int"
  | .float _ => "float"
  | .text _ => "str"
  | .list _ => "list"
  | .mapping _ => "dict"
  | .set _ => "set"
  | .unset => "UnsetType"
  | .verbosity _ => "Verbosity"
  | .pattern _ => "Pattern"
  | .constant _ | .callback _ => "function"

/-- The name of the kind of a value with the part of the library that the kind belongs to. -/
def fullKindName : Value → String
  | .pattern _ => "re.Pattern"
  | v => v.kindName

mutual
/-- The value as a literal. -/
def literal : Value → String
  | .null => "None"
  | .bool b => if b then "True" else "False"
  | .int i => decimalText i
  | .float x => x.text
  | .text s => Text.quoted s
  | .list items => "[" ++ literalItems items ++ "]"
  | .mapping entries => "\x7b" ++ literalEntries entries ++ "\x7d"
  | .set members =>
      if members.isEmpty then "set()"
      else "\x7b" ++ ", ".intercalate (members.map Text.quoted) ++ "\x7d"
  | .unset => "Unset"
  | .verbosity v => v.describe
  | .pattern p => p.describe
  | .constant _ | .callback _ => "<function>"

/-- Values in a row as literals. -/
def literalItems : List Value → String
  | [] => ""
  | [item] => literal item
  | item :: items => literal item ++ ", " ++ literalItems items

/-- Entries of a mapping as literals. -/
def literalEntries : List (Value × Value) → String
  | [] => ""
  | [(key, value)] => literal key ++ ": " ++ literal value
  | (key, value) :: entries =>
      literal key ++ ": " ++ literal value ++ ", " ++ literalEntries entries
end

/-- The value as it reads inside a sentence: a text is itself. -/
def display : Value → String
  | .text s => s
  | .verbosity v => decimalText v.index
  | v => literal v

/-- The number of members of a value that has any. -/
def size? : Value → Option Nat
  | .text s => some s.length
  | .list items => some items.length
  | .mapping entries => some entries.length
  | .set members => some members.length
  | _ => none

/-- The members of a value that can be gone through; those of a mapping are its keys. -/
def members? : Value → Option (List Value)
  | .text s => some (s.toList.map fun c => .text (String.ofList [c]))
  | .list items => some items
  | .mapping entries => some (entries.map (·.1))
  | .set members => some (members.map .text)
  | _ => none

end Value

end Switchboard
