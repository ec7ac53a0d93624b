import Switchboard.Misuse

/-!
# Naming

Giving something that can be called a name of its own: at once, or later by a renamer that is made
from the name.
-/

namespace Switchboard

/-- What is given to be renamed. -/
inductive Nameable where
  | callable
  /-- It can be called, but its name is fixed. -/
  | fixedName
  | value (v : Value)

namespace Nameable

/-- Whether it can be called. -/
def isCallable : Nameable → Bool
  | .callable | .fixedName => true
  | .value v => v.isCallable

/-- The name that it is, if it is a text. -/
def text? : Nameable → Option String
  | .value v => v.text?
  | _ => none

end Nameable

/-- What comes of renaming: the name, and whether it is the name of what was given. -/
structure Renamed where
  name : String
  same : Bool

/-- Renames what is given, which keeps being the same. -/
def renameTo (target name : Nameable) : Except Misuse Renamed :=
  if !target.isCallable then .error .renameTarget
  else
    match name.text? with
    | none => .error .renameName
    | some name =>
      match target with
      | .fixedName => .error .renameFixed
      | _ => .ok { name, same := true }

/-- Renames by a renamer that was made from a name. -/
def renameLater (name target : Nameable) : Except Misuse Renamed :=
  match name.text? with
  | none => .error .renamerName
  | some _ => if target.isCallable then renameTo target name else .error .renamerTarget

/-- Renames what comes first to what comes second; a name alone makes a renamer, which is named for
what it does. -/
def rename : List Nameable → Except Misuse Renamed
  | [target, name] => renameTo target name
  | [name] => if name.text?.isSome then .ok { name := "rename", same := false }
      else .error .renamerName
  | parameters => .error (.renameCount parameters.length)

end Switchboard
