import Switchboard.Misuse

/-!
# View

Read-only views of values, and the value that stands for none.  A view shows a list, a mapping or a
set as a copy, so that nobody changes it through the view, and everything else as it is.
-/

namespace Switchboard

/-- A read-only view. -/
structure View where
  name : String
  value : Value
  /-- Whether the view shows a copy. -/
  copied : Bool

/-- A view of a value under a name. -/
def View.of (name value : Value) : Except Misuse View :=
  match name with
  | .text name =>
      let copied := match value with
        | .list _ | .mapping _ | .set _ => true
        | _ => false
      .ok { name, value, copied }
  | _ => .error .viewName

/-- A type that can be joined with the type of the unset value. -/
inductive Joinable where
  | text
  | null
  | unset

/-- The type that a value stands for when it is joined with others; the word for texts stands for
the type of texts. -/
def Value.joinable? : Value → Option Joinable
  | .text word => if word == "str" then some .text else none
  | .null => some .null
  | .unset => some .unset
  | _ => none

/-- Whether texts belong to a type joined with that of the unset value. -/
def Joinable.holdsText : Joinable → Bool
  | .text => true
  | _ => false

/-- Whether a value is a text or unset. -/
def Value.isTextOrUnset : Value → Bool
  | .text _ | .unset => true
  | _ => false

end Switchboard
