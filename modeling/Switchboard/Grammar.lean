import Switchboard.Argument.Validate

/-!
# Grammar

Reading a whole text by the arguments of a command, from left to right.  An argument that accepts
puts its value into the record and leaves the trimmed rest to the next one.  An argument that may
be left out and rejects puts its fallback there and leaves the text as it is; such a rejection is
kept, since it may explain text that is left over.  An argument that is required and rejects ends
the walk.
-/

namespace Switchboard

/-- How far a walk has come. -/
structure Walk where
  record : Record := []
  /-- The rejections by arguments that were left out, the first one first. -/
  soft : List (Argument × Rejection) := []
  /-- The text that is left. -/
  left : List Char
  /-- The required argument that ended the walk, with its rejection. -/
  hard : Option (Argument × Rejection) := none

namespace Walk

/-- The walk after one more argument.  A walk that has ended stays as it is. -/
def step (w : Walk) (a : Argument) : Except Refusal Walk :=
  if w.hard.isSome then .ok w
  else
    match a.validate w.left with
    | .ok (value, left) =>
        .ok { w with record := w.record.put a.name value, left := Text.trim left }
    | .error (.rejected r) =>
        if a.isOptional then
          .ok { w with record := w.record.put a.name a.absent, soft := w.soft ++ [(a, r)] }
        else .ok { w with hard := some (a, r) }
    | .error (.unusable obstacle) => .error (.unusable obstacle)

/-- The walk after more arguments. -/
def steps (w : Walk) : List Argument → Except Refusal Walk
  | [] => .ok w
  | a :: arguments =>
    match w.step a with
    | .error e => .error e
    | .ok w => w.steps arguments

end Walk

/-- The walk of a grammar over a text. -/
def Walk.along (grammar : List Argument) (text : List Char) : Except Refusal Walk :=
  Walk.steps { left := text } grammar

/-- What a walk amounts to. -/
inductive Verdict where
  /-- Nothing stands in the way of the handler. -/
  | ready
  /-- A required argument is at fault. -/
  | required (argument : Argument) (rejection : Rejection)
  /-- Text is left over, and an argument that was left out may be at fault. -/
  | optional (argument : Argument) (rejection : Rejection)
  /-- Text is left over that nothing asked for. -/
  | surplus

/-- The verdict on a walk: a required argument that rejects goes before everything, left-over text
after a rejection before left-over text that is merely too much.  Only the latter is tolerated. -/
def Walk.verdict (w : Walk) (tolerant : Bool) : Verdict :=
  match w.hard with
  | some (a, r) => .required a r
  | none =>
    if w.left.isEmpty then .ready
    else
      match w.soft with
      | (a, r) :: _ => .optional a r
      | [] => if tolerant then .ready else .surplus

end Switchboard
