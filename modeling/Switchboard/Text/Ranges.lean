/-!
# Text — Ranges

A class of characters as a table of ranges of code points.  The tables of this folder are of this
form; a table lists its ranges in ascending order, so a look-up stops at the first range that lies
beyond the code point it looks for.
-/

namespace Switchboard.Text

/-- A class of characters: ascending ranges of code points, both ends included. -/
abbrev Ranges := List (Nat × Nat)

/-- Whether a range of the table holds the code point. -/
def Ranges.holds : Ranges → Nat → Bool
  | [], _ => false
  | (first, last) :: later, code =>
      if code < first then false
      else if code ≤ last then true
      else Ranges.holds later code

end Switchboard.Text
