import Switchboard.Pattern.Syntax

/-!
# Pattern — Width

The least and the greatest number of characters that a piece can match.  A look-behind needs the
two to be equal.  Widths stop at a bound that no text reaches.
-/

namespace Switchboard.Pattern

/-- Widths stop at this bound. -/
def maxWidth : Nat := Nat.pow 2 64

/-- Repetition counts stay below this bound. -/
def repetitionBound : Nat := Nat.pow 2 32 - 1

/-- A least and a greatest width. -/
structure Width where
  least : Nat
  greatest : Nat
  deriving DecidableEq, Inhabited

namespace Width

/-- The width of two pieces in a row. -/
def add (a b : Width) : Width := ⟨a.least + b.least, a.greatest + b.greatest⟩

/-- The width of one of two. -/
def either (a b : Width) : Width := ⟨min a.least b.least, max a.greatest b.greatest⟩

/-- The width, stopped at the bound. -/
def clamp (a : Width) : Width := ⟨min a.least maxWidth, min a.greatest maxWidth⟩

/-- The width of a repeated piece. -/
def times (a : Width) (least : Nat) : Option Nat → Width
  | some most => ⟨a.least * least, a.greatest * most⟩
  | none => ⟨a.least * least, if a.greatest = 0 then 0 else maxWidth⟩

end Width

mutual
/-- The width of a piece, given the widths of the groups that are closed before it. -/
def Piece.width (groups : Nat → Width) : Piece → Width
  | .literal _ | .otherThan _ | .anything | .set .. => ⟨1, 1⟩
  | .anchor _ | .look .. => ⟨0, 0⟩
  | .backReference group => groups group
  | .group _ _ _ body => sequenceWidth groups body
  | .atomic body => sequenceWidth groups body
  | .branch alternatives => branchWidth groups alternatives
  | .times _ least most body => (sequenceWidth groups body).times least most
  | .condition _ yes no => (sequenceWidth groups yes).either (sequenceWidth groups no)

/-- The width of pieces in a row. -/
def sequenceWidth (groups : Nat → Width) : List Piece → Width
  | [] => ⟨0, 0⟩
  | piece :: pieces => (Width.add (piece.width groups) (sequenceWidth groups pieces)).clamp

/-- The width of one of several sequences. -/
def branchWidth (groups : Nat → Width) : List (List Piece) → Width
  | [] => ⟨0, 0⟩
  | [sequence] => sequenceWidth groups sequence
  | sequence :: sequences =>
      (sequenceWidth groups sequence).either (branchWidth groups sequences)
end

end Switchboard.Pattern
