import Switchboard.Text.IdentifierTable

/-!
# Text — Identifier

Names made of letters, digits and the low line that do not begin with a digit.
-/

namespace Switchboard.Text

/-- Whether the character may begin an identifier. -/
def startsIdentifier (c : Char) : Bool :=
  if c.toNat < 128 then c.isAlpha || c == '_' else identifierStartRanges.holds c.toNat

/-- Whether the character may stand in an identifier after its first character. -/
def continuesIdentifier (c : Char) : Bool :=
  if c.toNat < 128 then c.isAlphanum || c == '_'
  else identifierStartRanges.holds c.toNat || identifierRestRanges.holds c.toNat

/-- Whether the text is an identifier. -/
def isIdentifier : List Char → Bool
  | [] => false
  | c :: cs => startsIdentifier c && cs.all continuesIdentifier

end Switchboard.Text
