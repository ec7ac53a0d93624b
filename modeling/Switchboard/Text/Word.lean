import Switchboard.Text.WordTable

/-!
# Text — Word

The characters a word is made of: letters, digits, numerals and the low line.
-/

namespace Switchboard.Text

/-- The word characters of ASCII. -/
def isAsciiWord (c : Char) : Bool :=
  c.isAlphanum || c == '_'

/-- The word characters of Unicode. -/
def isWord (c : Char) : Bool :=
  if c.toNat < 128 then isAsciiWord c else wordRanges.holds c.toNat

end Switchboard.Text
