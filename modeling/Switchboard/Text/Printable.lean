import Switchboard.Text.PrintableTable

/-!
# Text — Printable

The characters that show when printed.  The space is the only separator among them.
-/

namespace Switchboard.Text

/-- Whether the character shows when printed. -/
def isPrintable (c : Char) : Bool :=
  let n := c.toNat
  if n < 128 then 32 ≤ n && n ≤ 126 else !unprintableRanges.holds n

end Switchboard.Text
