/-!
# Text — Blank

The characters that count as white space, and cutting them off the ends of a text.  A text that
is being read is a list of characters, so that what is left of it is a suffix of what it was.
-/

namespace Switchboard.Text

/-- White space: the space, the tabulators and line ends of ASCII with its four separators, and
the spaces and line ends of Unicode. -/
def isBlank (c : Char) : Bool :=
  let n := c.toNat
  if n < 128 then n == 32 || (9 ≤ n && n ≤ 13) || (28 ≤ n && n ≤ 31)
  else n == 0x85 || n == 0xA0 || n == 0x1680 || (0x2000 ≤ n && n ≤ 0x200A) || n == 0x2028 ||
    n == 0x2029 || n == 0x202F || n == 0x205F || n == 0x3000

/-- The white space of ASCII that may stand around a number. -/
def isAsciiBlank (c : Char) : Bool :=
  let n := c.toNat
  n == 32 || (9 ≤ n && n ≤ 13)

/-- Cuts off the longest end whose characters all pass. -/
def dropEndWhile (p : Char → Bool) (cs : List Char) : List Char :=
  (cs.reverse.dropWhile p).reverse

/-- Cuts off both ends as far as their characters pass. -/
def trimWhile (p : Char → Bool) (cs : List Char) : List Char :=
  dropEndWhile p (cs.dropWhile p)

/-- Cuts the white space off both ends. -/
def trim (cs : List Char) : List Char :=
  trimWhile isBlank cs

end Switchboard.Text
