import Switchboard.Text.Case

/-!
# Text — Fold

Comparing letters when case does not count.  Two letters are the same if their lower cases are
equal or are kin: letters that share an upper case without being each other's case, such as the
three forms of iota.
-/

namespace Switchboard.Text

/-- The families of lower-case letters that share an upper case. -/
def letterFamilies : List (List Nat) := [
  [0x69, 0x131], [0x73, 0x17F], [0xB5, 0x3BC], [0x345, 0x3B9, 0x1FBE], [0x390, 0x1FD3],
  [0x3B0, 0x1FE3], [0x3B2, 0x3D0], [0x3B5, 0x3F5], [0x3B8, 0x3D1], [0x3BA, 0x3F0],
  [0x3C0, 0x3D6], [0x3C1, 0x3F1], [0x3C2, 0x3C3], [0x3C6, 0x3D5], [0x432, 0x1C80],
  [0x434, 0x1C81], [0x43E, 0x1C82], [0x441, 0x1C83], [0x442, 0x1C84, 0x1C85], [0x44A, 0x1C86],
  [0x463, 0x1C87], [0x1C88, 0xA64B], [0x1E61, 0x1E9B], [0xFB05, 0xFB06]]

/-- The letters that count as the given lower-case letter: itself and its kin. -/
def kin (code : Nat) : List Nat :=
  (letterFamilies.find? (·.contains code)).getD [code]

/-- Whether two characters are the same letter when case does not count. -/
def sameLetter (a b : Char) : Bool :=
  (kin (plainLower a.toNat)).contains (plainLower b.toNat)

/-- The lower case of a code point when only ASCII letters have one. -/
def asciiLower (code : Nat) : Nat :=
  if 65 ≤ code && code ≤ 90 then code + 32 else code

/-- Takes a text off the front of another when case does not count. -/
def dropSame? : List Char → List Char → Option (List Char)
  | [], cs => some cs
  | _ :: _, [] => none
  | p :: ps, c :: cs => if sameLetter p c then dropSame? ps cs else none

end Switchboard.Text
