import Switchboard.Text.CaseTable

/-!
# Text — Case

Upper and lower case of a text.  A letter may have several letters for its other case, and a sigma
is lowered to its final form where it ends a word: where the nearest character before it that is
not passed over has a case, and the nearest one after it has none.
-/

namespace Switchboard.Text

/-- The image of a code point under the run, if the run holds it. -/
def CaseRun.image? (r : CaseRun) (code : Nat) : Option Nat :=
  if r.first ≤ code && code ≤ r.last && (code - r.first) % r.stride == 0 then
    some (code - r.first + r.image)
  else none

/-- The other case of a code point: several letters, or one, or itself. -/
def otherCase (expansions : List (Nat × List Nat)) (runs : List CaseRun) (code : Nat) : List Nat :=
  match expansions.lookup code with
  | some codes => codes
  | none =>
    match runs.findSome? (·.image? code) with
    | some image => [image]
    | none => [code]

/-- The upper case of a code point. -/
def upperCode (code : Nat) : List Nat :=
  if code < 128 then
    if 97 ≤ code && code ≤ 122 then [code - 32] else [code]
  else otherCase upperExpansions upperRuns code

/-- The lower case of a code point on its own. -/
def lowerCode (code : Nat) : List Nat :=
  if code < 128 then
    if 65 ≤ code && code ≤ 90 then [code + 32] else [code]
  else otherCase lowerExpansions lowerRuns code

/-- The first letter of the lower case of a code point: the form in which letters are compared
when case does not count. -/
def plainLower (code : Nat) : Nat :=
  (lowerCode code).headD code

/-- The first letter of the upper case of a code point. -/
def plainUpper (code : Nat) : Nat :=
  (upperCode code).headD code

/-- Whether the character has a case. -/
def isCased (c : Char) : Bool :=
  if c.toNat < 128 then c.isAlpha else casedRanges.holds c.toNat

/-- Whether the character is passed over when the case of a neighbour is asked. -/
def isCaseIgnorable (c : Char) : Bool :=
  if c.toNat < 128 then
    c == '\'' || c == '.' || c == ':' || c == '^' || c == '`'
  else caseIgnorableRanges.holds c.toNat

/-- Whether the nearest character that is not passed over has a case. -/
def startsCased : List Char → Bool
  | [] => false
  | c :: cs => if isCaseIgnorable c then startsCased cs else isCased c

/-- Lowers a text, knowing whether the nearest character before it has a case. -/
def lowerAfter (cased : Bool) : List Char → List Char
  | [] => []
  | c :: cs =>
      let lowered :=
        if c == 'Σ' then [if cased && !startsCased cs then 'ς' else 'σ']
        else (lowerCode c.toNat).map Char.ofNat
      lowered ++ lowerAfter (if isCaseIgnorable c then cased else isCased c) cs

/-- The text in lower case. -/
def lower (cs : List Char) : List Char :=
  lowerAfter false cs

/-- The text in upper case. -/
def upper (cs : List Char) : List Char :=
  cs.flatMap fun c => (upperCode c.toNat).map Char.ofNat

end Switchboard.Text
