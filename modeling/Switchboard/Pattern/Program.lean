import Switchboard.Pattern.Width
import Switchboard.Text.Blank
import Switchboard.Text.Digit
import Switchboard.Text.Fold
import Switchboard.Text.Word

/-!
# Pattern — Program

What a pattern means once its switches are applied: a tree of tests, each about one character or
one place, joined by sequence, choice and repetition.
-/

namespace Switchboard.Pattern

/-- How letters are compared. -/
inductive Letters where
  /-- A letter is only the same as itself. -/
  | exact
  /-- The two cases of an ASCII letter are the same. -/
  | ascii
  /-- All cases and kin of a letter are the same. -/
  | unicode
  deriving DecidableEq

/-- How letters are compared under the switches. -/
def Flags.letters (flags : Flags) : Letters :=
  if !flags.ignoreCase then .exact else if flags.unicode then .unicode else .ascii

/-- The form in which a code point is compared. -/
def Letters.fold : Letters → Nat → Nat
  | .exact, code => code
  | .ascii, code => Text.asciiLower code
  | .unicode, code => Text.plainLower code

/-- Whether a character counts as the letter of a code point. -/
def Letters.same : Letters → Nat → Nat → Bool
  | .exact, code, n => code == n
  | .ascii, code, n => Text.asciiLower code == Text.asciiLower n
  | .unicode, code, n => (Text.kin (Text.plainLower code)).contains (Text.plainLower n)

/-- Whether a character belongs to a class. -/
def Category.holds (ascii : Bool) : Category → Nat → Bool
  | .digit, n =>
      if ascii then 48 ≤ n && n ≤ 57 else Text.isDecimal (Char.ofNat n)
  | .space, n =>
      if ascii then n == 32 || (9 ≤ n && n ≤ 13) else Text.isBlank (Char.ofNat n)
  | .word, n =>
      if ascii then n < 128 && Text.isAsciiWord (Char.ofNat n) else Text.isWord (Char.ofNat n)

/-- The greatest code point of the basic plane. -/
def basicPlaneEnd : Nat := 0xFFFF

/-- The code points whose comparison form is the given one. -/
def Letters.preimages (letters : Letters) (folded : Nat) : List Nat :=
  match letters with
  | .exact => [folded]
  | .ascii => if 97 ≤ folded && folded ≤ 122 then [folded, folded - 32] else [folded]
  | .unicode =>
      let unshift (r : Text.CaseRun) : List Nat :=
        let last := r.last - r.first + r.image
        if r.image ≤ folded && folded ≤ last && (folded - r.image) % r.stride == 0 then
          [folded - r.image + r.first] else []
      let upperAscii := if 97 ≤ folded && folded ≤ 122 then [folded - 32] else []
      let expanded := (Text.lowerExpansions.filter (·.2.head? == some folded)).map (·.1)
      folded :: upperAscii ++ expanded ++ Text.lowerRuns.flatMap unshift

/-- Whether a range of a set holds a character in comparison form.  The part of the range in the
basic plane is compared by letters; beyond it, the form or its upper case must lie in the range. -/
def Letters.inRange (letters : Letters) (first last folded : Nat) : Bool :=
  let within (n : Nat) : Bool := first ≤ n && n ≤ last
  match letters with
  | .exact => within folded
  | _ =>
    let relatives := match letters with
      | .unicode => Text.kin folded
      | _ => [folded]
    let basic := relatives.any fun relative =>
      relative ≤ basicPlaneEnd && (letters.preimages relative).any within
    basic || (basicPlaneEnd < last && (within folded || within (Text.plainUpper folded)))

/-- Whether a member of a set holds a character in comparison form.  A member beyond the basic
plane is compared as it stands. -/
def SetItem.holds (letters : Letters) (ascii : Bool) (folded : Nat) : SetItem → Bool
  | .literal code =>
      if letters != .exact && basicPlaneEnd < letters.fold code then code == folded
      else letters.same code folded
  | .range first last => letters.inRange first last folded
  | .category kind negated => kind.holds ascii folded != negated

/-- A test of one character. -/
inductive CharTest where
  | any
  | notLineEnd
  | letter (letters : Letters) (code : Nat) (negated : Bool)
  | set (letters : Letters) (ascii : Bool) (items : List SetItem) (negated : Bool)

/-- Whether a character passes. -/
def CharTest.passes (c : Char) : CharTest → Bool
  | .any => true
  | .notLineEnd => c != '\n'
  | .letter letters code negated => letters.same code c.toNat != negated
  | .set letters ascii items negated =>
      items.any (·.holds letters ascii (letters.fold c.toNat)) != negated

/-- A test of one place. -/
inductive Place where
  | textStart
  | lineStart
  | textEnd
  | lineEnd
  /-- The end of the text or before its last line end. -/
  | lastLineEnd
  | wordEdge (ascii negated : Bool)

/-- A tree of tests. -/
inductive Node where
  | empty
  | char (test : CharTest)
  | place (test : Place)
  | sequence (first second : Node)
  | choice (first second : Node)
  | group (index : Nat) (body : Node)
  | backReference (letters : Letters) (index : Nat)
  | times (greed : Greed) (least : Nat) (most : Option Nat) (body : Node)
  | atomic (body : Node)
  /-- The body matches from here on; `back` characters back for a look-behind. -/
  | look (back : Nat) (positive : Bool) (body : Node)
  | condition (index : Nat) (yes no : Node)

/-- The place of an anchor under the switches. -/
def Anchor.place (flags : Flags) : Anchor → Place
  | .caret => if flags.multiline then .lineStart else .textStart
  | .dollar => if flags.multiline then .lineEnd else .lastLineEnd
  | .textStart => .textStart
  | .textEnd => .textEnd
  | .wordEdge => .wordEdge (!flags.unicode) false
  | .notWordEdge => .wordEdge (!flags.unicode) true

mutual
/-- Applies the switches to a piece.  A look-behind needs a fixed width. -/
def Piece.node (groups : Nat → Width) (flags : Flags) : Piece → Except Error Node
  | .literal code => return .char (.letter flags.letters code false)
  | .otherThan code => return .char (.letter flags.letters code true)
  | .anything => return .char (if flags.dotAll then .any else .notLineEnd)
  | .set negated items => return .char (.set flags.letters (!flags.unicode) items negated)
  | .anchor place => return .place (place.place flags)
  | .backReference group =>
      return .backReference flags.letters group
  | .group (some index) added removed body =>
      return .group index (← sequenceNode groups (flags.within added removed) body)
  | .group none added removed body => sequenceNode groups (flags.within added removed) body
  | .atomic body => return .atomic (← sequenceNode groups flags body)
  | .branch alternatives => branchNode groups flags alternatives
  | .times greed least most body =>
      if flags.template then throw .malformed
      else return .times greed least most (← sequenceNode groups flags body)
  | .look behind positive body =>
      if behind then
        let width := sequenceWidth groups body
        if width.least ≠ width.greatest ∨ Nat.pow 2 32 ≤ width.least then throw .malformed
        else return .look width.least positive (← sequenceNode groups flags body)
      else return .look 0 positive (← sequenceNode groups flags body)
  | .condition group yes no =>
      return .condition group (← sequenceNode groups flags yes) (← sequenceNode groups flags no)

/-- Applies the switches to pieces in a row. -/
def sequenceNode (groups : Nat → Width) (flags : Flags) : List Piece → Except Error Node
  | [] => return .empty
  | piece :: pieces =>
      return .sequence (← piece.node groups flags) (← sequenceNode groups flags pieces)

/-- Applies the switches to a choice. -/
def branchNode (groups : Nat → Width) (flags : Flags) : List (List Piece) → Except Error Node
  | [] => return .empty
  | [sequence] => sequenceNode groups flags sequence
  | sequence :: sequences =>
      return .choice (← sequenceNode groups flags sequence) (← branchNode groups flags sequences)
end

end Switchboard.Pattern
