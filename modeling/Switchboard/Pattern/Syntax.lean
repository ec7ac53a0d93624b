/-!
# Pattern — Syntax

The parts a search pattern is made of, before its flags are applied.  A pattern is a sequence of
pieces; code points are kept as numbers, because an escape may name one that is no character.
-/

namespace Switchboard.Pattern

/-- The switches that change what a pattern means. -/
structure Flags where
  ignoreCase : Bool := false
  multiline : Bool := false
  dotAll : Bool := false
  verbose : Bool := false
  ascii : Bool := false
  unicode : Bool := false
  /-- Letters and their cases are those of the host's locale; only a pattern for bytes has this. -/
  locale : Bool := false
  template : Bool := false
  deriving DecidableEq

namespace Flags

/-- The switches that are on in either. -/
def union (a b : Flags) : Flags where
  ignoreCase := a.ignoreCase || b.ignoreCase
  multiline := a.multiline || b.multiline
  dotAll := a.dotAll || b.dotAll
  verbose := a.verbose || b.verbose
  ascii := a.ascii || b.ascii
  unicode := a.unicode || b.unicode
  locale := a.locale || b.locale
  template := a.template || b.template

/-- The switches that are on in the first and off in the second. -/
def minus (a b : Flags) : Flags where
  ignoreCase := a.ignoreCase && !b.ignoreCase
  multiline := a.multiline && !b.multiline
  dotAll := a.dotAll && !b.dotAll
  verbose := a.verbose && !b.verbose
  ascii := a.ascii && !b.ascii
  unicode := a.unicode && !b.unicode
  locale := a.locale && !b.locale
  template := a.template && !b.template

/-- Whether a switch is on in both. -/
def meets (a b : Flags) : Bool :=
  a.ignoreCase && b.ignoreCase || a.multiline && b.multiline || a.dotAll && b.dotAll ||
    a.verbose && b.verbose || a.ascii && b.ascii || a.unicode && b.unicode ||
    a.locale && b.locale || a.template && b.template

/-- Whether a switch is on. -/
def any (a : Flags) : Bool :=
  a.meets a

/-- The switches inside a group that turns some on and some off.  Choosing a character set
replaces the one chosen outside. -/
def within (outer added removed : Flags) : Flags :=
  let outer := if added.ascii || added.unicode then { outer with ascii := false, unicode := false }
    else outer
  (outer.union added).minus removed

/-- The switch that a letter stands for. -/
def ofLetter? : Char → Option Flags
  | 'i' => some { ignoreCase := true }
  | 'm' => some { multiline := true }
  | 's' => some { dotAll := true }
  | 'x' => some { verbose := true }
  | 'a' => some { ascii := true }
  | 'u' => some { unicode := true }
  | 't' => some { template := true }
  | _ => none

end Flags

/-- A place between characters. -/
inductive Anchor where
  /-- `^`: the start of the text, or of a line. -/
  | caret
  /-- `$`: the end of the text, before its last line end, or the end of a line. -/
  | dollar
  | textStart
  | textEnd
  | wordEdge
  | notWordEdge
  deriving DecidableEq

/-- A class of characters with a letter of its own. -/
inductive Category where
  | digit
  | space
  | word
  deriving DecidableEq

/-- A member of a character set. -/
inductive SetItem where
  | literal (code : Nat)
  | range (first last : Nat)
  | category (kind : Category) (negated : Bool)
  deriving DecidableEq

/-- How often a repeated piece is tried. -/
inductive Greed where
  /-- As often as possible, then less often. -/
  | greedy
  /-- As seldom as possible, then more often. -/
  | lazy
  /-- As often as possible, and not less often. -/
  | possessive
  deriving DecidableEq

/-- A piece of a pattern. -/
inductive Piece where
  | literal (code : Nat)
  | otherThan (code : Nat)
  | anything
  | set (negated : Bool) (items : List SetItem)
  | anchor (place : Anchor)
  | backReference (group : Nat)
  | group (index : Option Nat) (added removed : Flags) (body : List Piece)
  | atomic (body : List Piece)
  | branch (alternatives : List (List Piece))
  | times (greed : Greed) (least : Nat) (most : Option Nat) (body : List Piece)
  | look (behind positive : Bool) (body : List Piece)
  | condition (group : Nat) (yes no : List Piece)

/-- Why a text is no pattern. -/
inductive Error where
  /-- The text breaks a rule of the syntax. -/
  | malformed
  /-- A repetition count is beyond the greatest one. -/
  | repetitionTooLarge
  /-- The pattern asks for both character sets. -/
  | characterSetConflict
  /-- A repetition count has more digits than are read. -/
  | tooManyDigits (count : Nat)
  deriving DecidableEq

end Switchboard.Pattern
