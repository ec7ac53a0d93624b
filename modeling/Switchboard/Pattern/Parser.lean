import Switchboard.Pattern.Width
import Switchboard.Text.Identifier
import Switchboard.Text.Blank
import Switchboard.Text.CharacterName
import Switchboard.Text.Digit

/-!
# Pattern — Parser

Reading a pattern.  The text is first cut into lexemes, a backslash and the character after it
being one; a backslash at the very end is no lexeme and makes the pattern malformed as soon as the
reader stands before it.  The reader then follows the grammar: a pattern is a choice of sequences,
a sequence a row of pieces, and a piece may be followed by a repetition.

The depth of the recursion is bounded by the number of lexemes, so the reader carries that number
and never runs out of it.  The interpreter's own bound on recursion has no counterpart here: a text
with some 500 groups inside one another, at which it stops with a `RecursionError`, is read like
every other.
-/

namespace Switchboard.Pattern

/-- A unit of a pattern's text. -/
inductive Lexeme where
  | plain (c : Char)
  | escaped (c : Char)
  deriving DecidableEq

/-- The characters of a lexeme. -/
def Lexeme.chars : Lexeme → List Char
  | .plain c => [c]
  | .escaped c => ['\\', c]

/-- What is left of a pattern's text, and whether it ends in a lone backslash. -/
structure Input where
  rest : List Lexeme
  dangling : Bool

/-- Cuts a text into lexemes. -/
def Input.ofChars : List Char → Input
  | [] => ⟨[], false⟩
  | ['\\'] => ⟨[], true⟩
  | '\\' :: c :: cs => let input := ofChars cs; { input with rest := .escaped c :: input.rest }
  | c :: cs => let input := ofChars cs; { input with rest := .plain c :: input.rest }

/-- What the reader knows besides the text that is left. -/
structure Reader where
  input : Input
  /-- The switches of the whole pattern. -/
  flags : Flags
  /-- The widths of the groups from the first on; an open group has none yet. -/
  groups : List (Option Width) := []
  names : List (String × Nat) := []
  /-- Inside a look-behind, the number of the first group that was opened in it. -/
  lookBehind : Option Nat := none
  /-- Groups that conditions have asked about. -/
  asked : List Nat := []

/-- A step of the reader. -/
abbrev Read := StateT Reader (Except Error)

namespace Read

/-- Stops: the text is no pattern. -/
def malformed {α : Type} : Read α := throw .malformed

/-- The lexeme that comes next. -/
def peek : Read (Option Lexeme) := do
  let r ← get
  return r.input.rest.head?

/-- Stands the reader before the given lexemes. -/
def seek (rest : List Lexeme) : Read Unit := do
  let r ← get
  if rest.isEmpty && r.input.dangling then malformed
  else set { r with input := { r.input with rest } }

/-- Takes the lexeme that comes next. -/
def take : Read (Option Lexeme) := do
  match (← get).input.rest with
  | [] => return none
  | l :: rest => seek rest; return some l

/-- Takes the next lexeme if it is the given character. -/
def accept (c : Char) : Read Bool := do
  match (← get).input.rest with
  | .plain d :: rest => if c = d then seek rest; return true else return false
  | _ => return false

/-- Takes up to `count` plain characters that pass. -/
def takeWhile (p : Char → Bool) : Nat → Read (List Char)
  | 0 => return []
  | count + 1 => do
      match (← get).input.rest with
      | .plain c :: rest =>
          if p c then
            seek rest
            return c :: (← takeWhile p count)
          else return []
      | _ => return []

/-- Takes all characters before the given one, at least one, and the given one. -/
def takeUntil (stop : Char) : Read (List Char) := do
  let rest := (← get).input.rest
  let taken := rest.takeWhile (· != .plain stop)
  if taken.isEmpty || taken.length = rest.length then malformed
  else
    seek (rest.drop (taken.length + 1))
    return taken.flatMap Lexeme.chars

/-- The number of groups, the whole pattern being the group 0. -/
def groupCount : Read Nat := do
  return (← get).groups.length + 1

/-- Whether the group is closed. -/
def isClosed (group : Nat) : Read Bool := do
  if group = 0 then return false
  else return (((← get).groups[group - 1]?).getD none).isSome

/-- A look-behind may only refer to groups that were closed before it. -/
def checkLookBehind (group : Nat) : Read Unit := do
  match (← get).lookBehind with
  | none => return ()
  | some first => if !(← isClosed group) || first ≤ group then malformed

/-- The widths of the closed groups. -/
def groupWidths : Read (Nat → Width) := do
  let groups := (← get).groups
  return fun group => ((groups[group - 1]?).getD none).getD ⟨0, 0⟩

end Read

open Read

/-! ### Escapes -/

/-- The number that hexadecimal digits denote. -/
def hexNumber (cs : List Char) : Nat :=
  cs.foldl (fun acc c =>
    let n := c.toNat
    acc * 16 + (if n ≤ 57 then n - 48 else if n ≤ 70 then n - 55 else n - 87)) 0

/-- The number that octal digits denote. -/
def octalNumber (cs : List Char) : Nat :=
  cs.foldl (fun acc c => acc * 8 + (c.toNat - 48)) 0

/-- Whether the character is a hexadecimal digit. -/
def isHexDigit (c : Char) : Bool :=
  c.isDigit || ('a' ≤ c && c ≤ 'f') || ('A' ≤ c && c ≤ 'F')

/-- Whether the character is an octal digit. -/
def isOctalDigit (c : Char) : Bool :=
  '0' ≤ c && c ≤ '7'

/-- The control character that a letter stands for after a backslash. -/
def controlEscape? : Char → Option Nat
  | 'a' => some 7
  | 'b' => some 8
  | 'f' => some 12
  | 'n' => some 10
  | 'r' => some 13
  | 't' => some 9
  | 'v' => some 11
  | '\\' => some 92
  | _ => none

/-- The class that a letter stands for after a backslash. -/
def categoryEscape? : Char → Option SetItem
  | 'd' => some (.category .digit false)
  | 'D' => some (.category .digit true)
  | 's' => some (.category .space false)
  | 'S' => some (.category .space true)
  | 'w' => some (.category .word false)
  | 'W' => some (.category .word true)
  | _ => none

/-- The place that a letter stands for after a backslash. -/
def anchorEscape? : Char → Option Anchor
  | 'A' => some .textStart
  | 'Z' => some .textEnd
  | 'b' => some .wordEdge
  | 'B' => some .notWordEdge
  | _ => none

/-- An escape of exactly `count` hexadecimal digits. -/
def hexEscape (count : Nat) : Read Nat := do
  let digits ← takeWhile isHexDigit count
  if digits.length < count then malformed
  let code := hexNumber digits
  if 0x110000 ≤ code then malformed
  return code

/-- A character by its name, which stands in braces. -/
def namedEscape : Read Nat := do
  if !(← accept '\x7b') then malformed
  match Text.codeOfName? (← takeUntil '\x7d') with
  | some code => return code
  | none => malformed

/-- The escapes that mean the same everywhere: characters by name, code points in hexadecimal
digits, and characters that stand for themselves. -/
def commonEscape (c : Char) : Read Nat := do
  match c with
  | 'N' => namedEscape
  | 'x' => hexEscape 2
  | 'u' => hexEscape 4
  | 'U' => hexEscape 8
  | c => if c.isAlphanum then malformed else return c.toNat

/-- An escape inside a set. -/
def setEscape (c : Char) : Read SetItem := do
  match controlEscape? c with
  | some code => return .literal code
  | none =>
    match categoryEscape? c with
    | some item => return item
    | none =>
      if isOctalDigit c then
        let code := octalNumber (c :: (← takeWhile isOctalDigit 2))
        if 0o377 < code then malformed
        return .literal code
      else return .literal (← commonEscape c)

/-- A reference to the group of a number. -/
def groupReference (group : Nat) : Read Piece := do
  if !(← isClosed group) then malformed
  checkLookBehind group
  return .backReference group

/-- An escape that begins with a digit other than zero: three octal digits, or a reference to a
group of one or two decimal digits. -/
def digitEscape (c : Char) : Read Piece := do
  match (← get).input.rest with
  | .plain d :: rest =>
      if d.isDigit then
        seek rest
        match rest with
        | .plain e :: rest =>
            if isOctalDigit c && isOctalDigit d && isOctalDigit e then
              seek rest
              let code := octalNumber [c, d, e]
              if 0o377 < code then malformed
              return .literal code
            else groupReference (Text.asciiNumber [c, d])
        | _ => groupReference (Text.asciiNumber [c, d])
      else groupReference (Text.asciiNumber [c])
  | _ => groupReference (Text.asciiNumber [c])

/-- An escape outside sets. -/
def pieceEscape (c : Char) : Read Piece := do
  match anchorEscape? c with
  | some place => return .anchor place
  | none =>
    match categoryEscape? c with
    | some item => return .set false [item]
    | none =>
      match controlEscape? c with
      | some code => return .literal code
      | none =>
        if c == '0' then
          return .literal (octalNumber (c :: (← takeWhile isOctalDigit 2)))
        else if c.isDigit then digitEscape c
        else return .literal (← commonEscape c)

/-! ### Sets -/

/-- An end of a range: a lexeme inside a set. -/
def setMember : Lexeme → Read SetItem
  | .plain c => return .literal c.toNat
  | .escaped c => setEscape c

/-- The members of a set up to its closing bracket, which is a member if it comes first. -/
def setItems : Nat → Bool → Read (List SetItem)
  | 0, _ => malformed
  | fuel + 1, isFirst => do
      match ← take with
      | none => malformed
      | some l =>
        if l = .plain ']' && !isFirst then return []
        let first ← setMember l
        if ← accept '-' then
          match ← take with
          | none => malformed
          | some (.plain ']') => return [first, .literal '-'.toNat]
          | some l =>
            let last ← setMember l
            match first, last with
            | .literal a, .literal b =>
                if b < a then malformed
                return .range a b :: (← setItems fuel false)
            | _, _ => malformed
        else return first :: (← setItems fuel false)

/-- A set whose opening bracket is taken. -/
def readSet (fuel : Nat) : Read Piece := do
  let negated ← accept '^'
  let items := (← setItems fuel true).eraseDups
  match items with
  | [.literal code] => return if negated then .otherThan code else .literal code
  | _ => return .set negated items

/-! ### Repetitions -/

/-- A repetition count; nothing is `none`. -/
def repetitionCount (digits : List Char) : Read (Option Nat) := do
  if digits.isEmpty then return none
  if 4300 < digits.length then throw (.tooManyDigits digits.length)
  let n := Text.asciiNumber digits
  if repetitionBound ≤ n then throw .repetitionTooLarge
  return some n

/-- The counts of a repetition whose first character is taken, or nothing if a brace stands for
itself. -/
def repetition? (fuel : Nat) (c : Char) : Read (Option (Nat × Option Nat)) := do
  match c with
  | '?' => return some (0, some 1)
  | '*' => return some (0, none)
  | '+' => return some (1, none)
  | _ =>
    let here := (← get).input.rest
    if (← peek) = some (.plain '\x7d') then return none
    let least ← takeWhile Char.isDigit fuel
    let most ← if ← accept ',' then takeWhile Char.isDigit fuel else pure least
    if !(← accept '\x7d') then
      seek here
      return none
    let least ← repetitionCount least
    let most ← repetitionCount most
    match least, most with
    | some a, some b => if b < a then malformed
    | _, _ => pure ()
    return some (least.getD 0, most)

/-- The mark after a repetition that says how often it is tried. -/
def greedMark : Read Greed := do
  if ← accept '?' then return .lazy
  if ← accept '+' then return .possessive
  return .greedy

/-- Puts a repetition on the last piece of a sequence, which is given in reverse. -/
def repeatLast (greed : Greed) (least : Nat) (most : Option Nat) : List Piece → Read (List Piece)
  | [] | .anchor _ :: _ | .times .. :: _ => malformed
  | .group none added removed body :: before =>
      if added.any || removed.any then
        return .times greed least most [.group none added removed body] :: before
      else return .times greed least most body :: before
  | piece :: before => return .times greed least most [piece] :: before

/-! ### Groups -/

/-- The letters of switches, up to the character after them. -/
def flagLetters : Nat → Flags → Char → Bool → Read (Flags × Char)
  | 0, _, _, _ => malformed
  | fuel + 1, acc, c, turningOff => do
      match Flags.ofLetter? c with
      | none => malformed
      | some flag =>
        let acc := acc.union flag
        if turningOff then
          if flag.ascii || flag.unicode then malformed
        else if (flag.ascii || flag.unicode) && acc.ascii && acc.unicode then malformed
        match ← take with
        | some (.plain d) =>
            if d == ':' || (!turningOff && (d == ')' || d == '-')) then return (acc, d)
            else flagLetters fuel acc d turningOff
        | _ => malformed

/-- The switches of a group whose first letter is taken: those of the whole pattern, or those
turned on and off inside the group. -/
def readFlags (fuel : Nat) (c : Char) : Read (Flags ⊕ Flags × Flags) := do
  let (added, stop) ← if c == '-' then pure ({}, '-') else flagLetters fuel {} c false
  if stop == ')' then return .inl added
  if added.template then malformed
  if stop == ':' then return .inr (added, {})
  match ← take with
  | some (.plain d) =>
      let (removed, _) ← flagLetters fuel {} d true
      if removed.template || added.meets removed then malformed
      return .inr (added, removed)
  | _ => malformed

/-- Passes over a comment whose `#` is taken. -/
def skipComment : Read Unit := do
  let rest := (← get).input.rest
  let after := rest.dropWhile (· != .plain ')')
  if after.isEmpty then malformed
  else seek (after.drop 1)

/-- Passes over a comment of a verbose pattern, up to the end of the line. -/
def skipLine : Read Unit := do
  let rest := (← get).input.rest
  seek ((rest.dropWhile (· != .plain '\n')).drop 1)

/-- Drops the low lines that stand between two other characters. -/
def dropLowLines : List Char → List Char
  | c :: '_' :: d :: cs => c :: dropLowLines (d :: cs)
  | c :: cs => c :: dropLowLines cs
  | [] => []

/-- The number that a group is asked for by: digits of any script, with an optional plus sign and
with low lines between digits. -/
def askedNumber? (cs : List Char) : Option Nat :=
  let digits := match Text.trim cs with
    | '+' :: digits => dropLowLines digits
    | digits => dropLowLines digits
  if digits.isEmpty || 4300 < digits.length then none else Text.decimalNumber? digits

/-- The group that a condition asks about. -/
def askedGroup (name : List Char) : Read Nat := do
  if Text.isIdentifier name then
    match (← get).names.lookup (String.ofList name) with
    | some group => return group
    | none => malformed
  else
    match askedNumber? name with
    | none | some 0 => malformed
    | some group =>
      if Nat.pow 2 30 ≤ group then malformed
      modify fun r => { r with asked := group :: r.asked }
      return group

/-- Opens the next group, under a name if it has one. -/
def openGroup (name : Option String) : Read Nat := do
  let index ← groupCount
  match name with
  | none => modify fun r => { r with groups := r.groups ++ [none] }
  | some name =>
    if ((← get).names.lookup name).isSome then malformed
    modify fun r =>
      { r with groups := r.groups ++ [none], names := (name, index) :: r.names }
  return index

/-- Closes a group. -/
def closeGroup (index : Nat) (body : List Piece) : Read Unit := do
  let width := sequenceWidth (← groupWidths) body
  modify fun r => { r with groups := r.groups.set (index - 1) (some width) }

/-- How a parenthesis begins, after what its question mark says is taken. -/
inductive GroupKind where
  /-- A group with a number, and perhaps a name. -/
  | capturing (name : Option String)
  | plain (added removed : Flags)
  | atomic
  | look (behind positive : Bool)
  | condition (group : Nat)
  /-- A piece that is complete: a reference by name. -/
  | complete (piece : Piece)
  /-- A comment. -/
  | nothing
  /-- Switches of the whole pattern. -/
  | switches (flags : Flags)

/-- The name of a group, up to the given character. -/
def groupName (stop : Char) : Read String := do
  let name ← takeUntil stop
  if Text.isIdentifier name then return String.ofList name else malformed

/-- What follows a parenthesis and a question mark. -/
def groupKind (fuel : Nat) : Read GroupKind := do
  match ← take with
  | some (.plain 'P') =>
      match ← take with
      | some (.plain '<') => return .capturing (some (← groupName '>'))
      | some (.plain '=') =>
          let name ← groupName ')'
          match (← get).names.lookup name with
          | some group => return .complete (← groupReference group)
          | none => malformed
      | _ => malformed
  | some (.plain ':') => return .plain {} {}
  | some (.plain '#') => skipComment; return .nothing
  | some (.plain '=') => return .look false true
  | some (.plain '!') => return .look false false
  | some (.plain '<') =>
      match ← take with
      | some (.plain '=') => return .look true true
      | some (.plain '!') => return .look true false
      | _ => malformed
  | some (.plain '(') =>
      let group ← askedGroup (← takeUntil ')')
      checkLookBehind group
      return .condition group
  | some (.plain '>') => return .atomic
  | some (.plain c) =>
      if c == '-' || (Flags.ofLetter? c).isSome then
        match ← readFlags fuel c with
        | .inl flags => return .switches flags
        | .inr (added, removed) => return .plain added removed
      else malformed
  | _ => malformed

/-! ### Sequences and choices -/

/-- Puts the pieces of groups that only group in the place of the groups. -/
def unwrap (pieces : List Piece) : List Piece :=
  pieces.flatMap fun
    | .group none added removed body =>
        if added.any || removed.any then [.group none added removed body] else body
    | piece => [piece]

/-- Whether two pieces are the same piece; a piece with others inside is only the same as itself. -/
def Piece.same : Piece → Piece → Bool
  | .literal a, .literal b => a == b
  | .otherThan a, .otherThan b => a == b
  | .anything, .anything => true
  | .set n a, .set m b => n == m && a == b
  | .anchor a, .anchor b => a == b
  | .backReference a, .backReference b => a == b
  | _, _ => false

/-- The piece that all sequences begin with. -/
def commonHead? : List (List Piece) → Option Piece
  | (piece :: _) :: sequences =>
      if sequences.all fun
        | other :: _ => piece.same other
        | [] => false
      then some piece else none
  | _ => none

/-- The pieces that all sequences begin with, and what is left of the sequences. -/
def splitCommon : Nat → List (List Piece) → List Piece × List (List Piece)
  | 0, sequences => ([], sequences)
  | fuel + 1, sequences =>
      match commonHead? sequences with
      | some piece =>
          let (common, rest) := splitCommon fuel (sequences.map (·.drop 1))
          (piece :: common, rest)
      | none => ([], sequences)

/-- The members of the set that a choice of sequences amounts to. -/
def setOfChoice? : List (List Piece) → Option (List SetItem)
  | [] => some []
  | [.literal code] :: sequences => (setOfChoice? sequences).map (.literal code :: ·)
  | [.set false items] :: sequences => (setOfChoice? sequences).map (items ++ ·)
  | _ => none

/-- A choice of sequences.  What they have in common at the start is moved in front of it, and a
choice of single characters is a set. -/
def choice (sequences : List (List Piece)) : List Piece :=
  match sequences with
  | [sequence] => sequence
  | _ =>
    let (common, rest) := splitCommon ((sequences.headD []).length + 1) sequences
    match setOfChoice? rest with
    | some items => common ++ [.set false items.eraseDups]
    | none => common ++ [.branch rest]

mutual
/-- A choice of sequences.  Switches of the whole pattern may only stand where nothing stands
before them. -/
def readChoice (fuel : Nat) (verbose outermost : Bool) : Read (List Piece) := do
  return choice (← readSequences fuel verbose outermost outermost)

/-- The sequences of a choice. -/
def readSequences (fuel : Nat) (verbose outermost isFirst : Bool) :
    Read (List (List Piece)) := do
  match fuel with
  | 0 => malformed
  | fuel + 1 =>
    let sequence ← readSequence fuel verbose isFirst []
    if ← accept '|' then
      let switches := (← get).flags
      let verbose := if outermost then switches.verbose else verbose
      return sequence :: (← readSequences fuel verbose outermost false)
    else return [sequence]

/-- A sequence, given the pieces before the reader in reverse. -/
def readSequence (fuel : Nat) (verbose isFirst : Bool) (before : List Piece) :
    Read (List Piece) := do
  match fuel with
  | 0 => malformed
  | fuel + 1 =>
    match ← peek with
    | none | some (.plain '|') | some (.plain ')') => return unwrap before.reverse
    | some (.escaped c) =>
        let _ ← take
        readSequence fuel verbose isFirst ((← pieceEscape c) :: before)
    | some (.plain c) =>
        let _ ← take
        if verbose && Text.isAsciiBlank c then readSequence fuel verbose isFirst before
        else if verbose && c == '#' then
          skipLine
          readSequence fuel verbose isFirst before
        else
          match c with
          | '[' => readSequence fuel verbose isFirst ((← readSet (fuel + 1)) :: before)
          | '.' => readSequence fuel verbose isFirst (.anything :: before)
          | '^' => readSequence fuel verbose isFirst (.anchor .caret :: before)
          | '$' => readSequence fuel verbose isFirst (.anchor .dollar :: before)
          | '(' =>
              if ← accept '?' then
                match ← groupKind (fuel + 1) with
                | .switches flags =>
                    if !isFirst || !before.isEmpty then malformed
                    modify fun r => { r with flags := r.flags.union flags }
                    let switches := (← get).flags
                    readSequence fuel switches.verbose isFirst before
                | .nothing => readSequence fuel verbose isFirst before
                | .complete piece => readSequence fuel verbose isFirst (piece :: before)
                | kind =>
                    readSequence fuel verbose isFirst
                      ((← readGroup fuel verbose kind) :: before)
              else
                readSequence fuel verbose isFirst
                  ((← readGroup fuel verbose (.capturing none)) :: before)
          | c =>
              if c == '?' || c == '*' || c == '+' || c == '\x7b' then
                match ← repetition? (fuel + 1) c with
                | none => readSequence fuel verbose isFirst (.literal c.toNat :: before)
                | some (least, most) =>
                    -- the piece is looked at before the mark after the repetition is
                    let _ ← repeatLast .greedy least most before
                    let greed ← greedMark
                    readSequence fuel verbose isFirst
                      (← repeatLast greed least most before)
              else readSequence fuel verbose isFirst (.literal c.toNat :: before)

/-- What a group holds, and its closing parenthesis. -/
def readGroup (fuel : Nat) (verbose : Bool) (kind : GroupKind) : Read Piece := do
  match fuel with
  | 0 => malformed
  | fuel + 1 =>
    match kind with
    | .capturing name =>
        let index ← openGroup name
        let body ← readChoice fuel verbose false
        if !(← accept ')') then malformed
        closeGroup index body
        return .group (some index) {} {} body
    | .plain added removed =>
        let body ← readChoice fuel ((verbose || added.verbose) && !removed.verbose) false
        if !(← accept ')') then malformed
        return .group none added removed body
    | .atomic =>
        let body ← readChoice fuel verbose false
        if !(← accept ')') then malformed
        return .atomic body
    | .look behind positive =>
        let outer := (← get).lookBehind
        if behind && outer.isNone then
          let count ← groupCount
          modify fun r => { r with lookBehind := some count }
        let body ← readChoice fuel verbose false
        if behind && outer.isNone then
          modify fun r => { r with lookBehind := none }
        if !(← accept ')') then malformed
        return .look behind positive body
    | .condition group =>
        let yes ← readSequence fuel verbose false []
        let no ← if ← accept '|' then
            let no ← readSequence fuel verbose false []
            if (← peek) = some (.plain '|') then malformed
            pure no
          else pure []
        if !(← accept ')') then malformed
        return .condition group yes no
    | .complete piece => return piece
    | .nothing | .switches _ => malformed
end

/-- A pattern that has been read: its pieces, its switches and the widths of its groups. -/
structure Parsed where
  pieces : List Piece
  flags : Flags
  groups : List (Option Width)

/-- Reads a whole pattern under the given switches. -/
def parse (flags : Flags) (source : List Char) : Except Error Parsed := do
  let input := Input.ofChars source
  if input.rest.isEmpty && input.dangling then throw .malformed
  let start : Reader := { input, flags }
  let (pieces, r) ← (readChoice (4 * source.length + 8) flags.verbose true).run start
  if r.flags.ascii && r.flags.unicode then throw .characterSetConflict
  if !r.input.rest.isEmpty then throw .malformed
  if r.asked.any (r.groups.length < ·) then throw .malformed
  return {
    pieces
    flags := if r.flags.ascii then r.flags else { r.flags with unicode := true }
    groups := r.groups }

end Switchboard.Pattern
