import Switchboard.Pattern.Program

/-!
# Pattern — Matcher

Looking for a match by trying alternatives in order.  A node is run at a cursor and is given what is
to follow it; it tries its own ways in order until what follows succeeds.  A repetition stops at a
turn that does not move the cursor, so the number of its turns is bounded by the least number asked
for and the length of the text.
-/

namespace Switchboard.Pattern

/-- A place in a text, and what the groups have matched so far. -/
structure Cursor where
  /-- The number of characters before the place. -/
  place : Nat
  /-- The characters before the place, the nearest first. -/
  before : List Char
  after : List Char
  groups : List (Nat × List Char) := []

namespace Cursor

/-- Steps over the next character if it passes. -/
def step? (c : Cursor) (test : CharTest) : Option Cursor :=
  match c.after with
  | [] => none
  | x :: xs =>
      if test.passes x then
        some { c with place := c.place + 1, before := x :: c.before, after := xs }
      else none

/-- Steps over `count` characters. -/
def advance (c : Cursor) (count : Nat) : Cursor :=
  { c with
    place := c.place + count
    before := (c.after.take count).reverse ++ c.before
    after := c.after.drop count }

/-- Goes back `count` characters, if there are so many. -/
def back? (c : Cursor) : Nat → Option Cursor
  | 0 => some c
  | count + 1 =>
      match c.before with
      | [] => none
      | x :: xs => back? { c with place := c.place - 1, before := xs, after := x :: c.after } count

/-- Records what a group has matched since `start`. -/
def capture (c : Cursor) (index : Nat) (start : Cursor) : Cursor :=
  { c with groups := (index, start.after.take (c.place - start.place)) :: c.groups }

/-- Whether the place is at the edge of a word. -/
def atWordEdge (c : Cursor) (ascii : Bool) : Bool :=
  let isWord (x : Option Char) : Bool :=
    match x with
    | some x => if ascii then Text.isAsciiWord x else Text.isWord x
    | none => false
  isWord c.before.head? != isWord c.after.head?

/-- Whether a place passes.  An empty text has no place that an edge of words is told from. -/
def passes (c : Cursor) : Place → Bool
  | .textStart => c.before.isEmpty
  | .lineStart => c.before.isEmpty || c.before.head? == some '\n'
  | .textEnd => c.after.isEmpty
  | .lineEnd => c.after.isEmpty || c.after.head? == some '\n'
  | .lastLineEnd => c.after.isEmpty || c.after == ['\n']
  | .wordEdge ascii negated =>
      !(c.before.isEmpty && c.after.isEmpty) && c.atWordEdge ascii != negated

/-- Steps over the text a group has matched. -/
def stepOver? (c : Cursor) (letters : Letters) (text : List Char) : Option Cursor :=
  let here := c.after.take text.length
  if here.length == text.length &&
      (here.zip text).all (fun (a, b) => letters.fold a.toNat == letters.fold b.toNat) then
    some (c.advance text.length)
  else none

end Cursor

/-- What follows a node: it succeeds with the cursor at the end of the match. -/
abbrev Follow := Cursor → Option Cursor

/-- Whether another turn is allowed after `count` turns. -/
def allowsTurn (most : Option Nat) (count : Nat) : Bool :=
  match most with
  | none => true
  | some most => count < most

/-- The number of turns after one more turn.  A turn that does not move stands for all that are
still owed. -/
def turnsAfter (least count : Nat) (start stop : Cursor) : Nat :=
  if start.place = stop.place then max (count + 1) least else count + 1

/-- Turns of a greedy repetition; `last` is where the last free turn began. -/
def greedyTurns (turn : Cursor → Follow → Option Cursor) (least : Nat) (most : Option Nat)
    (follow : Follow) : Nat → Nat → Option Nat → Cursor → Option Cursor
  | 0, _, _, c => follow c
  | fuel + 1, count, last, c =>
      if count < least then
        turn c fun d => greedyTurns turn least most follow fuel (turnsAfter least count c d) last d
      else if allowsTurn most count && last != some c.place then
        match turn c fun d =>
            greedyTurns turn least most follow fuel (count + 1) (some c.place) d with
        | some stop => some stop
        | none => follow c
      else follow c

/-- Turns of a lazy repetition. -/
def lazyTurns (turn : Cursor → Follow → Option Cursor) (least : Nat) (most : Option Nat)
    (follow : Follow) : Nat → Nat → Option Nat → Cursor → Option Cursor
  | 0, _, _, c => follow c
  | fuel + 1, count, last, c =>
      if count < least then
        turn c fun d => lazyTurns turn least most follow fuel (turnsAfter least count c d) last d
      else
        match follow c with
        | some stop => some stop
        | none =>
          if allowsTurn most count && last != some c.place then
            turn c fun d =>
              lazyTurns turn least most follow fuel (count + 1) (some c.place) d
          else none

/-- Turns of a possessive repetition: each turn is settled before the next. -/
def possessiveTurns (turn : Cursor → Follow → Option Cursor) (least : Nat) (most : Option Nat) :
    Nat → Nat → Option Nat → Cursor → Option Cursor
  | 0, _, _, c => some c
  | fuel + 1, count, last, c =>
      if count < least then
        match turn c some with
        | some d => possessiveTurns turn least most fuel (turnsAfter least count c d) last d
        | none => none
      else if allowsTurn most count && last != some c.place then
        match turn c some with
        | some d => possessiveTurns turn least most fuel (count + 1) (some c.place) d
        | none => some c
      else some c

/-- Runs a node at a cursor, with what is to follow. -/
def Node.run : Node → Cursor → Follow → Option Cursor
  | .empty, c, follow => follow c
  | .char test, c, follow => (c.step? test).bind follow
  | .place test, c, follow => if c.passes test then follow c else none
  | .sequence first second, c, follow => first.run c fun d => second.run d follow
  | .choice first second, c, follow =>
      match first.run c follow with
      | some stop => some stop
      | none => second.run c follow
  | .group index body, c, follow => body.run c fun d => follow (d.capture index c)
  | .backReference letters index, c, follow =>
      match c.groups.lookup index with
      | some text => (c.stepOver? letters text).bind follow
      | none => none
  | .times greed least most body, c, follow =>
      let fuel := least + c.after.length + 2
      match greed with
      | .greedy => greedyTurns (fun d k => body.run d k) least most follow fuel 0 none c
      | .lazy => lazyTurns (fun d k => body.run d k) least most follow fuel 0 none c
      | .possessive =>
          (possessiveTurns (fun d k => body.run d k) least most fuel 0 none c).bind follow
  | .atomic body, c, follow => (body.run c some).bind follow
  | .look back positive body, c, follow =>
      match (c.back? back).bind fun d => body.run d some with
      | some stop => if positive then follow { c with groups := stop.groups } else none
      | none => if positive then none else follow c
  | .condition index yes no, c, follow =>
      if (c.groups.lookup index).isSome then yes.run c follow else no.run c follow

/-- Looks for a match that starts after the given characters or later. -/
def Node.searchFrom (node : Node) : Nat → List Char → List Char → Bool
  | passed, before, [] => (node.run { place := passed, before, after := [] } some).isSome
  | passed, before, x :: xs =>
      (node.run { place := passed, before, after := x :: xs } some).isSome ||
        node.searchFrom (passed + 1) (x :: before) xs

end Switchboard.Pattern
