import Switchboard.Proofs.Grouping
import Switchboard.Proofs.LinkRows
import Switchboard.Proofs.Primitives

/-!
# Proofs — Pieces

The pieces of a text that arguments use up.  What an argument leaves is the end of the text it was
given, up to white space, so the text falls into the piece that the argument used up and what it
leaves.  A walk trims what is left and gives it to the next argument; so the pieces of its arguments
stand in the text one after the other, and no two of them share a character.

* `Text.Stands`: a text stands in another one, with nothing but white space after it.
* `Argument.Leaves`, `exists_leaves`: the piece that an argument uses up.
* `Walk.Asks`, `Divides`: the arguments that a walk asks, and the text divided among them.
* `Walk.exists_piece`, `exists_divides`: what one step does to the text, and that every walk divides
  its text.
* `pieces_divide`: both, for all arguments and for all grammars.
-/

namespace Switchboard

/-! ### Where a text stands in another one -/

namespace Text

variable {front front' middle inner cs : List Char}

/-- The text stands in another one, after a front, and only white space comes after it. -/
def Stands (front inner cs : List Char) : Prop :=
  ∃ back, cs = front ++ inner ++ back ∧ ∀ c ∈ back, isBlank c = true

theorem stands_append (front inner : List Char) : Stands front inner (front ++ inner) :=
  ⟨[], by simp, nofun⟩

theorem Stands.trans (h : Stands front middle cs) (h' : Stands front' inner middle) :
    Stands (front ++ front') inner cs := by
  obtain ⟨back, rfl, hback⟩ := h
  obtain ⟨back', rfl, hback'⟩ := h'
  refine ⟨back' ++ back, by simp, ?_⟩
  exact List.forall_mem_append.mpr ⟨hback', hback⟩

/-- What is left of a text when it is trimmed stands in it. -/
theorem exists_stands_trim (cs : List Char) : ∃ gap, Stands gap (trim cs) cs := by
  obtain ⟨gap, back, hcs, -, hback⟩ := exists_trimWhile isBlank cs
  exact ⟨gap, back, hcs, hback⟩

/-- What follows the first token of a text is the end of the text. -/
theorem exists_append_splitToken (cs : List Char) : ∃ piece, cs = piece ++ (splitToken cs).2 := by
  obtain ⟨token, htoken, rfl | ⟨rest, rfl⟩⟩ := exists_token cs
  · exact ⟨cs, by rw [splitToken_token htoken, List.append_nil]⟩
  · refine ⟨token ++ [' '], ?_⟩
    rw [splitToken_append htoken, List.append_assoc, List.singleton_append]

end Text

/-! ### What an argument leaves -/

/-- What follows a reference to a client is the end of the text, without the spaces before it. -/
theorem ClientLink.split?_spaceless {cs id left : List Char}
    (h : ClientLink.split? cs = some (id, left)) : ∀ c ∈ left.head?, c ≠ ' ' := by
  obtain ⟨⟨id', rest⟩, -, h⟩ := Option.bind_eq_some_iff.mp h
  cases h
  intro c hc
  simpa using Text.of_mem_head?_dropWhile hc

namespace Argument

/-- **The piece of a text that an argument uses up**, and what it leaves. -/
structure Leaves (a : Argument) (cs piece left : List Char) : Prop where
  stands : Text.Stands piece left cs
  /-- Only a group drops white space at the end. -/
  whole : a.kind ≠ .group → cs = piece ++ left
  trimmed : a.kind = .group → Text.Trimmed Text.isBlank left
  spaceless : a.kind = .client → ∀ c ∈ left.head?, c ≠ ' '

section

variable {a : Argument} {cs piece left : List Char}

/-- An argument that is no group and no reference to a client leaves the end of the text. -/
theorem Leaves.of_append (hgroup : a.kind ≠ .group) (hclient : a.kind ≠ .client)
    (h : cs = piece ++ left) : a.Leaves cs piece left where
  stands := by
    rw [h]
    exact Text.stands_append piece left
  whole _ := h
  trimmed hkind := absurd hkind hgroup
  spaceless hkind := absurd hkind hclient

theorem Leaves.of_group {label : Label} {combinator : Combinator} {members : List Argument}
    (h : Text.Stands piece left cs) (htrim : Text.Trimmed Text.isBlank left) :
    (Argument.group label combinator members).Leaves cs piece left where
  stands := h
  whole hkind := absurd rfl hkind
  trimmed _ := htrim
  spaceless := nofun

end

/-- What members in a row leave is trimmed, as long as there are any. -/
theorem trimmed_of_leaveAll {members : List Argument} {cs left : List Char} (hne : members ≠ [])
    (h : leaveAll members cs = .ok left) : Text.Trimmed Text.isBlank left := by
  have htrim := map_trim_leaveAll hne cs
  rw [h] at htrim
  have hleft : Text.trim left = left := Except.ok.inj htrim
  rw [← hleft]
  exact Text.trimWhile_trimmed Text.isBlank left

/-- Reading and then trimming what is left goes on from where the argument left off. -/
theorem Leaves.trim {a : Argument} {cs piece rest : List Char} (h : a.Leaves cs piece rest) :
    ∃ gap, Text.Stands (piece ++ gap) (Text.trim rest) cs := by
  obtain ⟨gap, hgap⟩ := Text.exists_stands_trim rest
  exact ⟨gap, h.stands.trans hgap⟩

section

variable {arguments : List Argument}
  (h : ∀ a ∈ arguments, ∀ {cs left : List Char} {value : Value}, a.validate cs = .ok (value, left) →
    ∃ piece, a.Leaves cs piece left)

include h

/-- Arguments in a row use up a piece of the text together, if each of them uses up one. -/
theorem exists_stands_all {cs left : List Char} (hleave : leaveAll arguments cs = .ok left) :
    ∃ piece, Text.Stands piece left cs := by
  induction arguments generalizing cs with
  | nil =>
      cases hleave
      exact ⟨[], Text.stands_append [] left⟩
  | cons a arguments ih =>
      rw [leaveAll_cons, leave] at hleave
      cases hread : a.validate cs with
      | error e =>
          rw [hread] at hleave
          cases hleave
      | ok read =>
          rw [hread] at hleave
          obtain ⟨piece, hpiece⟩ := h a (.head _) hread
          obtain ⟨gap, hgap⟩ := hpiece.trim
          obtain ⟨more, hmore⟩ := ih (fun b hb => h b (.tail _ hb)) hleave
          exact ⟨piece ++ gap ++ more, hgap.trans hmore⟩

/-- The alternative that accepts uses up a piece of the text, if each of them does. -/
theorem exists_stands_any {cs left : List Char} {record : Record}
    (hany : validateAny arguments cs = .ok (some (record, left))) :
    ∃ piece, Text.Stands piece left cs ∧ Text.Trimmed Text.isBlank left := by
  induction arguments with
  | nil =>
      rw [validateAny] at hany
      cases hany
  | cons a arguments ih =>
      rw [validateAny] at hany
      cases hread : a.validate cs with
      | ok read =>
          rw [hread] at hany
          cases hany
          obtain ⟨piece, hpiece⟩ := h a (.head _) hread
          obtain ⟨gap, hgap⟩ := hpiece.trim
          exact ⟨piece ++ gap, hgap, Text.trimWhile_trimmed Text.isBlank read.2⟩
      | error e =>
          rw [hread] at hany
          cases e with
          | unusable => cases hany
          | rejected r => exact ih (fun b hb => h b (.tail _ hb)) hany

end

/-- **An argument that accepts uses up a piece of the text.** -/
theorem exists_leaves (a : Argument) {cs left : List Char} {value : Value}
    (h : a.validate cs = .ok (value, left)) : ∃ piece, a.Leaves cs piece left := by
  induction a using memberInduction generalizing cs left value with
  | bare label =>
      rw [validate_bare] at h
      cases h
  | string =>
      obtain ⟨-, -, rfl⟩ := string_accepts.mp h
      obtain ⟨piece, hpiece⟩ := Text.exists_append_splitToken cs
      exact ⟨piece, .of_append nofun nofun hpiece⟩
  | rest =>
      obtain ⟨-, -, rfl⟩ := rest_accepts.mp h
      exact ⟨cs, .of_append nofun nofun (List.append_nil cs).symm⟩
  | number =>
      obtain ⟨n, -, -, -, rfl⟩ := number_accepts.mp h
      obtain ⟨piece, hpiece⟩ := Text.exists_append_splitToken cs
      exact ⟨piece, .of_append nofun nofun hpiece⟩
  | client =>
      obtain ⟨id, hread, -⟩ := client_accepts.mp h
      obtain ⟨piece, rfl, -⟩ := ClientLink.exists_of_split? hread
      exact ⟨piece, Text.stands_append piece left, fun _ => rfl, nofun,
        fun _ => ClientLink.split?_spaceless hread⟩
  | group label combinator members ih =>
      have hne : members ≠ [] := by
        rintro rfl
        rw [validate_group_nil] at h
        cases h
      cases combinator with
      | and =>
          have hleave : leaveAll members cs = .ok left := by
            rw [← map_validate_and label hne, h]
            rfl
          obtain ⟨piece, hpiece⟩ := exists_stands_all ih hleave
          exact ⟨piece, .of_group hpiece (trimmed_of_leaveAll hne hleave)⟩
      | or =>
          rw [validate_or hne] at h
          cases hread : validateAny members cs with
          | error e =>
              rw [hread] at h
              cases h
          | ok found =>
              cases found with
              | none =>
                  rw [hread] at h
                  cases h
              | some read =>
                  rw [hread] at h
                  cases h
                  obtain ⟨piece, hpiece, htrim⟩ := exists_stands_any ih hread
                  exact ⟨piece, .of_group hpiece htrim⟩

end Argument

/-! ### What a walk asks, and where -/

section

variable {w : Walk} {grammar : List Argument}

/-- A walk asks the argument at a place of the grammar, and this is the text that it sees. -/
structure Walk.Asks (w : Walk) (grammar : List Argument) (i : Nat) (a : Argument)
    (seen : List Char) : Prop where
  stands : grammar[i]? = some a
  reached : ∃ v, w.steps (grammar.take i) = .ok v ∧ v.hard = none ∧ v.left = seen

/-- **A text divided among the arguments that a walk asks.** -/
structure Divides (w : Walk) (grammar : List Argument) (front piece : Nat → List Char) :
    Prop where
  /-- What an argument sees is a part of the text, and goes to its end up to white space. -/
  sees : ∀ i a seen, w.Asks grammar i a seen → Text.Stands (front i) seen w.left
  /-- What an argument uses up is the piece at the beginning of what it sees. -/
  uses : ∀ i a seen value left, w.Asks grammar i a seen →
    a.validate seen = .ok (value, left) → a.Leaves seen (piece i) left
  /-- The piece of one argument ends before what a later one sees. -/
  apart : ∀ i j, i < j → front i ++ piece i <+: front j

/-- Lists for the places of a grammar, from the one for its first place and the others. -/
def atPlaces (first : List Char) (others : Nat → List Char) : Nat → List Char
  | 0 => first
  | i + 1 => others i

/-- A walk that asks the first argument and then goes on asks the others from there. -/
theorem Walk.Asks.of_cons {a b : Argument} {v : Walk} {i : Nat} {seen : List Char}
    (hstep : w.step a = .ok v) (h : w.Asks (a :: grammar) (i + 1) b seen) :
    v.Asks grammar i b seen := by
  refine ⟨h.stands, ?_⟩
  obtain ⟨u, hsteps, hu⟩ := h.reached
  rw [List.take_succ_cons, Walk.steps, hstep] at hsteps
  exact ⟨u, hsteps, hu⟩

/-- A walk asks the first argument about the text that is left. -/
theorem Walk.Asks.first {a b : Argument} {seen : List Char}
    (h : w.Asks (a :: grammar) 0 b seen) : a = b ∧ seen = w.left := by
  obtain ⟨u, hsteps, -, rfl⟩ := h.reached
  cases hsteps
  exact ⟨Option.some.inj h.stands, rfl⟩

/-- A walk that an argument brings down asks none of those after it. -/
theorem Walk.not_asks_of_error {a b : Argument} {e : Refusal} {i : Nat} {seen : List Char}
    (h : w.step a = .error e) : ¬ w.Asks (a :: grammar) (i + 1) b seen := by
  rintro ⟨-, v, hsteps, -⟩
  rw [List.take_succ_cons, steps, h] at hsteps
  cases hsteps

/-- A walk that has ended asks no more arguments. -/
theorem Walk.not_asks_of_hard (h : w.hard.isSome = true) {i : Nat} {a : Argument}
    {seen : List Char} : ¬ w.Asks grammar i a seen := by
  rintro ⟨-, v, hsteps, hv, -⟩
  rw [steps_of_hard h] at hsteps
  cases hsteps
  rw [hv] at h
  cases h

/-- If no argument accepts what it sees, and each sees the whole text, there is nothing to divide.
-/
theorem Divides.of_whole
    (h : ∀ i a seen, w.Asks grammar i a seen →
      seen = w.left ∧ ∀ value left, a.validate seen ≠ .ok (value, left)) :
    Divides w grammar (fun _ => []) (fun _ => []) where
  sees i a seen hasks := by
    obtain ⟨rfl, -⟩ := h i a seen hasks
    exact Text.stands_append [] w.left
  uses i a seen value left hasks hread := absurd hread ((h i a seen hasks).2 value left)
  apart _ _ _ := List.prefix_rfl

/-- The first argument takes its piece, and what it leaves is divided among the others. -/
theorem Divides.cons {v : Walk} {front piece : Nat → List Char} (h : Divides v grammar front piece)
    {a : Argument} (hstep : w.step a = .ok v) (first gap : List Char)
    (hstands : Text.Stands (first ++ gap) v.left w.left)
    (huses : ∀ value left, a.validate w.left = .ok (value, left) → a.Leaves w.left first left) :
    Divides w (a :: grammar) (atPlaces [] fun i => first ++ gap ++ front i)
      (atPlaces first piece) where
  sees i b seen hasks := by
    cases i with
    | zero =>
        obtain ⟨-, rfl⟩ := hasks.first
        exact Text.stands_append [] w.left
    | succ i => exact hstands.trans (h.sees i b seen (hasks.of_cons hstep))
  uses i b seen value left hasks hread := by
    cases i with
    | zero =>
        obtain ⟨rfl, rfl⟩ := hasks.first
        exact huses value left hread
    | succ i => exact h.uses i b seen value left (hasks.of_cons hstep) hread
  apart i j hij := by
    cases j with
    | zero => exact absurd hij (Nat.not_lt_zero i)
    | succ j =>
        cases i with
        | zero => exact ⟨gap ++ front j, by simp [atPlaces]⟩
        | succ i =>
            have hmore := h.apart i j (Nat.lt_of_succ_lt_succ hij)
            simpa only [atPlaces, List.append_assoc, List.prefix_append_right_inj] using hmore

end

/-- **One step of a walk**: the argument takes its piece if it accepts, and what is left then stands
in what was left before. -/
theorem Walk.exists_piece {w v : Walk} {a : Argument} (hw : w.hard = none)
    (hstep : w.step a = .ok v) :
    ∃ first gap, Text.Stands (first ++ gap) v.left w.left ∧
      ∀ value left, a.validate w.left = .ok (value, left) → a.Leaves w.left first left := by
  cases hread : a.validate w.left with
  | ok read =>
      obtain ⟨value, rest⟩ := read
      obtain ⟨first, hfirst⟩ := Argument.exists_leaves a hread
      obtain ⟨gap, hgap⟩ := hfirst.trim
      rw [step_of_accepts hw hread] at hstep
      cases hstep
      refine ⟨first, gap, hgap, fun value' left' h => ?_⟩
      cases h
      exact hfirst
  | error e =>
      have hleft : v.left = w.left := by
        cases e with
        | unusable =>
            rw [step, hw, hread] at hstep
            cases hstep
        | rejected r =>
            cases ho : a.isOptional with
            | true =>
                rw [step_of_leftOut hw hread ho] at hstep
                cases hstep
                rfl
            | false =>
                rw [step_of_rejects hw hread ho] at hstep
                cases hstep
                rfl
      have hstands : Text.Stands [] v.left w.left := by
        rw [hleft]
        exact Text.stands_append [] w.left
      refine ⟨[], [], hstands, fun value left h => ?_⟩
      cases h

/-- **Every walk divides its text.** -/
theorem exists_divides (grammar : List Argument) (w : Walk) :
    ∃ front piece, Divides w grammar front piece := by
  induction grammar generalizing w with
  | nil => exact ⟨_, _, .of_whole fun i a seen hasks => by simpa using hasks.stands⟩
  | cons a grammar ih =>
      cases hw : w.hard with
      | some hard =>
          refine ⟨_, _, .of_whole fun i b seen hasks => ?_⟩
          exact absurd hasks (Walk.not_asks_of_hard (by simp [hw]))
      | none =>
          cases hstep : w.step a with
          | ok v =>
              obtain ⟨front, piece, hmore⟩ := ih v
              obtain ⟨first, gap, hgap, huses⟩ := Walk.exists_piece hw hstep
              exact ⟨_, _, hmore.cons hstep first gap hgap huses⟩
          | error e =>
              -- Only the first argument is asked, and it did not accept.
              refine ⟨_, _, .of_whole fun i b seen hasks => ?_⟩
              cases i with
              | zero =>
                  obtain ⟨rfl, rfl⟩ := hasks.first
                  refine ⟨rfl, fun value left hread => ?_⟩
                  cases hstep.symm.trans (Walk.step_of_accepts hw hread)
              | succ i => exact absurd hasks (Walk.not_asks_of_error hstep)

/-- **Arguments use up a text piece by piece.**  What an argument leaves of a text that it accepts
is the end of the text, up to white space, and what comes before is the piece that it used up.
Every walk divides its text among the arguments that it asks: each sees a part of the text that goes
to its end, up to white space, and the pieces of those that accept stand one after the other. -/
theorem pieces_divide :
    (∀ (a : Argument) (cs : List Char) (value : Value) (left : List Char),
        a.validate cs = .ok (value, left) → ∃ piece, a.Leaves cs piece left) ∧
      ∀ (grammar : List Argument) (text : List Char),
        ∃ front piece, Divides { left := text } grammar front piece :=
  ⟨fun a _ _ _ h => Argument.exists_leaves a h, fun grammar _ => exists_divides grammar _⟩

/-- A group of a number and a word, and the rest after it: the group uses up the spaces between the
two, and the rest sees what comes after the word. -/
theorem pieces_divide_rehearsed :
    let pair : Argument := .group { name := "pair" } .and
      [.number { name := "count" } {}, .string { name := "word" } {}]
    let rest : Argument := .rest { name := "rest" } {}
    let text := "12  bob  is here ".toList
    (∃ value piece, pair.validate text = .ok (value, "is here".toList) ∧
        pair.Leaves text piece "is here".toList) ∧
      Walk.Asks { left := text } [pair, rest] 1 rest "is here".toList ∧
      ∃ front piece : Nat → List Char, pair.Leaves text (piece 0) "is here".toList ∧
        Text.Stands (front 1) "is here".toList text ∧ front 0 ++ piece 0 <+: front 1 := by
  intro pair rest text
  have hread : ∃ value, pair.validate text = .ok (value, "is here".toList) := ⟨_, rfl⟩
  obtain ⟨value, hread⟩ := hread
  have hfirst : Walk.Asks { left := text } [pair, rest] 0 pair text := ⟨rfl, _, rfl, rfl, rfl⟩
  have hsecond : Walk.Asks { left := text } [pair, rest] 1 rest "is here".toList :=
    ⟨rfl, _, rfl, rfl, rfl⟩
  obtain ⟨hleaves, hdivides⟩ := pieces_divide
  obtain ⟨used, hused⟩ := hleaves pair text value _ hread
  obtain ⟨front, piece, h⟩ := hdivides [pair, rest] text
  exact ⟨⟨value, used, hread, hused⟩, hsecond, front, piece,
    h.uses 0 pair text value _ hfirst hread, h.sees 1 rest _ hsecond, h.apart 0 1 Nat.zero_lt_one⟩

end Switchboard
