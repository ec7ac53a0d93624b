import Switchboard.Handbook
import Switchboard.Proofs.Letters

/-!
# Proofs — Searching

Looking for something in the texts of a command.  A pattern is searched from every place of a text,
and a filter that is no pattern is looked for as it stands, in any case of its letters.

* `Node.searchFrom_eq_true`: a search tries every place.
* `Text.Occurs`, `search_literally`: what it is to find a text as it stands.
* `Handbook.mentions_iff`: where a pattern is searched.
* `Handbook.Seeks`, `filtered_of_seeks`: what a filter looks for.
* `Handbook.Usable`, `Usable.exists_seeks`: the filters that can be looked for, and where.
-/

namespace Switchboard

/-- A text is found in another one, in other letter cases. -/
def Text.Occurs (sought text : List Char) : Prop :=
  ∃ before found after, text = before ++ found ++ after ∧ Text.Same sought found

namespace Pattern

/-- **A search tries every place** of the text. -/
theorem Node.searchFrom_eq_true {node : Node} {passed : Nat} {before text : List Char} :
    node.searchFrom passed before text = true ↔
      ∃ skipped rest, text = skipped ++ rest ∧
        (node.run ⟨passed + skipped.length, skipped.reverse ++ before, rest, []⟩ some).isSome =
          true := by
  induction text generalizing passed before with
  | nil =>
      rw [searchFrom]
      constructor
      · exact fun h => ⟨[], [], rfl, h⟩
      · rintro ⟨skipped, rest, htext, h⟩
        obtain ⟨rfl, rfl⟩ := List.append_eq_nil_iff.mp htext.symm
        exact h
  | cons x xs ih =>
      rw [searchFrom, Bool.or_eq_true, ih]
      constructor
      · rintro (h | ⟨skipped, rest, rfl, h⟩)
        · exact ⟨[], x :: xs, rfl, h⟩
        · refine ⟨x :: skipped, rest, rfl, ?_⟩
          simpa [Nat.add_assoc, Nat.add_comm 1] using h
      · rintro ⟨skipped, rest, htext, h⟩
        cases skipped with
        | nil =>
            cases htext
            exact .inl h
        | cons y skipped =>
            cases htext
            refine .inr ⟨skipped, rest, rfl, ?_⟩
            simpa [Nat.add_assoc, Nat.add_comm 1] using h

/-- Letters one after the other match what they are in any case. -/
theorem run_letters (sought : List Char) (c : Cursor) :
    ((sought.foldr (fun c rest => Node.sequence (.char (.letter .unicode c.toNat false)) rest)
      .empty).run c some).isSome = (Text.dropSame? sought c.after).isSome := by
  induction sought generalizing c with
  | nil => rfl
  | cons x sought ih =>
      obtain ⟨place, before, after, groups⟩ := c
      cases after with
      | nil => rfl
      | cons y after =>
          rw [List.foldr_cons, Node.run, Node.run, Text.dropSame?, Cursor.step?]
          have hsame :
              CharTest.passes y (.letter .unicode x.toNat false) = Text.sameLetter x y := by
            simp [CharTest.passes, Letters.same, Text.sameLetter]
          simp only [hsame]
          split
          · exact ih _
          · rfl

theorem run_literally (sought : String) (c : Cursor) :
    ((literally sought).program.run c some).isSome =
      (Text.dropSame? sought.toList c.after).isSome :=
  run_letters sought.toList c

/-- **A text is looked for as it stands**, in any case of its letters. -/
theorem search_literally (sought : String) (text : List Char) :
    (literally sought).search text = true ↔ Text.Occurs sought.toList text := by
  rw [search, Node.searchFrom_eq_true]
  constructor
  · rintro ⟨skipped, rest, rfl, h⟩
    rw [run_literally] at h
    obtain ⟨after, hafter⟩ := Option.isSome_iff_exists.mp h
    obtain ⟨found, rfl, hfound⟩ := Text.dropSame?_eq_some.mp hafter
    exact ⟨skipped, found, after, (List.append_assoc _ _ _).symm, hfound⟩
  · rintro ⟨before, found, after, rfl, hfound⟩
    refine ⟨before, found ++ after, List.append_assoc _ _ _, ?_⟩
    rw [run_literally, Text.dropSame?_eq_some.mpr ⟨found, rfl, hfound⟩]
    rfl

end Pattern

/-- The texts of a command that a filter is looked for in. -/
def Command.texts (c : Command) : List String := c.name :: c.aliases ++ [c.helpText]

namespace Handbook

/-- **Where a pattern is searched**: the name, the aliases and the help text. -/
theorem mentions_iff {p : Pattern} {c : Command} :
    mentions p c = true ↔ ∃ text ∈ c.texts, p.search text.toList = true := by
  simp [mentions, Command.texts, or_assoc]

/-- **What a filter looks for.**  Nothing, or a value that counts as false, lets every command pass;
a text is a pattern, or, if it is none, is looked for as it stands.  A text that is refused as a
pattern for any other reason than its syntax looks for nothing. -/
inductive Seeks : Option Value → (Command → Bool) → Prop where
  | all : Seeks none fun _ => true
  | falsy {filter : Value} (h : filter.isTrue = false) : Seeks (some filter) fun _ => true
  | pattern {filter : String} {p : Pattern} (hfilter : filter ≠ "")
      (h : Pattern.compile filter { ignoreCase := true } = .ok p) :
      Seeks (some (.text filter)) (mentions p)
  | literal {filter : String} (hfilter : filter ≠ "")
      (h : Pattern.compile filter { ignoreCase := true } = .error .malformed) :
      Seeks (some (.text filter)) (mentions (.literally filter))

theorem filtered_of_seeks {σ : Type} {filter : Option Value} {test : Command → Bool}
    (h : Seeks filter test) (commands : List Command) :
    (filtered filter commands : Act σ (List Command)) = pure (commands.filter test) := by
  cases h with
  | all => rw [filtered, List.filter_true]
  | falsy h => simp [filtered, h]
  | pattern hfilter h => simp [filtered, Value.isTrue, hfilter, filterPattern, h]
  | literal hfilter h => simp [filtered, Value.isTrue, hfilter, filterPattern, h]

/-- A filter that can be looked for: if it is no pattern, then because it breaks a rule of the
syntax. -/
def Usable (filter : String) : Prop :=
  ∀ e, Pattern.compile filter { ignoreCase := true } = .error e → e = .malformed

/-- A test for the commands in whose texts a filter is found: as a pattern if it is one, and as it
stands if it is malformed. -/
structure Finds (filter : String) (test : Command → Bool) : Prop where
  pattern : ∀ p, Pattern.compile filter { ignoreCase := true } = .ok p →
    ∀ c, test c = true ↔ ∃ text ∈ c.texts, p.search text.toList = true
  literal : Pattern.compile filter { ignoreCase := true } = .error .malformed →
    ∀ c, test c = true ↔ ∃ text ∈ c.texts, Text.Occurs filter.toList text.toList

section

variable {filter : String} (hfilter : filter ≠ "")

include hfilter

/-- **A filter that can be looked for is looked for** in the texts of the commands. -/
theorem Usable.exists_seeks (h : Usable filter) :
    ∃ test, Seeks (some (.text filter)) test ∧ Finds filter test := by
  cases hcompile : Pattern.compile filter { ignoreCase := true } with
  | ok p =>
      refine ⟨mentions p, .pattern hfilter hcompile, fun q hq c => ?_, fun hmalformed => ?_⟩
      · cases hcompile.symm.trans hq
        exact mentions_iff
      · cases hcompile.symm.trans hmalformed
  | error e =>
      obtain rfl := h e hcompile
      refine ⟨_, .literal hfilter hcompile, fun q hq => ?_, fun _ c => ?_⟩
      · cases hcompile.symm.trans hq
      · simp only [mentions_iff, Pattern.search_literally]

/-- A filter that cannot be looked for fails for the reason why it is no pattern. -/
theorem filtered_of_not_usable {σ : Type} (h : ¬ Usable filter) (commands : List Command) :
    ∃ e, (filtered (some (.text filter)) commands : Act σ (List Command)) = .fail e := by
  simp only [Usable, not_forall] at h
  obtain ⟨e, hcompile, hne⟩ := h
  refine ⟨.pattern e, ?_⟩
  cases e with
  | malformed => exact absurd rfl hne
  | _ => simp [filtered, Value.isTrue, hfilter, filterPattern, hcompile]

end

end Handbook

end Switchboard
