import Switchboard.Proofs.Constraints
import Switchboard.Proofs.Refusals

/-!
# Proofs — Concerns

The order of calls on an argument.  Every call is about one concern: the name with the display, the
need, or one of the demands.  A call that is accepted neither reads nor changes anything of another
concern, so an argument depends only on the calls about each concern, in their order.  Within a
concern the last call counts, but for two: words are gathered in order, and wholeness is demanded
once and for all.

* `Accepts`: calls that are accepted, one after the other.
* `Label.ofCalls`, `label_buildAll`: what calls give to the label, taken together.
* `Concern`, `Build.about`: what a call is about, and the calls about a concern.
* `TextRule.ofCalls_congr`, `NumberRule.ofCalls_congr`, `Label.ofCalls_congr`: what calls give
  depends only on the calls about each concern.
* `buildAll_of_concerns`: so does the argument.
-/

namespace Switchboard

/-! ### What calls give to the label -/

namespace Label

/-- The label after a call that is accepted. -/
def after (l : Label) (call : Build) : Label where
  name := (call.naming?.map Prod.fst).getD l.name
  display := (call.naming?.map Prod.snd).getD l.display
  need := call.need?.getD l.need

/-- **What calls give to a label**, taken together: the last name with its display, and the last
need. -/
def ofCalls (l : Label) (calls : List Build) : Label where
  name := ((Build.last Build.naming? calls).map Prod.fst).getD l.name
  display := ((Build.last Build.naming? calls).map Prod.snd).getD l.display
  need := (Build.last Build.need? calls).getD l.need

theorem ofCalls_concat (l : Label) (calls : List Build) (call : Build) :
    l.ofCalls (calls ++ [call]) = (l.ofCalls calls).after call := by
  simp only [ofCalls, after, Build.last_concat]
  cases call.naming? <;> cases call.need? <;> simp

end Label

namespace Argument

variable {a : Argument} {call : Build} {calls : List Build}

/-- Calls that are accepted, one after the other. -/
def Accepts (a : Argument) : List Build → Prop
  | [] => True
  | call :: calls => (a.build call).error = none ∧ (a.build call).argument.Accepts calls

theorem Accepts.of_concat (h : a.Accepts (calls ++ [call])) :
    a.Accepts calls ∧ ((a.buildAll calls).build call).error = none := by
  induction calls generalizing a with
  | nil => exact ⟨trivial, h.1⟩
  | cons first calls ih =>
      obtain ⟨hcalls, hcall⟩ := ih h.2
      exact ⟨⟨h.1, hcalls⟩, hcall⟩

/-- **A call that is accepted gives to the label what it gives to it**, whatever the argument. -/
theorem label_build (h : (a.build call).error = none) :
    (a.build call).argument.label = a.label.after call := by
  have hends := a.build_ends call
  generalize a.build call = built at h hends
  cases hends with
  | refused | halfNamed => cases h
  | named hnaming hneed => simp [Label.after, hnaming, hneed]
  | leftOut hneed hnaming => simp [Label.after, hnaming, hneed]
  | demanded hnaming hneed hlabel => simp [Label.after, hnaming, hneed, hlabel]

theorem label_buildAll (h : a.Accepts calls) :
    (a.buildAll calls).label = a.label.ofCalls calls := by
  induction calls using List.reverseRecOn with
  | nil => rfl
  | append_singleton calls call ih =>
      obtain ⟨hcalls, hcall⟩ := h.of_concat
      rw [Label.ofCalls_concat, ← ih hcalls, ← label_build hcall, buildAll, List.foldl_concat]
      rfl

end Argument

/-! ### Concerns -/

/-- What a call may be about. -/
inductive Concern where
  | naming
  | need
  | minimum
  | maximum
  | words
  | pattern
  | letterCase
  | integral
  | sign
  | members
  deriving DecidableEq

namespace Build

/-- **What a call is about.** -/
def concern : Build → Concern
  | .setName .. => .naming
  | .optional _ => .need
  | .min _ => .minimum
  | .max _ => .maximum
  | .whitelist _ => .words
  | .matching _ => .pattern
  | .forceUpper | .forceLower => .letterCase
  | .integer => .integral
  | .positive | .negative => .sign
  | .add _ => .members

/-- The calls about a concern, in their order. -/
def about (k : Concern) (calls : List Build) : List Build :=
  calls.filter (·.concern = k)

/-- What calls about one concern set is set by no other call. -/
def Sets {α : Type} (set : Build → Option α) (k : Concern) : Prop :=
  ∀ call x, set call = some x → call.concern = k

section

variable {α : Type} {set : Build → Option α} {k : Concern} {calls calls' : List Build}

theorem filterMap_about (h : Sets set k) (calls : List Build) :
    (about k calls).filterMap set = calls.filterMap set := by
  rw [about, List.filterMap_filter]
  refine List.filterMap_congr fun call _ => ?_
  split
  · rfl
  · rename_i hother
    cases hset : set call with
    | none => rfl
    | some x => exact absurd (decide_eq_true (h call x hset)) hother

theorem filterMap_congr_about (h : Sets set k) (hsame : about k calls = about k calls') :
    calls.filterMap set = calls'.filterMap set := by
  rw [← filterMap_about h, hsame, filterMap_about h]

theorem last_congr (h : Sets set k) (hsame : about k calls = about k calls') :
    last set calls = last set calls' := by
  rw [last, last, filterMap_congr_about h hsame]

end

theorem sets_label : Sets naming? .naming ∧ Sets need? .need := by
  refine ⟨?_, ?_⟩
  all_goals
    intro call x h
    cases call <;> first | rfl | cases h

theorem sets_text : Sets shortest? .minimum ∧ Sets longest? .maximum ∧ Sets words? .words ∧
    Sets pattern? .pattern ∧ Sets letterCase? .letterCase := by
  refine ⟨?_, ?_, ?_, ?_, ?_⟩
  all_goals
    intro call x h
    cases call <;> first | rfl | cases h

theorem sets_number : Sets minimum? .minimum ∧ Sets maximum? .maximum ∧ Sets sign? .sign := by
  refine ⟨?_, ?_, ?_⟩
  all_goals
    intro call x h
    cases call <;> first | rfl | cases h

theorem any_about (calls : List Build) :
    (about .integral calls).any isInteger = calls.any isInteger := by
  rw [about, List.any_filter]
  refine congrArg (fun p => calls.any p) (funext fun call => ?_)
  cases call <;> rfl

theorem last_eq_none {α : Type} {set : Build → Option α} {calls : List Build} :
    last set calls = none ↔ ∀ call ∈ calls, set call = none := by
  rw [last, List.getLast?_eq_none_iff, List.filterMap_eq_nil_iff]

theorem exists_of_last {α : Type} {set : Build → Option α} {calls : List Build} {x : α}
    (h : last set calls = some x) : ∃ call ∈ calls, set call = some x :=
  List.mem_filterMap.mp (List.mem_of_getLast? h)

/-- A need that a call gives is to be left out. -/
theorem need?_eq_some {call : Build} {need : Need} (h : call.need? = some need) :
    ∃ given fallback, call = .optional given ∧ need = .optional fallback := by
  cases call with
  | optional given =>
      cases given <;>
        · cases h
          exact ⟨_, _, rfl, rfl⟩
  | _ => cases h

theorem need?_ne_none (given : Value) : (Build.optional given).need? ≠ none := by
  cases given <;> exact nofun

end Build

section

variable {calls calls' : List Build} (hsame : ∀ k, Build.about k calls = Build.about k calls')

include hsame

/-- **What calls give to a label depends only on the calls about each concern.** -/
theorem Label.ofCalls_congr (l : Label) : l.ofCalls calls = l.ofCalls calls' := by
  obtain ⟨hnaming, hneed⟩ := Build.sets_label
  rw [ofCalls, ofCalls, Build.last_congr hnaming (hsame _), Build.last_congr hneed (hsame _)]

/-- **So does what they demand of a text.** -/
theorem TextRule.ofCalls_congr : ofCalls calls = ofCalls calls' := by
  obtain ⟨hmin, hmax, hwords, hpattern, hcase⟩ := Build.sets_text
  have hgathered : Build.gathered calls = Build.gathered calls' := by
    rw [Build.gathered, Build.gathered, Build.filterMap_congr_about hwords (hsame _)]
  rw [ofCalls, ofCalls, hgathered, Build.last_congr hmin (hsame _),
    Build.last_congr hmax (hsame _), Build.last_congr hpattern (hsame _),
    Build.last_congr hcase (hsame _)]

/-- **So does what they demand of a number.** -/
theorem NumberRule.ofCalls_congr : ofCalls calls = ofCalls calls' := by
  obtain ⟨hmin, hmax, hsign⟩ := Build.sets_number
  have hintegral : calls.any Build.isInteger = calls'.any Build.isInteger := by
    rw [← Build.any_about, hsame, Build.any_about]
  rw [ofCalls, ofCalls, hintegral, Build.last_congr hmin (hsame _),
    Build.last_congr hmax (hsame _), Build.last_congr hsign (hsame _)]

end

/-! ### Arguments after calls -/

namespace Argument

section

variable {kind name display : Value} {start : Argument} {calls : List Build}

theorem buildAll_text_eq {portion : Portion} (hmake : make kind name display = .ok start)
    (hkind : start.kind = portion.kind) (hcalls : start.Accepts calls) :
    start.buildAll calls = portion.argument (start.label.ofCalls calls) (.ofCalls calls) := by
  have hlabel := label_buildAll hcalls
  obtain ⟨label, rfl⟩ := text_of_make hmake hkind
  obtain ⟨label', ha⟩ := buildAll_text portion label calls
  rw [ha] at hlabel ⊢
  rw [← hlabel]
  cases portion <;> rfl

theorem buildAll_number_eq (hmake : make kind name display = .ok start)
    (hkind : start.kind = .number) (hcalls : start.Accepts calls) :
    start.buildAll calls = .number (start.label.ofCalls calls) (.ofCalls calls) := by
  have hlabel := label_buildAll hcalls
  obtain ⟨label, rfl⟩ := number_of_make hmake hkind
  obtain ⟨label', ha⟩ := buildAll_number label calls
  rw [ha] at hlabel ⊢
  rw [← hlabel]
  rfl

/-- An argument may be left out exactly if some call said so. -/
theorem isOptional_buildAll (hmake : make kind name display = .ok start)
    (hcalls : start.Accepts calls) :
    (start.buildAll calls).isOptional = true ↔ ∃ fallback, Build.optional fallback ∈ calls := by
  rw [isOptional, label_buildAll hcalls, Label.ofCalls, need_of_make hmake]
  cases hlast : Build.last Build.need? calls with
  | none =>
      refine iff_of_false nofun ?_
      rintro ⟨fallback, hmem⟩
      exact Build.need?_ne_none fallback (Build.last_eq_none.mp hlast _ hmem)
  | some need =>
      obtain ⟨call, hmem, hneed⟩ := Build.exists_of_last hlast
      obtain ⟨given, fallback, rfl, rfl⟩ := Build.need?_eq_some hneed
      exact iff_of_true rfl ⟨given, hmem⟩

/-- **The order of calls on an argument.**  After calls that are accepted, an argument for texts or
numbers has the last name and display, the last need and the last of each demand, all words that
were added, in order, and wholeness for good.  So it is the same argument after any calls that are
accepted and are the same about each concern.  It may be left out exactly if some call said so, and
if it may not it has no fallback. -/
theorem buildAll_of_concerns (hmake : make kind name display = .ok start)
    (hkind : start.kind ∈ [ArgumentKind.string, .rest, .number]) (hcalls : start.Accepts calls) :
    let a := start.buildAll calls
    (∀ portion : Portion, start.kind = portion.kind →
      a = portion.argument (start.label.ofCalls calls) (.ofCalls calls)) ∧
    (start.kind = .number → a = .number (start.label.ofCalls calls) (.ofCalls calls)) ∧
    (∀ calls', start.Accepts calls' → (∀ k, Build.about k calls = Build.about k calls') →
      start.buildAll calls' = a) ∧
    (a.isOptional = true ↔ ∃ fallback, Build.optional fallback ∈ calls) ∧
    (a.isOptional = false → a.fallback? = none) := by
  refine ⟨fun portion hkind => buildAll_text_eq hmake hkind hcalls,
    fun hkind => buildAll_number_eq hmake hkind hcalls, fun calls' hcalls' hsame => ?_,
    isOptional_buildAll hmake hcalls, fun hrequired => ?_⟩
  · have htext (portion : Portion) (hkind : start.kind = portion.kind) :
        start.buildAll calls' = start.buildAll calls := by
      rw [buildAll_text_eq hmake hkind hcalls', buildAll_text_eq hmake hkind hcalls,
        Label.ofCalls_congr hsame, TextRule.ofCalls_congr hsame]
    simp only [List.mem_cons, List.not_mem_nil, or_false] at hkind
    rcases hkind with hkind | hkind | hkind
    · exact htext .token hkind
    · exact htext .all hkind
    · rw [buildAll_number_eq hmake hkind hcalls', buildAll_number_eq hmake hkind hcalls,
        Label.ofCalls_congr hsame, NumberRule.ofCalls_congr hsame]
  · rw [isOptional] at hrequired
    rw [fallback?]
    split at hrequired
    · rfl
    · cases hrequired

end

/-- Two orders of the same calls, each with the same order of the two cases and of the two lists of
words. -/
theorem buildAll_of_concerns_rehearsed :
    let start : Argument := .string { name := "word", display := "word" } {}
    let calls : List Build := [.forceUpper, .min (.int 2), .whitelist (.list [.text "yes"]),
      .optional .null, .forceLower, .setName (.text "answer") .unset,
      .whitelist (.list [.text "no"])]
    let calls' : List Build := [.setName (.text "answer") .unset, .whitelist (.list [.text "yes"]),
      .whitelist (.list [.text "no"]), .optional .null, .forceUpper, .forceLower, .min (.int 2)]
    make (.text "string") (.text "word") .unset = .ok start ∧ start.Accepts calls ∧
      start.Accepts calls' ∧ (∀ k, Build.about k calls = Build.about k calls') ∧
      start.buildAll calls' = start.buildAll calls ∧
      start.buildAll calls = .string
        { name := "answer", display := "answer", need := .optional (some .null) }
        { minimum := some 2, words := some ["yes", "no"], letterCase := some .lower } := by
  intro start calls calls'
  have hmake : make (.text "string") (.text "word") .unset = .ok start := rfl
  have hcalls : start.Accepts calls := by
    refine ⟨?_, ?_, ?_, ?_, ?_, ?_, ?_, trivial⟩ <;> decide +kernel
  have hcalls' : start.Accepts calls' := by
    refine ⟨?_, ?_, ?_, ?_, ?_, ?_, ?_, trivial⟩ <;> decide +kernel
  have hsame : ∀ k, Build.about k calls = Build.about k calls' := by
    intro k
    cases k <;> rfl
  have hmin : Build.last Build.shortest? calls = some 2 := by decide +kernel
  obtain ⟨htext, -, horder, -⟩ := buildAll_of_concerns hmake (.head _) hcalls
  refine ⟨hmake, hcalls, hcalls', hsame, horder calls' hcalls' hsame, ?_⟩
  rw [htext .token rfl, TextRule.ofCalls, hmin]
  rfl

end Argument

end Switchboard
