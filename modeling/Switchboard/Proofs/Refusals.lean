import Switchboard.Proofs.Making

/-!
# Proofs — Refusals

Calls on arguments that are refused.  Every call checks what it is given before it changes anything,
but for one: a naming stores the name before it looks at the display.  So a refused call leaves an
argument as it was, unless it gives a proper name and a display that is no text; then the argument
goes by the new name and is the same in all else.

* `Argument.Ends`, `build_ends`: the ways in which a call ends.
* `validate_renamed`: the name of an argument makes no difference to what it makes of a text.
* `Misnames`, `build_refused`: what a call that is refused leaves behind.
-/

namespace Switchboard

/-! ### What a call gives to the label -/

namespace Build

/-- The name and the display that a naming gives: the name itself if there is no display or an empty
one. -/
def naming? : Build → Option (String × String)
  | .setName (.text name) .unset => some (name, name)
  | .setName (.text name) (.text display) =>
      some (name, if display.isEmpty then name else display)
  | _ => none

/-- The need that a call gives: to be left out, with a fallback unless it is the unset value. -/
def need? : Build → Option Need
  | .optional .unset => some (.optional none)
  | .optional fallback => some (.optional (some fallback))
  | _ => none

end Build

namespace Argument

/-- The text may be the name of an argument. -/
structure Nameable (name : String) : Prop where
  nonempty : name ≠ ""
  chars : ∀ c ∈ name.toList, isNameChar c = true

variable {a : Argument} {call : Build}

theorem checkName_eq_ok {kind : ArgumentKind} {v : Value} {name : String} :
    checkName kind v = .ok name ↔ v = .text name ∧ Nameable name := by
  cases v with
  | text s =>
      have hempty : s.isEmpty = true ↔ s = "" := String.isEmpty_iff
      have hall : s.toList.all isNameChar = true ↔ ∀ c ∈ s.toList, isNameChar c = true :=
        List.all_eq_true
      rw [checkName]
      split
      · rename_i h
        simp only [Value.text.injEq, reduceCtorEq, false_iff, not_and]
        rintro rfl hname
        exact hname.nonempty (hempty.mp h)
      · rename_i h
        split
        · rename_i hchars
          constructor
          · intro hok
            cases hok
            exact ⟨rfl, fun heq => h (hempty.mpr heq), hall.mp hchars⟩
          · rintro ⟨hs, -⟩
            cases hs
            rfl
        · rename_i hchars
          simp only [Value.text.injEq, reduceCtorEq, false_iff, not_and]
          rintro rfl hname
          exact hchars (hall.mpr hname.chars)
  | _ => simp [checkName]

/-- **The ways in which a call ends.** -/
inductive Ends (a : Argument) : Build → Built → Prop where
  | refused (call : Build) (e : BuildError) : Ends a call ⟨a, some e⟩
  /-- The name is stored, and then the display is refused. -/
  | halfNamed {name : String} {display : Value} (hname : Nameable name) (hset : display ≠ .unset)
      (htext : display.text? = none) :
      Ends a (.setName (.text name) display)
        ⟨a.withLabel { a.label with name }, some (.displayNotText a.kind)⟩
  | named {call : Build} {name display : String} (hnaming : call.naming? = some (name, display))
      (hneed : call.need? = none) :
      Ends a call ⟨a.withLabel { a.label with name, display }, none⟩
  | leftOut {call : Build} {need : Need} (hneed : call.need? = some need)
      (hnaming : call.naming? = none) : Ends a call ⟨a.withLabel { a.label with need }, none⟩
  /-- A demand is laid on the argument, or members are added to it. -/
  | demanded {call : Build} {b : Argument} (hnaming : call.naming? = none)
      (hneed : call.need? = none) (hlabel : b.label = a.label) : Ends a call ⟨b, none⟩

theorem setName_ends (a : Argument) (name display : Value) :
    Ends a (.setName name display) (a.setName name display) := by
  unfold setName
  cases hcheck : checkName a.kind name with
  | error e => exact .refused _ e
  | ok given =>
      obtain ⟨rfl, hname⟩ := checkName_eq_ok.mp hcheck
      cases display with
      | unset | text => exact .named rfl rfl
      | _ => exact .halfNamed hname nofun rfl

/-- A call on texts gives nothing to the label. -/
theorem unlabelled_of_textChange {kind : ArgumentKind}
    {result : Except BuildError (TextRule → TextRule)} (h : textChange? kind call = some result) :
    call.naming? = none ∧ call.need? = none := by
  cases call with
  | setName | optional => cases h
  | _ => exact ⟨rfl, rfl⟩

/-- Neither does a call on numbers. -/
theorem unlabelled_of_numberChange {kind : ArgumentKind}
    {result : Except BuildError (NumberRule → NumberRule)}
    (h : numberChange? kind call = some result) : call.naming? = none ∧ call.need? = none := by
  cases call with
  | setName | optional => cases h
  | _ => exact ⟨rfl, rfl⟩

theorem build_ends (a : Argument) (call : Build) : Ends a call (a.build call) := by
  unfold build
  split
  · exact setName_ends _ _ _
  · rename_i fallback
    cases fallback <;> exact .leftOut rfl rfl
  · split
    · exact .refused _ _
    · exact .demanded rfl rfl rfl
  -- What is left are calls on demands, which are refused or accepted, and calls of no use.
  case h_7 => exact .refused _ _
  all_goals
    split
    · exact .refused _ _
    · exact .refused _ _
  · rename_i change hchange
    obtain ⟨hnaming, hneed⟩ := unlabelled_of_textChange hchange
    exact .demanded hnaming hneed rfl
  · rename_i change hchange
    obtain ⟨hnaming, hneed⟩ := unlabelled_of_textChange hchange
    exact .demanded hnaming hneed rfl
  · rename_i change hchange
    obtain ⟨hnaming, hneed⟩ := unlabelled_of_numberChange hchange
    exact .demanded hnaming hneed rfl

end Argument

/-! ### The name of an argument -/

/-- What is seen of a refusal: how the argument at fault is shown and the wording, or what keeps it
from reading. -/
def Refusal.seen : Refusal → (String × String) ⊕ Obstacle
  | .rejected r => .inl (r.argument.manual, r.message)
  | .unusable obstacle => .inr obstacle

/-- What is seen of a result. -/
def Reading.seen (result : Reading.Result) :
    Except ((String × String) ⊕ Obstacle) (Value × List Char) :=
  result.mapError Refusal.seen

namespace Argument

variable {a : Argument} {call : Build}

theorem manual_renamed (a : Argument) (name : String) :
    (a.withLabel { a.label with name }).manual = a.manual := by
  simp only [manual, display, label_withLabel]

theorem seen_reject {a b : Argument} (hmanual : a.manual = b.manual) (reason : Reason) :
    Reading.seen (a.reject reason) = Reading.seen (b.reject reason) := by
  simp only [Reading.seen, reject, Except.mapError, Refusal.seen, hmanual, Rejection.message]

/-- **The name of an argument makes no difference to what is seen of its results.** -/
theorem validate_renamed (a : Argument) (name : String) (cs : List Char) :
    Reading.seen ((a.withLabel { a.label with name }).validate cs) =
      Reading.seen (a.validate cs) := by
  have hseen := fun reason => seen_reject (a.manual_renamed name) reason
  cases a with
  | bare label => rfl
  | string label rule =>
      simp only [withLabel, validate] at hseen ⊢
      cases rule.fault? (rule.forced (Text.splitToken cs).1) with
      | none => rfl
      | some reason => exact hseen reason
  | rest label rule =>
      simp only [withLabel, validate] at hseen ⊢
      cases rule.fault? (rule.forced cs) with
      | none => rfl
      | some reason => exact hseen reason
  | number label rule =>
      simp only [withLabel, validate] at hseen ⊢
      cases Number.read? (Text.splitToken cs).1 with
      | none => exact hseen _
      | some n =>
          dsimp only
          cases rule.fault? n with
          | none => rfl
          | some reason => exact hseen reason
  | client label =>
      simp only [withLabel, validate] at hseen ⊢
      cases ClientLink.split? cs with
      | none => exact hseen _
      | some read => rfl
  | group label combinator members =>
      simp only [withLabel, validate] at hseen ⊢
      cases members.isEmpty with
      | true => exact hseen _
      | false =>
          cases combinator with
          | and => rfl
          | or =>
              dsimp only [Bool.false_eq_true, if_false]
              cases validateAny members cs with
              | error e => rfl
              | ok read =>
                  cases read with
                  | none => exact hseen _
                  | some read => rfl

/-! ### Calls that are refused -/

/-- **A call that misnames an argument**: it gives a proper name, another one than the argument has,
and a display that is no text. -/
inductive Misnames (a : Argument) : Build → String → Prop where
  | intro {name : String} {display : Value} (hname : Nameable name) (hnew : name ≠ a.name)
      (hset : display ≠ .unset) (htext : display.text? = none) :
      Misnames a (.setName (.text name) display) name

/-- A call that misnames an argument is refused, and gives it the name. -/
theorem Misnames.build {name : String} (h : a.Misnames call name) :
    a.build call = ⟨a.withLabel { a.label with name }, some (.displayNotText a.kind)⟩ := by
  cases h with
  | @intro _ display hname hnew hset htext =>
      have hcheck : checkName a.kind (.text name) = .ok name := checkName_eq_ok.mpr ⟨rfl, hname⟩
      change a.setName (.text name) display = _
      rw [setName, hcheck]
      cases display with
      | unset => exact absurd rfl hset
      | text => cases htext
      | _ => rfl

theorem withLabel_label (a : Argument) : a.withLabel a.label = a := by
  cases a <;> rfl

/-- A call that misnames an argument does not leave it as it was. -/
theorem Misnames.changes {name : String} (h : a.Misnames call name) :
    (a.build call).argument ≠ a := by
  rw [h.build]
  intro heq
  have hname := congrArg (fun a => a.label.name) heq
  simp only [label_withLabel] at hname
  cases h with
  | intro _ hnew => exact hnew hname

/-- A call that is refused gives the argument another name, if anything. -/
theorem exists_renamed_of_refused {e : BuildError} (h : (a.build call).error = some e) :
    (a.build call).argument = a ∨
      ∃ name, a.Misnames call name ∧
        (a.build call).argument = a.withLabel { a.label with name } := by
  have hends := a.build_ends call
  generalize hbuilt : a.build call = built at h hends
  cases hends with
  | refused => exact .inl rfl
  | @halfNamed name display hname hset htext =>
      by_cases hnew : name = a.name
      · rw [hnew]
        exact .inl a.withLabel_label
      · exact .inr ⟨name, .intro hname hnew hset htext, rfl⟩
  | named | leftOut | demanded => cases h

/-- **What a call that is refused leaves behind** is the argument as it was, unless the call
misnames it.  Then the argument has the name that was given, and is the same in all else: it is
shown as before, and the same is seen of its results on every text. -/
theorem build_refused {e : BuildError} (h : (a.build call).error = some e) :
    ((a.build call).argument = a ↔ ∀ name, ¬a.Misnames call name) ∧
      (∀ name, a.Misnames call name →
        (a.build call).argument = a.withLabel { a.label with name }) ∧
      (a.build call).argument.manual = a.manual ∧
      ∀ cs, Reading.seen ((a.build call).argument.validate cs) = Reading.seen (a.validate cs) := by
  refine ⟨⟨fun hsame name hmisnames => hmisnames.changes hsame, fun hnone => ?_⟩,
    fun name hmisnames => congrArg Built.argument hmisnames.build, ?_⟩
  · rcases exists_renamed_of_refused h with hsame | ⟨name, hmisnames, -⟩
    · exact hsame
    · exact absurd hmisnames (hnone name)
  · rcases exists_renamed_of_refused h with hsame | ⟨name, -, hrenamed⟩
    · rw [hsame]
      exact ⟨rfl, fun _ => rfl⟩
    · rw [hrenamed]
      exact ⟨a.manual_renamed name, a.validate_renamed name⟩

/-- A list of words with a number in it is refused, and the words before the number are not
added. -/
theorem build_refused_rehearsed :
    let a := (Argument.string {} { words := some ["no"] })
    let call : Build := .whitelist (.list [.text "yes", .int 1])
    (a.build call).error = some (.wordsNotTexts .string) ∧ (a.build call).argument = a := by
  intro a call
  have hrefused : (a.build call).error = some (.wordsNotTexts .string) := rfl
  refine ⟨hrefused, (build_refused hrefused).1.mpr fun name h => ?_⟩
  have hcall : a.Misnames (.whitelist (.list [.text "yes", .int 1])) name := h
  cases hcall

/-- With a number for its display a naming is refused, and the argument has the new name. -/
theorem not_build_refused_rehearsed :
    let a := Argument.string { name := "a", display := "a" } {}
    let call : Build := .setName (.text "b") (.int 5)
    a.build call = ⟨.string { name := "b", display := "a" } {}, some (.displayNotText .string)⟩ ∧
      ¬∀ (a : Argument) (call : Build) (e : BuildError), (a.build call).error = some e →
        (a.build call).argument = a := by
  intro a call
  have hbuilt : a.build call =
      ⟨.string { name := "b", display := "a" } {}, some (.displayNotText .string)⟩ := rfl
  refine ⟨hbuilt, fun hall => ?_⟩
  have hsame := hall a call _ (congrArg Built.error hbuilt)
  rw [hbuilt] at hsame
  have hname : "b" = "a" := congrArg Argument.name hsame
  exact absurd hname (by decide)

end Argument

end Switchboard
