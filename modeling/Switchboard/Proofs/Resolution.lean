import Switchboard.Proofs.Making
import Switchboard.Proofs.Ruling

/-!
# Proofs — Resolution

The record of a grammar, said without the walk.  It has the names of the arguments, each once, and
under a name what the last argument of that name comes to when its turn comes.  A required argument
that rejects ends the walk, and then the record is that of the arguments before it.

* `Argument.resolved`: what an argument comes to on a text.
* `Resolves`: the record that arguments make of a text.
* `Walk.Through`, `Walk.Stopped`, `Walk.through_or_stopped`: a walk has gone through its arguments,
  or has been stopped at one of them.
* `evaluate_record`: the record of an evaluation.
-/

namespace Switchboard

/-! ### Values under names -/

namespace Record

variable (record : Record) (name : String) (value : Value)

/-- A value is put in the place of the one under its name, or at the end. -/
theorem names_put :
    (record.put name value).map (·.1) =
      if name ∈ record.map (·.1) then record.map (·.1) else record.map (·.1) ++ [name] := by
  induction record with
  | nil => rfl
  | cons entry record ih =>
      obtain ⟨other, old⟩ := entry
      rw [put]
      by_cases h : other = name
      · simp [h]
      · have hne : name ≠ other := fun h' => h h'.symm
        rw [if_neg h, List.map_cons, ih]
        by_cases hmem : name ∈ record.map (·.1) <;> simp [hmem, hne]

theorem get?_cons (other : String) :
    get? ((name, value) :: record) other = if other = name then some value else get? record other := by
  by_cases h : other = name
  · simp [get?, h]
  · have hbeq : (other == name) = false := by simpa using h
    simp [get?, List.lookup_cons, h, hbeq]

/-- A value is found under the name that it was put under, and nothing else has changed. -/
theorem get?_put (other : String) :
    (record.put name value).get? other = if other = name then some value else record.get? other := by
  induction record with
  | nil => exact get?_cons [] name value other
  | cons entry record ih =>
      obtain ⟨first, old⟩ := entry
      rw [put]
      by_cases h : first = name
      · subst h
        rw [if_pos rfl, get?_cons, get?_cons]
        split <;> rfl
      · rw [if_neg h, get?_cons, get?_cons, ih]
        by_cases hother : other = first
        · subst hother
          rw [if_pos rfl, if_neg h, if_pos rfl]
        · rw [if_neg hother, if_neg hother]

/-- What is found under a name has been put there. -/
theorem mem_names_of_get? {record : Record} {name : String} {value : Value}
    (h : record.get? name = some value) : name ∈ record.map (·.1) := by
  obtain ⟨before, after, rfl, -⟩ := List.lookup_eq_some_iff.mp h
  simp

end Record

/-! ### The record of arguments -/

namespace Argument

/-- What an argument comes to on a text: the value that it reads, or what stands in its place. -/
def resolved (a : Argument) (text : List Char) : Value :=
  match a.validate text with
  | .ok (value, _) => value
  | .error _ => a.absent

variable {a : Argument} {text : List Char}

theorem resolved_of_accepts {value : Value} {rest : List Char}
    (h : a.validate text = .ok (value, rest)) : a.resolved text = value := by
  rw [resolved, h]

theorem resolved_of_rejects {e : Refusal} (h : a.validate text = .error e) :
    a.resolved text = a.absent := by
  rw [resolved, h]

/-- What is read is a text, a number or the record of a group. -/
theorem validate_ne_unset {rest : List Char} : a.validate text ≠ .ok (.unset, rest) := by
  intro h
  cases a with
  | bare label => cases h
  | string label rule =>
      obtain ⟨-, hvalue, -⟩ := string_accepts.mp h
      cases hvalue
  | rest label rule =>
      obtain ⟨-, hvalue, -⟩ := rest_accepts.mp h
      cases hvalue
  | number label rule =>
      obtain ⟨n, -, -, hvalue, -⟩ := number_accepts.mp h
      cases n <;> cases hvalue
  | client label =>
      obtain ⟨_, -, hvalue⟩ := client_accepts.mp h
      cases hvalue
  | group label combinator members =>
      by_cases hne : members = []
      · subst hne
        rw [validate_group_nil] at h
        cases h
      · cases combinator with
        | and =>
            rw [validate_and hne] at h
            split at h <;> cases h
        | or =>
            rw [validate_or hne] at h
            split at h <;> cases h

/-- **An argument never comes to the unset value**, not even when it is left out. -/
theorem Made.resolved_ne_unset (h : a.Made) (text : List Char) : a.resolved text ≠ .unset := by
  unfold resolved
  split
  · rename_i value rest hread
    rintro rfl
    exact validate_ne_unset hread
  · have hfallback := h.fallback?_ne_unset
    unfold absent
    cases hv : a.fallback? with
    | none => exact nofun
    | some v =>
        rintro rfl
        exact hfallback hv

end Argument

/-- **The record that arguments make of a text**, none of which stands in the way. -/
structure Resolves (arguments : List Argument) (text : List Char) (record : Record) : Prop where
  /-- Its names are those of the arguments, each once, in the order in which they first occur. -/
  names : record.map (·.1) = (arguments.map Argument.name).eraseDups
  /-- Under a name stands what the last argument of the name comes to on the text that the arguments
  before it leave. -/
  last : ∀ before a after, arguments = before ++ a :: after → (∀ b ∈ after, b.name ≠ a.name) →
    ∃ soft left, Reads before text soft left ∧ record.get? a.name = some (a.resolved left)

section

variable {arguments : List Argument} {a : Argument} {text left : List Char}
  {soft : List (Argument × Rejection)} {record : Record}

theorem Resolves.nil (text : List Char) : Resolves [] text [] := by
  refine ⟨rfl, fun before a after h => ?_⟩
  cases before <;> cases h

/-- **One more argument** puts what it comes to under its name. -/
theorem Resolves.concat (h : Resolves arguments text record) (hread : Reads arguments text soft left)
    (a : Argument) : Resolves (arguments ++ [a]) text (record.put a.name (a.resolved left)) := by
  constructor
  · rw [Record.names_put, h.names, List.map_append, List.map_singleton, List.eraseDups_append]
    simp only [List.mem_eraseDups]
    by_cases hmem : a.name ∈ arguments.map Argument.name
    · rw [if_pos hmem, List.removeAll, List.filter_eq_nil_iff.mpr (by simpa using hmem)]
      simp
    · rw [if_neg hmem, List.removeAll, List.filter_eq_self.mpr (by simpa using hmem)]
      rfl
  · intro before b after hsplit hlast
    rw [Record.get?_put]
    rcases List.eq_nil_or_concat after with rfl | ⟨after, c, rfl⟩
    · obtain ⟨rfl, hb⟩ := List.append_inj' hsplit rfl
      cases hb
      exact ⟨soft, left, hread, if_pos rfl⟩
    · -- The argument at the end is a later one, so it has another name.
      have hsplit' : arguments ++ [a] = (before ++ b :: after) ++ [c] := by simpa using hsplit
      obtain ⟨rfl, hc⟩ := List.append_inj' hsplit' rfl
      cases hc
      have hne : b.name ≠ a.name := fun heq => hlast a (by simp) heq.symm
      obtain ⟨soft, left, hbefore, hget⟩ :=
        h.last before b after rfl fun d hd => hlast d (by simp [hd])
      exact ⟨soft, left, hbefore, by rw [if_neg hne, hget]⟩

/-- A name of one of the arguments is that of a last one. -/
theorem exists_last {name : String} (h : name ∈ arguments.map Argument.name) :
    ∃ before a after, arguments = before ++ a :: after ∧ a.name = name ∧
      ∀ b ∈ after, b.name ≠ a.name := by
  induction arguments with
  | nil => cases h
  | cons b arguments ih =>
      by_cases hmore : name ∈ arguments.map Argument.name
      · obtain ⟨before, a, after, rfl, hname, hlast⟩ := ih hmore
        exact ⟨b :: before, a, after, rfl, hname, hlast⟩
      · have hb : name = b.name := by simpa [hmore] using h
        subst hb
        exact ⟨[], b, arguments, rfl, rfl, fun c hc heq =>
          hmore (heq ▸ List.mem_map_of_mem hc)⟩

/-- **No value of the record is the unset one.** -/
theorem Resolves.ne_unset (h : Resolves arguments text record)
    (hmade : ∀ a ∈ arguments, a.Made) {name : String} {value : Value}
    (hget : record.get? name = some value) : value ≠ .unset := by
  have hname : name ∈ arguments.map Argument.name := by
    rw [← List.mem_eraseDups, ← h.names]
    exact Record.mem_names_of_get? hget
  obtain ⟨before, a, after, rfl, rfl, hlast⟩ := exists_last hname
  obtain ⟨soft, left, -, hresolved⟩ := h.last before a after rfl hlast
  cases hget.symm.trans hresolved
  exact (hmade a (by simp)).resolved_ne_unset left

/-! ### Walks that go through, and walks that are stopped -/

/-- No argument leaves the text as it is. -/
theorem Reads.left_of_nil (h : Reads [] text soft left) : left = text := by
  cases h
  rfl

theorem Reads.concat_accepted {value : Value} {rest : List Char}
    (h : Reads arguments text soft left) (ha : a.validate left = .ok (value, rest)) :
    Reads (arguments ++ [a]) text soft (Text.trim rest) := by
  induction h with
  | nil text => exact .accepted ha (.nil _)
  | accepted hb _ ih => exact .accepted hb (ih ha)
  | leftOut hb ho _ ih => exact .leftOut hb ho (ih ha)

theorem Reads.concat_leftOut {r : Rejection} (h : Reads arguments text soft left)
    (ha : a.validate left = .error (.rejected r)) (ho : a.isOptional = true) :
    Reads (arguments ++ [a]) text (soft ++ [(a, r)]) left := by
  induction h with
  | nil text => exact .leftOut ha ho (.nil _)
  | accepted hb _ ih => exact .accepted hb (ih ha)
  | leftOut hb hob _ ih => exact .leftOut hb hob (ih ha)

end

namespace Walk

/-- A walk has gone through arguments, none of which stands in the way. -/
structure Through (arguments : List Argument) (text : List Char) (w : Walk) : Prop where
  hard : w.hard = none
  reads : Reads arguments text w.soft w.left
  resolves : Resolves arguments text w.record

/-- A walk has gone through the arguments before a required one, and was stopped there. -/
structure Stopped (before : List Argument) (a : Argument) (r : Rejection) (text : List Char)
    (w : Walk) : Prop where
  hard : w.hard = some (a, r)
  reads : Reads before text w.soft w.left
  resolves : Resolves before text w.record
  rejects : a.validate w.left = .error (.rejected r)
  required : a.isOptional = false

variable {arguments : List Argument} {text : List Char} {w w' : Walk}

theorem through_nil (text : List Char) : Through [] text { left := text } :=
  ⟨rfl, .nil text, .nil text⟩

/-- **One more argument**: the walk goes through it, or is stopped there. -/
theorem Through.step (hw : w.Through arguments text) {a : Argument} (h : w.step a = .ok w') :
    w'.Through (arguments ++ [a]) text ∨ ∃ r, w'.Stopped arguments a r text := by
  have hresolves := hw.resolves.concat hw.reads a
  cases hread : a.validate w.left with
  | ok read =>
      obtain ⟨value, rest⟩ := read
      rw [step_of_accepts hw.hard hread] at h
      cases h
      rw [Argument.resolved_of_accepts hread] at hresolves
      exact .inl ⟨hw.hard, hw.reads.concat_accepted hread, hresolves⟩
  | error e =>
      cases e with
      | unusable =>
          rw [Walk.step, hw.hard, hread] at h
          cases h
      | rejected r =>
          cases ho : a.isOptional with
          | true =>
              rw [step_of_leftOut hw.hard hread ho] at h
              cases h
              rw [Argument.resolved_of_rejects hread] at hresolves
              exact .inl ⟨hw.hard, hw.reads.concat_leftOut hread ho, hresolves⟩
          | false =>
              rw [step_of_rejects hw.hard hread ho] at h
              cases h
              exact .inr ⟨r, rfl, hw.reads, hw.resolves, hread, ho⟩

/-- **More arguments**: the walk goes through all of them, or is stopped at one. -/
theorem Through.steps (hw : w.Through arguments text) {more : List Argument}
    (h : w.steps more = .ok w') :
    w'.Through (arguments ++ more) text ∨
      ∃ before a after r, more = before ++ a :: after ∧
        w'.Stopped (arguments ++ before) a r text := by
  induction more generalizing arguments w with
  | nil =>
      cases h
      rw [List.append_nil]
      exact .inl hw
  | cons a more ih =>
      rw [Walk.steps] at h
      cases hstep : w.step a with
      | error e =>
          rw [hstep] at h
          cases h
      | ok v =>
          rw [hstep] at h
          rcases hw.step hstep with hv | ⟨r, hv⟩
          · rcases ih hv h with hthrough | ⟨before, b, after, r, rfl, hstopped⟩
            · rw [List.append_assoc] at hthrough
              exact .inl hthrough
            · rw [List.append_assoc] at hstopped
              exact .inr ⟨a :: before, b, after, r, rfl, hstopped⟩
          · have hended : v.hard.isSome = true := by rw [hv.hard]; rfl
            cases (steps_of_hard hended more).symm.trans h
            refine .inr ⟨[], a, more, r, rfl, ?_⟩
            rw [List.append_nil]
            exact hv

/-- A walk goes through its grammar, or is stopped at an argument of it. -/
theorem through_or_stopped {grammar : List Argument} (h : along grammar text = .ok w) :
    w.Through grammar text ∨
      ∃ before a after r, grammar = before ++ a :: after ∧ w.Stopped before a r text :=
  (through_nil text).steps h

/-! ### The verdict on a walk -/

section

variable {tolerant : Bool}

/-- Nothing stands in the way of a walk that has not been stopped and leaves nothing, or leaves what
is tolerated. -/
theorem verdict_eq_ready :
    w.verdict tolerant = .ready ↔
      w.hard = none ∧ (w.left = [] ∨ w.soft = [] ∧ tolerant = true) := by
  unfold verdict
  cases w.hard with
  | some found => simp
  | none => cases w.left <;> cases w.soft <;> cases tolerant <;> simp

/-- A required argument is at fault exactly if it stopped the walk. -/
theorem verdict_eq_required {a : Argument} {r : Rejection} :
    w.verdict tolerant = .required a r ↔ w.hard = some (a, r) := by
  unfold verdict
  cases w.hard with
  | some found => simp [Prod.ext_iff]
  | none => cases w.left <;> cases w.soft <;> cases tolerant <;> simp

end

end Walk

/-! ### The record of an evaluation -/

namespace Setup

variable {σ : Type} {s : Setup σ} {id : CommandId}

/-- A fault of a required argument is told of that argument. -/
theorem Tells.of_required {verdict : Verdict} {f : Fault} (h : s.Tells id verdict (some f))
    (hkind : f.kind = .requiredArgument) :
    ∃ a r, verdict = .required a r ∧ f.options.argument = some a := by
  cases h with
  | required _ _ hargument => exact ⟨_, _, rfl, hargument⟩
  | optional hkind' => cases hkind'.symm.trans hkind
  | surplus hkind' => cases hkind'.symm.trans hkind

theorem Tells.exists_required {a : Argument} {r : Rejection} {fault : Option Fault}
    (h : s.Tells id (.required a r) fault) : ∃ f, fault = some f ∧ f.kind = .requiredArgument := by
  cases h with
  | required hkind => exact ⟨_, rfl, hkind⟩

/-- **The record of an evaluation.**  If an evaluation gives an outcome, and its fault is not that of
a required argument, the record is the one that the arguments of the command make of the text.  If
its fault is that of a required argument, this argument rejects what those before it leave, and the
record is the one that those before it make of the text.  No value of it is the unset one. -/
theorem evaluate_record (s : Setup σ) {id : CommandId} {c : Command} {u : World σ}
    (hc : u.registry.command? id = some c) (hgrammar : ∀ a ∈ u.registry.grammar c, a.Made)
    {text : List Char} {o : Outcome} (h : (s.evaluate id text).result u = .ok o) :
    ((∀ f, o.fault = some f → f.kind ≠ .requiredArgument) →
        Resolves (u.registry.grammar c) text o.record) ∧
      (∀ f, o.fault = some f → f.kind = .requiredArgument →
        ∃ before a after soft left r, u.registry.grammar c = before ++ a :: after ∧
          f.options.argument = some a ∧ Reads before text soft left ∧
          a.validate left = .error (.rejected r) ∧ a.isOptional = false ∧
          Resolves before text o.record) ∧
      ∀ name value, o.record.get? name = some value → value ≠ .unset := by
  obtain ⟨c', w, hc', hwalk, hfault, ho⟩ := s.evaluate_eq_ok h
  cases hc.symm.trans hc'
  have hrecord : o.record = w.record := by rw [ho]
  have htells := tells_of_verdictFault hfault
  have hends := Walk.through_or_stopped hwalk
  rw [hrecord]
  refine ⟨fun hne => ?_, fun f hf hkind => ?_, fun name value hget => ?_⟩
  · rcases hends with hw | ⟨before, a, after, r, -, hw⟩
    · exact hw.resolves
    · rw [Walk.verdict_eq_required.mpr hw.hard] at htells
      obtain ⟨f, hf, hkind⟩ := htells.exists_required
      exact absurd hkind (hne f hf)
  · rw [hf] at htells
    obtain ⟨a, r, hverdict, hargument⟩ := htells.of_required hkind
    have hhard := Walk.verdict_eq_required.mp hverdict
    rcases hends with hw | ⟨before, b, after, r', hsplit, hw⟩
    · cases hw.hard.symm.trans hhard
    · cases hw.hard.symm.trans hhard
      exact ⟨before, a, after, w.soft, w.left, r, hsplit, hargument, hw.reads, hw.rejects,
        hw.required, hw.resolves⟩
  · rcases hends with hw | ⟨before, a, after, r, hsplit, hw⟩
    · exact hw.resolves.ne_unset hgrammar hget
    · refine hw.resolves.ne_unset (fun b hb => hgrammar b ?_) hget
      rw [hsplit]
      exact List.mem_append_left _ hb

/-- A number that may be left out, a word, and one of some words under the name of the number: a line
of one word stops at the third, and the record is that of the first two. -/
theorem evaluate_record_rehearsed :
    let s : Setup Rehearsal.Cast := { host := Rehearsal.host fun _ => "" }
    let count : Argument := .number { name := "n", display := "n", need := .optional none } {}
    let word : Argument := .string { name := "word", display := "word" } {}
    let unit : Argument :=
      .string { name := "n", display := "n" } { words := some ["days", "weeks"] }
    let u : World Rehearsal.Cast := {
      registry := .applyAll {} [.create (.text "ale") .unset, .register 0 (some count),
        .register 0 (some word), .register 0 (some unit)]
      memory := {} }
    let text := "bob".toList
    (∀ a ∈ u.registry.arguments, a.Made) ∧
      ∃ o f before after, (s.evaluate 0 text).result u = .ok o ∧ o.fault = some f ∧
        f.kind = .requiredArgument ∧ [count, word, unit] = before ++ unit :: after ∧
        Resolves before text o.record ∧ o.record.map (·.1) = ["n", "word"] ∧
        o.record.get? "n" = some .null := by
  intro s count word unit u text
  have hnumber : Argument.make (.text "number") (.text "n") .unset =
      .ok (.number { name := "n", display := "n" } {}) := rfl
  have hstring : Argument.make (.text "string") (.text "n") .unset =
      .ok (.string { name := "n", display := "n" } {}) := rfl
  have hword' : Argument.make (.text "string") (.text "word") .unset = .ok word := rfl
  have hcount : count.Made := .build (.primitive hnumber) (.optional .unset) nofun
  have hword : word.Made := .primitive hword'
  have hunit : unit.Made :=
    .build (.primitive hstring) (.whitelist (.list [.text "days", .text "weeks"])) nofun
  have hmade : u.registry.Made :=
    Registry.made_applyAll Registry.made_empty (by simp [Operation.Supplied, hcount, hword, hunit])
  have hknown : u.registry.command? 0 =
      some { name := "ale", grammar := [0, 1, 2], standing := .listed } := rfl
  have hwalk : Walk.along [count, word, unit] text = .ok {
      record := [("n", .null), ("word", .text "bob")]
      soft := [(count, ⟨count, .notNumber "bob"⟩)]
      left := []
      hard := some (unit, ⟨unit, .unlisted "" ["days", "weeks"]⟩) } := rfl
  have hfluent : s.Fluent := fun _ => .pure _
  obtain ⟨o, ho, -, hrecord, htells⟩ := evaluate_of_along hfluent hknown hwalk
  obtain ⟨-, hrequired, -⟩ := evaluate_record s hknown (hmade.grammar _) ho
  obtain ⟨f, hf, hkind⟩ := Tells.exists_required htells
  obtain ⟨before, a, after, _, _, _, hsplit, hargument, -, -, -, hresolves⟩ :=
    hrequired f hf hkind
  rw [hf] at htells
  obtain ⟨_, _, hverdict, hunit⟩ := Tells.of_required htells hkind
  cases hverdict
  cases hargument.symm.trans hunit
  exact ⟨hmade, o, f, before, after, ho, hf, hkind, hsplit, hresolves, by rw [hrecord]; rfl,
    by rw [hrecord]; rfl⟩

end Setup

end Switchboard
