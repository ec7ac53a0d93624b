import Mathlib.Logic.ExistsUnique
import Switchboard.Proofs.Primitives
import Switchboard.Proofs.Turn
import Switchboard.Rehearsal

/-!
# Proofs — Ruling

What a grammar rules about a text, said without the walk, and the fault that an evaluation makes of
it.

* `Argument.Concrete`, `Fluent`: arguments that can all read, and a formatter that never raises.
* `Reads`: arguments read a text from left to right, and none of them stands in the way.
* `Ruling`: the four verdicts of a grammar by their priority.
* `exists_ruling`, `Ruling.along`: concrete arguments rule about every text, and a ruling is the
  verdict on the walk, so there is one.
* `evaluate_ruling`: an evaluation gives an outcome, whose fault tells the ruling.
-/

namespace Switchboard

/-! ### Arguments that can read -/

/-- An argument of one of the kinds that read, down to the members of its groups.  Patterns are
patterns for texts. -/
inductive Argument.Concrete : Argument → Prop where
  | string (label : Label) {rule : TextRule} (h : rule.ofBytes = false) :
      Concrete (.string label rule)
  | number (label : Label) (rule : NumberRule) : Concrete (.number label rule)
  | client (label : Label) : Concrete (.client label)
  | rest (label : Label) {rule : TextRule} (h : rule.ofBytes = false) : Concrete (.rest label rule)
  | group (label : Label) (combinator : Combinator) {members : List Argument}
      (h : ∀ a ∈ members, Concrete a) : Concrete (.group label combinator members)

namespace Argument

section

variable {label : Label} {members : List Argument}

theorem validate_group_nil (combinator : Combinator) (cs : List Char) :
    (Argument.group label combinator []).validate cs =
      reject (.group label combinator []) (.noMembers label.display) := by
  cases combinator <;> simp [validate]

/-- A group that joins its members by *and* reads them one after the other. -/
theorem validate_and (hne : members ≠ []) (cs : List Char) :
    (Argument.group label .and members).validate cs =
      match validateAll members cs [] with
      | .error e => .error e
      | .ok (record, left) => .ok (record.toValue, left) := by
  have hsome : members.isEmpty = false := by
    simpa using hne
  rw [validate, hsome]
  rfl

/-- A group that joins its members by *or* reads the first of them that accepts. -/
theorem validate_or (hne : members ≠ []) (cs : List Char) :
    (Argument.group label .or members).validate cs =
      match validateAny members cs with
      | .error e => .error e
      | .ok none => reject (.group label .or members) .noAlternative
      | .ok (some (record, left)) => .ok (record.toValue, left) := by
  have hsome : members.isEmpty = false := by
    simpa using hne
  rw [validate, hsome]
  rfl

end

/-- A refusal by arguments in a row is that of the first of them that does not accept what those
before it leave. -/
theorem exists_of_validateAll {arguments : List Argument} {cs : List Char} {record : Record}
    {e : Refusal} (h : validateAll arguments cs record = .error e) :
    ∃ front a after record' left, arguments = front ++ a :: after ∧
      validateAll front cs record = .ok (record', left) ∧ a.validate left = .error e := by
  induction arguments generalizing cs record with
  | nil =>
      rw [validateAll] at h
      cases h
  | cons a arguments ih =>
      rw [validateAll] at h
      cases hread : a.validate cs with
      | error e' =>
          rw [hread] at h
          cases h
          refine ⟨[], a, arguments, record, cs, rfl, ?_, hread⟩
          rw [validateAll]
      | ok read =>
          rw [hread] at h
          obtain ⟨front, b, after, record', left, rfl, hfront, hb⟩ := ih h
          refine ⟨a :: front, b, after, record', left, rfl, ?_, hb⟩
          rw [validateAll, hread]
          exact hfront

variable {obstacle : Obstacle}

/-- What keeps alternatives from reading a text keeps the first of them from it that does not
reject. -/
theorem exists_of_validateAny {arguments : List Argument} {cs : List Char}
    (h : validateAny arguments cs = .error (.unusable obstacle)) :
    ∃ front a after, arguments = front ++ a :: after ∧
      (∀ b ∈ front, ∃ r, b.validate cs = .error (.rejected r)) ∧
        a.validate cs = .error (.unusable obstacle) := by
  induction arguments with
  | nil =>
      rw [validateAny] at h
      cases h
  | cons a arguments ih =>
      rw [validateAny] at h
      cases hread : a.validate cs with
      | ok read =>
          rw [hread] at h
          cases h
      | error e =>
          rw [hread] at h
          cases e with
          | unusable =>
              cases h
              exact ⟨[], a, arguments, rfl, List.forall_mem_nil _, hread⟩
          | rejected r =>
              obtain ⟨front, b, after, rfl, hfront, hb⟩ := ih h
              exact ⟨a :: front, b, after, rfl, List.forall_mem_cons.mpr ⟨⟨r, hread⟩, hfront⟩, hb⟩

/-- What keeps a group from reading a text keeps one of its members from reading a text. -/
theorem exists_of_group_unusable {label : Label} {combinator : Combinator}
    {members : List Argument} {cs : List Char}
    (h : (Argument.group label combinator members).validate cs = .error (.unusable obstacle)) :
    ∃ a ∈ members, ∃ cs', a.validate cs' = .error (.unusable obstacle) := by
  by_cases hne : members = []
  · subst hne
    rw [validate_group_nil] at h
    cases h
  cases combinator with
  | and =>
      rw [validate_and hne] at h
      cases hread : validateAll members cs [] with
      | ok read =>
          rw [hread] at h
          cases h
      | error e =>
          rw [hread] at h
          cases h
          obtain ⟨front, a, after, _, left, rfl, -, ha⟩ := exists_of_validateAll hread
          exact ⟨a, by simp, left, ha⟩
  | or =>
      rw [validate_or hne] at h
      cases hread : validateAny members cs with
      | ok found =>
          rw [hread] at h
          cases found <;> cases h
      | error e =>
          rw [hread] at h
          cases h
          obtain ⟨front, a, after, rfl, -, ha⟩ := exists_of_validateAny hread
          exact ⟨a, by simp, cs, ha⟩

/-- **A concrete argument accepts or rejects every text**, and does nothing else. -/
theorem Concrete.usable {a : Argument} (h : a.Concrete) (cs : List Char) (obstacle : Obstacle) :
    a.validate cs ≠ .error (.unusable obstacle) := by
  induction h generalizing cs with
  | string label h => simp [string_unusable, h]
  | number label rule => exact number_usable
  | client label => exact client_usable
  | rest label h => simp [rest_unusable, h]
  | group label combinator _ ih =>
      intro hunusable
      obtain ⟨a, ha, cs', hmember⟩ := exists_of_group_unusable hunusable
      exact ih a ha cs' hmember

end Argument

/-! ### Rulings -/

/-- Arguments read a text one after the other, and none of them stands in the way: an argument that
accepts leaves the trimmed rest, and one that rejects may be left out and leaves the text as it is.
The rejections are kept in order. -/
inductive Reads : List Argument → List Char → List (Argument × Rejection) → List Char → Prop where
  | nil (text : List Char) : Reads [] text [] text
  | accepted {a : Argument} {arguments : List Argument} {text rest left : List Char} {value : Value}
      {soft : List (Argument × Rejection)} (h : a.validate text = .ok (value, rest))
      (more : Reads arguments (Text.trim rest) soft left) : Reads (a :: arguments) text soft left
  | leftOut {a : Argument} {arguments : List Argument} {text left : List Char} {r : Rejection}
      {soft : List (Argument × Rejection)} (h : a.validate text = .error (.rejected r))
      (ho : a.isOptional = true) (more : Reads arguments text soft left) :
      Reads (a :: arguments) text ((a, r) :: soft) left

/-- What a grammar rules about a text. -/
inductive Ruling (grammar : List Argument) (tolerant : Bool) (text : List Char) :
    Verdict → Prop where
  /-- The arguments before a required one read, and it rejects what they leave.  What comes after it
  does not count. -/
  | required {before after : List Argument} {a : Argument} {soft : List (Argument × Rejection)}
      {left : List Char} {r : Rejection} (hgrammar : grammar = before ++ a :: after)
      (hbefore : Reads before text soft left) (h : a.validate left = .error (.rejected r))
      (hr : a.isOptional = false) : Ruling grammar tolerant text (.required a r)
  /-- Text is left over, and this argument is the first of those that were left out. -/
  | optional {a : Argument} {r : Rejection} {soft : List (Argument × Rejection)} {left : List Char}
      (h : Reads grammar text ((a, r) :: soft) left) (hleft : left ≠ []) :
      Ruling grammar tolerant text (.optional a r)
  /-- Text is left over, though nothing was left out. -/
  | surplus {left : List Char} (h : Reads grammar text [] left) (hleft : left ≠ [])
      (ht : tolerant = false) : Ruling grammar tolerant text .surplus
  /-- No text is left over, or it is tolerated and nothing was left out. -/
  | ready {soft : List (Argument × Rejection)} {left : List Char}
      (h : Reads grammar text soft left) (hleft : left = [] ∨ soft = [] ∧ tolerant = true) :
      Ruling grammar tolerant text .ready

/-! ### The walk keeps to the ruling -/

namespace Walk

theorem steps_append (w : Walk) (arguments more : List Argument) :
    w.steps (arguments ++ more) =
      match w.steps arguments with
      | .error e => .error e
      | .ok w => w.steps more := by
  induction arguments generalizing w with
  | nil => rfl
  | cons a arguments ih =>
      rw [List.cons_append, steps, steps]
      cases w.step a with
      | error e => rfl
      | ok w => exact ih w

/-- A walk that has ended goes no further. -/
theorem steps_of_hard {w : Walk} (h : w.hard.isSome = true) (arguments : List Argument) :
    w.steps arguments = .ok w := by
  induction arguments with
  | nil => rfl
  | cons a arguments ih => simp only [steps, step, h, if_true, ih]

section

variable {w : Walk} {a : Argument} (hw : w.hard = none)

include hw

/-- An argument that accepts puts its value into the record and leaves the trimmed rest. -/
theorem step_of_accepts {value : Value} {rest : List Char}
    (h : a.validate w.left = .ok (value, rest)) :
    w.step a = .ok { w with record := w.record.put a.name value, left := Text.trim rest } := by
  rw [step, hw, h]
  rfl

/-- An argument that rejects and may be left out is kept in mind, and its fallback is put into the
record. -/
theorem step_of_leftOut {r : Rejection} (h : a.validate w.left = .error (.rejected r))
    (ho : a.isOptional = true) :
    w.step a = .ok { w with
      record := w.record.put a.name a.absent, soft := w.soft ++ [(a, r)] } := by
  rw [step, hw, h]
  simp [ho]

/-- A required argument that rejects ends the walk. -/
theorem step_of_rejects {r : Rejection} (h : a.validate w.left = .error (.rejected r))
    (hr : a.isOptional = false) : w.step a = .ok { w with hard := some (a, r) } := by
  rw [step, hw, h]
  simp [hr]

end

/-- A walk goes through arguments none of which stands in the way, and on from there. -/
theorem steps_append_of_reads {arguments : List Argument} {w : Walk} {text left : List Char}
    {soft : List (Argument × Rejection)} (hread : Reads arguments text soft left)
    (hleft : w.left = text) (hw : w.hard = none) (after : List Argument) :
    ∃ record, w.steps (arguments ++ after) =
      Walk.steps { record, soft := w.soft ++ soft, left, hard := none } after := by
  induction hread generalizing w with
  | nil text =>
      refine ⟨w.record, ?_⟩
      rw [List.nil_append, List.append_nil, ← hleft, ← hw]
  | @accepted a arguments text rest left value soft h more ih =>
      subst hleft
      obtain ⟨record, hsteps⟩ := ih (w := { w with
        record := w.record.put a.name value, left := Text.trim rest }) rfl hw
      refine ⟨record, ?_⟩
      rw [List.cons_append, steps, step_of_accepts hw h]
      exact hsteps
  | @leftOut a arguments text left r soft h ho more ih =>
      subst hleft
      obtain ⟨record, hsteps⟩ := ih (w := { w with
        record := w.record.put a.name a.absent, soft := w.soft ++ [(a, r)] }) rfl hw
      refine ⟨record, ?_⟩
      rw [List.cons_append, steps, step_of_leftOut hw h ho]
      simpa using hsteps

/-- The walk over arguments none of which stands in the way. -/
theorem along_of_reads {grammar : List Argument} {text left : List Char}
    {soft : List (Argument × Rejection)} (h : Reads grammar text soft left) :
    ∃ record, along grammar text = .ok { record, soft, left, hard := none } := by
  obtain ⟨record, hsteps⟩ := steps_append_of_reads (w := { left := text }) h rfl rfl []
  rw [List.append_nil] at hsteps
  exact ⟨record, hsteps⟩

/-- The walk over arguments of which a required one rejects what those before it leave. -/
theorem along_of_rejects {before after : List Argument} {a : Argument} {text left : List Char}
    {soft : List (Argument × Rejection)} {r : Rejection} (hbefore : Reads before text soft left)
    (h : a.validate left = .error (.rejected r)) (hr : a.isOptional = false) :
    ∃ record, along (before ++ a :: after) text =
      .ok { record, soft, left, hard := some (a, r) } := by
  obtain ⟨record, hsteps⟩ := steps_append_of_reads (w := { left := text }) hbefore rfl rfl
    (a :: after)
  refine ⟨record, hsteps.trans ?_⟩
  rw [steps, step_of_rejects rfl h hr]
  exact steps_of_hard rfl after

end Walk

section

variable {grammar : List Argument} {tolerant : Bool} {text : List Char} {verdict : Verdict}

/-- **A ruling is the verdict on the walk.** -/
theorem Ruling.along (h : Ruling grammar tolerant text verdict) :
    ∃ w, Walk.along grammar text = .ok w ∧ w.verdict tolerant = verdict := by
  cases h with
  | required hgrammar hbefore h hr =>
      subst hgrammar
      obtain ⟨record, hwalk⟩ := Walk.along_of_rejects hbefore h hr
      exact ⟨_, hwalk, rfl⟩
  | optional h hleft =>
      obtain ⟨record, hwalk⟩ := Walk.along_of_reads h
      exact ⟨_, hwalk, by simp [Walk.verdict, hleft]⟩
  | surplus h hleft ht =>
      obtain ⟨record, hwalk⟩ := Walk.along_of_reads h
      exact ⟨_, hwalk, by simp [Walk.verdict, hleft, ht]⟩
  | ready h hleft =>
      obtain ⟨record, hwalk⟩ := Walk.along_of_reads h
      refine ⟨_, hwalk, ?_⟩
      rcases hleft with rfl | ⟨rfl, ht⟩
      · simp [Walk.verdict]
      · simp [Walk.verdict, ht]

/-- There is one ruling about a text at most. -/
theorem Ruling.unique {verdict' : Verdict} (h : Ruling grammar tolerant text verdict)
    (h' : Ruling grammar tolerant text verdict') : verdict = verdict' := by
  obtain ⟨w, hwalk, rfl⟩ := h.along
  obtain ⟨w', hwalk', rfl⟩ := h'.along
  cases hwalk.symm.trans hwalk'
  rfl

/-- Concrete arguments read a text, or a required one of them stands in the way. -/
theorem reads_or_rejects (hgrammar : ∀ a ∈ grammar, a.Concrete) (text : List Char) :
    (∃ soft left, Reads grammar text soft left) ∨
      ∃ before after a soft left r, grammar = before ++ a :: after ∧ Reads before text soft left ∧
        a.validate left = .error (.rejected r) ∧ a.isOptional = false := by
  induction grammar generalizing text with
  | nil => exact .inl ⟨[], text, .nil text⟩
  | cons a arguments ih =>
      have hmore : ∀ b ∈ arguments, b.Concrete := fun b hb => hgrammar b (.tail _ hb)
      have husable := (hgrammar a (.head _)).usable text
      cases hread : a.validate text with
      | ok read =>
          obtain ⟨value, rest⟩ := read
          rcases ih hmore (Text.trim rest) with
            ⟨soft, left, h⟩ | ⟨before, after, b, soft, left, r, rfl, h, hb, hr⟩
          · exact .inl ⟨soft, left, .accepted hread h⟩
          · exact .inr ⟨a :: before, after, b, soft, left, r, rfl, .accepted hread h, hb, hr⟩
      | error e =>
          cases e with
          | unusable obstacle => exact absurd hread (husable obstacle)
          | rejected r =>
              cases ho : a.isOptional with
              | false => exact .inr ⟨[], arguments, a, [], text, r, rfl, .nil text, hread, ho⟩
              | true =>
                  rcases ih hmore text with
                    ⟨soft, left, h⟩ | ⟨before, after, b, soft, left, r', rfl, h, hb, hr⟩
                  · exact .inl ⟨_, left, .leftOut hread ho h⟩
                  · exact .inr
                      ⟨a :: before, after, b, _, left, r', rfl, .leftOut hread ho h, hb, hr⟩

/-- **Concrete arguments rule about every text.** -/
theorem exists_ruling (hgrammar : ∀ a ∈ grammar, a.Concrete) (tolerant : Bool)
    (text : List Char) : ∃ verdict, Ruling grammar tolerant text verdict := by
  rcases reads_or_rejects hgrammar text with
    ⟨soft, left, h⟩ | ⟨before, after, a, soft, left, r, hsplit, h, ha, hr⟩
  · by_cases hleft : left = []
    · exact ⟨_, .ready h (.inl hleft)⟩
    · cases soft with
      | cons first soft => exact ⟨_, .optional h hleft⟩
      | nil =>
          cases tolerant with
          | true => exact ⟨_, .ready h (.inr ⟨rfl, rfl⟩)⟩
          | false => exact ⟨_, .surplus h hleft rfl⟩
  · exact ⟨_, .required hsplit h ha hr⟩

end

/-! ### From the ruling to the fault -/

namespace Setup

variable {σ : Type}

/-- The formatter never raises. -/
def Fluent (s : Setup σ) : Prop := ∀ text, (s.bold text).Returns

/-- The fault that tells a verdict to a caller, if there is any to tell: its kind, the argument that
it names, and how it names it. -/
inductive Tells (s : Setup σ) (id : CommandId) : Verdict → Option Fault → Prop where
  | ready : Tells s id .ready none
  | required {a : Argument} {r : Rejection} {f : Fault} {manual reason : String} {u v : World σ}
      (hkind : f.kind = .requiredArgument) (hcommand : f.options.command = some id)
      (hargument : f.options.argument = some a) (hmanual : (s.bold a.manual).result u = .ok manual)
      (hreason : (s.bold r.message).result v = .ok reason)
      (hmessage : f.message = "Argument parsed with an error " ++ manual ++ ": " ++ reason) :
      Tells s id (.required a r) (some f)
  | optional {a : Argument} {r : Rejection} {f : Fault} {reason : String} {v : World σ}
      (hkind : f.kind = .optionalArgument) (hcommand : f.options.command = some id)
      (hargument : f.options.argument = some a)
      (hreason : (s.bold r.message).result v = .ok reason)
      (hmessage : f.message =
        "Possible Error during parsing Argument " ++ a.manual ++ ": " ++ reason) :
      Tells s id (.optional a r) (some f)
  | surplus {f : Fault} (hkind : f.kind = .tooManyArguments)
      (hcommand : f.options.command = some id) (hargument : f.options.argument = none)
      (hmessage : f.message = "Too many Arguments passed!") : Tells s id .surplus (some f)

variable {s : Setup σ}

/-- Nothing is told exactly if nothing stands in the way. -/
theorem Tells.eq_none_iff {id : CommandId} {verdict : Verdict} {fault : Option Fault}
    (h : s.Tells id verdict fault) : fault = none ↔ verdict = .ready := by
  cases h <;> simp

/-- What is told is that there is too much text exactly if that is all that stands in the way. -/
theorem Tells.surplus_iff {id : CommandId} {verdict : Verdict} {fault : Option Fault}
    (h : s.Tells id verdict fault) :
    (∃ f, fault = some f ∧ f.kind = .tooManyArguments) ↔ verdict = .surplus := by
  cases h with
  | ready => simp
  | required hkind => simp [hkind]
  | optional hkind => simp [hkind]
  | surplus hkind => simp [hkind]

/-- **The fault of a verdict tells it.** -/
theorem tells_of_verdictFault {id : CommandId} {c : Command} {w : Walk} {u : World σ}
    {fault : Option Fault} (h : (s.verdictFault id c w).result u = .ok fault) :
    s.Tells id (w.verdict c.tolerant) fault := by
  unfold verdictFault at h
  cases hv : w.verdict c.tolerant with
  | ready =>
      rw [hv] at h
      cases h
      exact .ready
  | required a r =>
      rw [hv] at h
      obtain ⟨f, hf, h⟩ := Run.result_bind_eq_ok.mp h
      obtain ⟨manual, hmanual, hf⟩ := Run.result_bind_eq_ok.mp hf
      obtain ⟨reason, hreason, hf⟩ := Run.result_bind_eq_ok.mp hf
      obtain ⟨hint, -, hf⟩ := Run.result_bind_eq_ok.mp hf
      cases h
      cases hf
      exact .required rfl rfl rfl hmanual hreason rfl
  | optional a r =>
      rw [hv] at h
      obtain ⟨_, -, h⟩ := Run.result_bind_eq_ok.mp h
      obtain ⟨f, hf, h⟩ := Run.result_bind_eq_ok.mp h
      obtain ⟨reason, hreason, hf⟩ := Run.result_bind_eq_ok.mp hf
      cases h
      cases hf
      exact .optional rfl rfl rfl hreason rfl
  | surplus =>
      rw [hv] at h
      obtain ⟨_, -, h⟩ := Run.result_bind_eq_ok.mp h
      obtain ⟨f, hf, h⟩ := Run.result_bind_eq_ok.mp h
      obtain ⟨usage, -, hf⟩ := Run.result_bind_eq_ok.mp hf
      cases h
      cases hf
      exact .surplus rfl rfl rfl rfl

theorem Fluent.manualHint (h : s.Fluent) (c : Command) : (s.manualHint c).Returns :=
  .bind (.lift _) fun _ => .bind (h _) fun _ => .pure _

/-- A formatter that never raises leaves every verdict told. -/
theorem Fluent.verdictFault (h : s.Fluent) (id : CommandId) (c : Command) (w : Walk) :
    (s.verdictFault id c w).Returns := by
  unfold Setup.verdictFault
  split
  · exact .pure _
  · refine .bind ?_ fun _ => .pure _
    exact .bind (h _) fun _ => .bind (h _) fun _ => .bind (h.manualHint c) fun _ => .pure _
  · exact .bind (.lift _) fun _ => .bind (.bind (h _) fun _ => .pure _) fun _ => .pure _
  · exact .bind (.lift _) fun _ => .bind (.bind (.lift _) fun _ => .pure _) fun _ => .pure _

/-- A walk of a known command that comes to an end is evaluated: the record is the walk's, and the
fault tells the verdict. -/
theorem evaluate_of_along (h : s.Fluent) {id : CommandId} {c : Command} {u : World σ}
    (hc : u.registry.command? id = some c) {text : List Char} {w : Walk}
    (hwalk : Walk.along (u.registry.grammar c) text = .ok w) :
    ∃ o, (s.evaluate id text).result u = .ok o ∧ o.command = some id ∧ o.record = w.record ∧
      s.Tells id (w.verdict c.tolerant) o.fault := by
  obtain ⟨fault, hfault⟩ := h.verdictFault id c w u
  refine ⟨{ command := some id, record := w.record, fault }, ?_, rfl, rfl,
    tells_of_verdictFault hfault⟩
  rw [s.evaluate_of_walk hc hwalk]
  exact Run.result_bind_eq_ok.mpr ⟨fault, hfault, rfl⟩

/-- A ruling about a text is told by the evaluation of the text. -/
theorem evaluate_of_ruling (h : s.Fluent) {id : CommandId} {c : Command} {u : World σ}
    (hc : u.registry.command? id = some c) {text : List Char} {verdict : Verdict}
    (hruling : Ruling (u.registry.grammar c) c.tolerant text verdict) :
    ∃ o, (s.evaluate id text).result u = .ok o ∧ o.command = some id ∧
      s.Tells id verdict o.fault := by
  obtain ⟨w, hwalk, rfl⟩ := hruling.along
  obtain ⟨o, ho, hcommand, -, htells⟩ := evaluate_of_along h hc hwalk
  exact ⟨o, ho, hcommand, htells⟩

/-- **An evaluation tells the ruling of the grammar.**  If the arguments of a command are concrete
and the formatter never raises, the evaluation of any text gives an outcome; there is one ruling of
the grammar about the text, and the fault of the outcome, or that it has none, tells it. -/
theorem evaluate_ruling (s : Setup σ) (h : s.Fluent) {id : CommandId} {c : Command} {u : World σ}
    (hc : u.registry.command? id = some c)
    (hgrammar : ∀ a ∈ u.registry.grammar c, a.Concrete) (text : List Char) :
    (∃! verdict, Ruling (u.registry.grammar c) c.tolerant text verdict) ∧
      ∃ o, (s.evaluate id text).result u = .ok o ∧ o.command = some id ∧
        ∀ verdict, Ruling (u.registry.grammar c) c.tolerant text verdict →
          s.Tells id verdict o.fault := by
  obtain ⟨verdict, hruling⟩ := exists_ruling hgrammar c.tolerant text
  obtain ⟨o, ho, hcommand, htells⟩ := evaluate_of_ruling h hc hruling
  refine ⟨⟨verdict, hruling, fun _ h' => h'.unique hruling⟩, o, ho, hcommand, fun _ hverdict => ?_⟩
  rw [hverdict.unique hruling]
  exact htells

/-- A number that may be left out, and a word of five letters that may not: for a word of three, the
number is left out, text is left over, and the fault names the word. -/
theorem evaluate_ruling_rehearsed :
    let s : Setup Rehearsal.Cast := { host := Rehearsal.host fun _ => "" }
    let count : Argument := .number { name := "count", need := .optional none } {}
    let word : Argument := .string { name := "word" } { minimum := some 5 }
    let u : World Rehearsal.Cast := {
      registry := {
        commands := [{ name := "ale", grammar := [0, 1], standing := .listed }]
        arguments := [count, word] }
      memory := {} }
    s.Fluent ∧ (∀ a ∈ [count, word], a.Concrete) ∧
      ∃ o f, (s.evaluate 0 ['b', 'o', 'b']).result u = .ok o ∧ o.fault = some f ∧
        f.kind = .requiredArgument ∧ f.options.argument = some word := by
  intro s count word u
  have hfluent : s.Fluent := fun _ => .pure _
  have hconcrete : ∀ a ∈ [count, word], a.Concrete := by
    intro a ha
    rcases List.mem_cons.mp ha with rfl | ha
    · exact .number _ _
    · rw [List.mem_singleton.mp ha]
      exact .string _ rfl
  have hread : Reads [count] ['b', 'o', 'b'] [(count, ⟨count, .notNumber "bob"⟩)]
      ['b', 'o', 'b'] :=
    .leftOut rfl rfl (.nil _)
  have hruling : Ruling [count, word] false ['b', 'o', 'b']
      (.required word ⟨word, .tooShort 5 3⟩) :=
    .required rfl hread rfl rfl
  have hknown : u.registry.command? 0 =
      some { name := "ale", grammar := [0, 1], standing := .listed } := rfl
  obtain ⟨-, o, ho, -, htells⟩ := evaluate_ruling s hfluent hknown hconcrete ['b', 'o', 'b']
  refine ⟨hfluent, hconcrete, o, ?_⟩
  have htold := htells _ hruling
  cases hfault : o.fault with
  | none =>
      rw [hfault] at htold
      cases htold
  | some f =>
      rw [hfault] at htold
      cases htold with
      | required hkind _ hargument => exact ⟨f, ho, rfl, hkind, hargument⟩

end Setup

end Switchboard
