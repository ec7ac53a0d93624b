import Switchboard.Proofs.Turn

/-!
# Proofs — Agreement

Two worlds that agree about one command: they know it as the same, they hold the same arguments for
it, and what the command can see of the memories of the host is the same.  They may differ in every
other command, in the rest of the memory and in everything that happened before.  What is done about
the command cannot tell them apart, if its predicate and its handler keep to what it can see and ask
for nothing that has to do with the registry.

* `Regards`, `Act.Alike`: questions whose answers can be told from what is seen of a memory, and
  acts that do the same as far as can be seen.
* `Step.Echoes R`: two steps give the same, add the same deeds, and lead from worlds that `R`
  relates to worlds that `R` relates.
* `Setup.Voices`: the faults of a command are put into the same words.
* `Setup.Attuned R`, `Setup.Serves R`: what it takes for a setup, and for the turns of a command, to
  do the same from worlds that `R` relates.
* `evaluate_akin`, `evaluate_congr`: an evaluation depends on the record and the verdict of the walk
  alone, whatever was logged, sent or called before.
* `Agree`: two worlds agree about a command, as seen in a view.
* `Minded.admits_echoes`, `Even.attend_echoes`: the poll of a command and its turn are the same in
  all worlds that agree about it.
-/

namespace Switchboard

variable {σ α β : Type}

/-! ### What can be seen of the memory -/

/-- A question whose answer, and what is seen of the memory afterwards, can be told from what is
seen of the memory. -/
def Regards (view : Setoid σ) (question : σ → Except Failure α × σ) : Prop :=
  ∀ m m', view.r m m' →
    (question m).1 = (question m').1 ∧ view.r (question m).2 (question m').2

/-- A question that leaves what is seen of the memory as it is. -/
def Spares (view : Setoid σ) (question : σ → Except Failure α × σ) : Prop :=
  ∀ m, view.r m (question m).2

/-- What a request asks for has nothing to do with the registry or with the memory of the host. -/
def Request.Plain : Request σ → Prop
  | .reply _ | .embolden _ | .marker | .record | .put .. => True
  | .available _ | .registry | .operate _ | .memory | .remember _ | .dispatch _ => False

/-- Two acts do the same, as far as can be seen.  Neither of them asks for anything that has to do
with the registry. -/
inductive Act.Alike (view : Setoid σ) : Act σ α → Act σ α → Prop where
  | done (result : α) : Alike view (.done result) (.done result)
  | fail (failure : Failure) : Alike view (.fail failure) (.fail failure)
  | ask {request : Request σ} {next next' : Except Failure request.Answer → Act σ α}
      (h : request.Plain) (more : ∀ answer, Alike view (next answer) (next' answer)) :
      Alike view (.ask request next) (.ask request next')
  | memory {next next' : Except Failure σ → Act σ α}
      (more : ∀ m m', view.r m m' → Alike view (next (.ok m)) (next' (.ok m'))) :
      Alike view (.ask .memory next) (.ask .memory next')
  | remember {m m' : σ} {next next' : Except Failure Unit → Act σ α} (h : view.r m m')
      (more : ∀ answer, Alike view (next answer) (next' answer)) :
      Alike view (.ask (.remember m) next) (.ask (.remember m') next')

/-! ### Steps that echo each other -/

/-- From worlds that `R` relates, two steps give the same, add the same deeds, and lead to worlds
that `R` relates. -/
def Step.Echoes (R : World σ → World σ → Prop) (x y : Step σ α) : Prop :=
  ∀ u v, R u v → x.result u = y.result v ∧
    (∃ added, (x.after u).deeds = u.deeds ++ added ∧ (y.after v).deeds = v.deeds ++ added) ∧
    R (x.after u) (y.after v)

/-- From worlds that `R` relates, two runs give the same or fail with the same, add the same deeds,
and lead to worlds that `R` relates. -/
def Run.Echoes (R : World σ → World σ → Prop) (x y : Run σ α) : Prop :=
  Step.Echoes R (ExceptT.run x) (ExceptT.run y)

section Echoes

variable {R : World σ → World σ → Prop}

theorem Step.Echoes.pure (a : α) : Step.Echoes R (Pure.pure a) (Pure.pure a) :=
  fun _ _ h => ⟨rfl, ⟨[], (List.append_nil _).symm, (List.append_nil _).symm⟩, h⟩

theorem Run.Echoes.pure (a : α) : Run.Echoes R (Pure.pure a) (Pure.pure a) :=
  Step.Echoes.pure (Except.ok a)

theorem Run.Echoes.throw (e : Failure) :
    Run.Echoes R (MonadExcept.throw e : Run σ α) (MonadExcept.throw e) :=
  Step.Echoes.pure (Except.error e)

theorem Step.Echoes.bind {x y : Step σ α} {f g : α → Step σ β} (hx : x.Echoes R y)
    (hf : ∀ a, (f a).Echoes R (g a)) : (x >>= f).Echoes R (y >>= g) := by
  intro u v huv
  obtain ⟨hresult, ⟨first, hu, hv⟩, hafter⟩ := hx u v huv
  obtain ⟨hresult', ⟨more, hu', hv'⟩, hafter'⟩ := hf (x.result u) _ _ hafter
  rw [hresult] at hresult' hu' hafter'
  simp only [Step.result_bind, Step.after_bind, hresult]
  refine ⟨hresult', ⟨first ++ more, ?_, ?_⟩, hafter'⟩
  · rw [← List.append_assoc, ← hu, hu']
  · rw [← List.append_assoc, ← hv, ← hv', hresult]

theorem Step.Echoes.lift {x y : Step σ α} (h : x.Echoes R y) :
    Run.Echoes R (liftM x) (liftM y) := by
  intro u v huv
  obtain ⟨hresult, hdeeds, hafter⟩ := h u v huv
  exact ⟨congrArg Except.ok hresult, hdeeds, hafter⟩

theorem Run.Echoes.run {x y : Run σ α} (h : x.Echoes R y) :
    Step.Echoes R (ExceptT.run x) (ExceptT.run y) := h

theorem Run.Echoes.bind {x y : Run σ α} {f g : α → Run σ β} (hx : x.Echoes R y)
    (hf : ∀ a, (f a).Echoes R (g a)) : (x >>= f).Echoes R (y >>= g) := by
  -- A run after a run is a step after a step, which looks at what the first one gave.
  show Step.Echoes R (x.run >>= ExceptT.bindCont f) (y.run >>= ExceptT.bindCont g)
  refine .bind hx.run fun answer => ?_
  cases answer with
  | ok a => exact (hf a).run
  | error e => exact .pure _

/-- Steps that go on with the world that they look at. -/
theorem Step.Echoes.get_bind {f g : World σ → Step σ α}
    (h : ∀ u v, R u v → (f u).Echoes R (g v)) : (get >>= f).Echoes R (get >>= g) :=
  fun u v huv => h u v huv u v huv

theorem Run.Echoes.get_bind {f g : World σ → Run σ α}
    (h : ∀ u v, R u v → (f u).Echoes R (g v)) : (get >>= f).Echoes R (get >>= g) :=
  fun u v huv => h u v huv u v huv

/-- What is logged does not matter to a relation that does not look at traces. -/
theorem Step.log_echoes_of
    (hR : ∀ u v t t', R u v → R { u with trace := t } { v with trace := t' })
    (event event' : LogEvent) (failure failure' : Option Failure) :
    Step.Echoes R (Step.log event failure) (Step.log event' failure') := by
  intro u v h
  refine ⟨rfl, ⟨[], ?_, ?_⟩, hR _ _ _ _ h⟩
  · rw [List.append_nil]
    exact (Step.log_calm event failure u).2
  · rw [List.append_nil]
    exact (Step.log_calm event' failure' v).2

namespace Setup

variable (s : Setup σ)

theorem permits_echoes {c : Command} {client : Client}
    (hasked : ∀ k, c.permission = some (.host k) →
      Run.Echoes R (Run.ask (s.host.permits k client)) (Run.ask (s.host.permits k client))) :
    Run.Echoes R (s.permits c client) (s.permits c client) := by
  unfold permits
  split
  · exact .pure _
  · exact .pure _
  · rename_i k hk
    exact .bind (hasked k hk) fun _ => .pure _

/-- **A poll depends on its command alone**, if its predicate does. -/
theorem poll_echoes {id : CommandId} {c : Command} {client : Client}
    (hlog : ∀ (event event' : LogEvent) (failure failure' : Option Failure),
      Step.Echoes R (Step.log event failure) (Step.log event' failure'))
    (hknown : ∀ u v, R u v → u.registry.command? id = some c ∧ v.registry.command? id = some c)
    (hc : Run.Echoes R (s.permits c client) (s.permits c client)) :
    Step.Echoes R (s.admits client id) (s.admits client id) := by
  refine .get_bind fun u v huv => ?_
  simp only [hknown u v huv]
  refine .bind hc.run fun answer => ?_
  cases answer with
  | ok allowed => exact .pure _
  | error e => exact .bind (hlog _ _ _ _) fun _ => .pure _

end Setup

end Echoes

/-! ### Putting faults into words -/

/-- From worlds that `R` relates, a setup puts the faults of a command into the same words.  What it
logs on the way may differ. -/
structure Setup.Voices (s : Setup σ) (R : World σ → World σ → Prop) (c : Command) : Prop where
  log : ∀ (event event' : LogEvent) (failure failure' : Option Failure),
    Step.Echoes R (Step.log event failure) (Step.log event' failure')
  marker : s.marker.Echoes R s.marker
  bold : ∀ text, (s.bold text).Echoes R (s.bold text)
  grammar : ∀ u v, R u v → u.registry.grammar c = v.registry.grammar c

namespace Setup.Voices

variable {s : Setup σ} {R : World σ → World σ → Prop} {c : Command} (h : s.Voices R c)

include h

theorem usage : (s.usage c).Echoes R (s.usage c) := by
  have shown : ∀ marker : String, Step.Echoes R
      (do return (← get).registry.usage marker c) (do return (← get).registry.usage marker c) := by
    intro marker
    refine .get_bind fun u v huv => ?_
    rw [Registry.usage, Registry.manuals, h.grammar u v huv]
    exact .pure _
  unfold Setup.usage
  split
  · exact .bind h.marker shown
  · exact .bind (.pure _) shown

theorem manualHint : (s.manualHint c).Echoes R (s.manualHint c) :=
  .bind h.marker.lift fun _ => .bind (h.bold _) fun _ => .pure _

/-- Walks of the same verdict have the same fault, whether or not the verdict is that of a command
which tolerates text beyond its arguments. -/
theorem verdictFault_tolerating (id : CommandId) {tolerant : Bool} {w w' : Walk}
    (hverdict : w.verdict c.tolerant = w'.verdict tolerant) :
    (s.verdictFault id c w).Echoes R (s.verdictFault id { c with tolerant } w') := by
  have leftover : Step.Echoes R (logLeftover c w) (logLeftover { c with tolerant } w') :=
    .bind (h.log _ _ _ _) fun _ => .bind (h.log _ _ _ _) fun _ =>
      .bind (h.log _ _ _ _) fun _ => h.log _ _ _ _
  unfold Setup.verdictFault
  rw [← hverdict]
  split
  · exact .pure _
  · refine .bind ?_ fun _ => .pure _
    exact .bind (h.bold _) fun _ => .bind (h.bold _) fun _ => .bind h.manualHint fun _ => .pure _
  · refine .bind leftover.lift fun _ => .bind ?_ fun _ => .pure _
    exact .bind (h.bold _) fun _ => .pure _
  · refine .bind leftover.lift fun _ => .bind ?_ fun _ => .pure _
    exact .bind h.usage.lift fun _ => .pure _

/-- Walks of the same verdict have the same fault. -/
theorem verdictFault (id : CommandId) {w w' : Walk}
    (hverdict : w.verdict c.tolerant = w'.verdict c.tolerant) :
    (s.verdictFault id c w).Echoes R (s.verdictFault id c w') :=
  h.verdictFault_tolerating id hverdict

theorem usageFault (id : CommandId) : (s.usageFault id c).Echoes R (s.usageFault id c) :=
  .bind h.manualHint fun _ => .pure _

end Setup.Voices

/-! ### Setups in worlds that are related -/

/-- From worlds that `R` relates, what all commands share does the same: logging, noting a deed,
reading the marker, formatting and sending. -/
structure Setup.Attuned (s : Setup σ) (R : World σ → World σ → Prop) : Prop where
  log : ∀ (event event' : LogEvent) (failure failure' : Option Failure),
    Step.Echoes R (Step.log event failure) (Step.log event' failure')
  note : ∀ {entry : Entry}, entry.isDeed = true →
    Step.Echoes R (Step.note entry) (Step.note entry)
  marker : s.marker.Echoes R s.marker
  bold : ∀ text, (s.bold text).Echoes R (s.bold text)
  deliver : ∀ sink text,
    Run.Echoes R (Run.ask (s.host.deliver sink text)) (Run.ask (s.host.deliver sink text))

namespace Setup.Attuned

variable {s : Setup σ} {R : World σ → World σ → Prop} (h : s.Attuned R)

include h

theorem voices {c : Command}
    (hgrammar : ∀ u v, R u v → u.registry.grammar c = v.registry.grammar c) : s.Voices R c :=
  ⟨h.log, h.marker, h.bold, hgrammar⟩

theorem send (depth : Nat) (origin : Origin) (sink : Sink) (text : String) :
    Run.Echoes R (s.send depth origin sink text) (s.send depth origin sink text) :=
  Step.Echoes.bind (h.deliver sink text).run fun _ => .bind (h.note rfl) fun _ => .pure _

theorem reply (depth : Nat) (event : Event) (target : Target) (text : String) :
    Run.Echoes R (s.reply depth event target text) (s.reply depth event target text) := by
  rw [Setup.reply.eq_def]
  split
  · exact h.send _ _ _ _
  · exact (h.log _ _ _ _).lift

/-- What has nothing to do with the registry or the memory is answered the same. -/
theorem answer (scene : Scene σ) (record : Record) {request : Request σ} (hplain : request.Plain) :
    Run.Echoes R (s.answer scene record request) (s.answer scene record request) := by
  cases request with
  | reply text => exact h.reply _ _ _ _
  | embolden text => exact h.bold text
  | marker => exact h.marker.lift
  | record | put => exact .pure _
  | available | registry | operate | memory | remember | dispatch => exact hplain.elim

theorem notify (depth : Nat) (client : Client) (fault : Fault) :
    Step.Echoes R (s.notify depth client fault) (s.notify depth client fault) := by
  refine .bind (h.log _ _ _ _) fun _ => .bind (h.send _ _ _ _).run fun taken => ?_
  cases taken with
  | ok _ => exact .pure _
  | error e => exact .bind (h.log _ _ _ _) fun _ => .pure _

theorem report (depth : Nat) (event : Event) (outcome : Outcome) (fault : Fault) :
    Step.Echoes R (s.report depth event outcome fault) (s.report depth event outcome fault) :=
  .bind (h.notify _ _ _) fun _ => .pure _

theorem failed (depth : Nat) (event : Event) (id : CommandId) (c : Command) (record : Record)
    (e : Failure) :
    Step.Echoes R (s.failed depth event id c record e) (s.failed depth event id c record e) :=
  .bind (h.log _ _ _ _) fun _ => .bind (h.log _ _ _ _) fun _ => .bind (h.notify _ _ _) fun _ =>
    .pure _

/-- A turn does the same, whatever comes of it, if it settles its command the same. -/
theorem attend {depth : Nat} {dispatch : Event → Run σ (List Outcome)} {event : Event}
    {text : List Char} {id : CommandId} (hname : Step.Echoes R (nameOf id) (nameOf id))
    (hsettle : Run.Echoes R (s.settle depth dispatch event text id)
      (s.settle depth dispatch event text id)) :
    Step.Echoes R (s.attend depth dispatch event text id)
      (s.attend depth dispatch event text id) := by
  refine .bind hsettle.run fun answer => ?_
  cases answer with
  | ok o => exact .pure _
  | error e => exact .bind hname fun _ => .bind (h.log _ _ _ _) fun _ => .pure _

end Setup.Attuned

/-- From worlds that `R` relates, a setup serves a command the same: both worlds know it as the
same, and hold the same arguments for it. -/
structure Setup.Serves (s : Setup σ) (R : World σ → World σ → Prop) (id : CommandId) (c : Command) :
    Prop extends s.Attuned R where
  known : ∀ u v, R u v → u.registry.command? id = some c ∧ v.registry.command? id = some c
  grammar : ∀ u v, R u v → u.registry.grammar c = v.registry.grammar c

namespace Setup.Serves

variable {s : Setup σ} {R : World σ → World σ → Prop} {id : CommandId} {c : Command}
  (h : s.Serves R id c)

include h

/-- **An evaluation depends on its command and on the text alone.** -/
theorem evaluate (text : List Char) :
    Run.Echoes R (s.evaluate id text) (s.evaluate id text) := by
  refine .get_bind fun u v huv => ?_
  simp only [h.known u v huv, h.grammar u v huv]
  cases Walk.along (v.registry.grammar c) text with
  | error e => exact .throw _
  | ok w => exact .bind ((h.voices h.grammar).verdictFault id rfl) fun _ => .pure _

section

variable {depth : Nat} {dispatch : Event → Run σ (List Outcome)}
  (hcall : ∀ event target record,
    Step.Echoes R (s.call { event, target, depth, dispatch } id c record)
      (s.call { event, target, depth, dispatch } id c record))

include hcall

theorem invoke (event : Event) (record : Record) :
    Step.Echoes R (s.invoke depth dispatch event id c record)
      (s.invoke depth dispatch event id c record) := by
  unfold Setup.invoke
  split
  · exact h.failed _ _ _ _ _ _
  · refine .bind (hcall _ _ record) fun (result, record) => ?_
    cases result with
    | error e => exact h.failed _ _ _ _ _ _
    | ok v => exact .bind (h.log _ _ _ _) fun _ => .pure _

theorem settle (event : Event) (text : List Char) :
    Run.Echoes R (s.settle depth dispatch event text id)
      (s.settle depth dispatch event text id) := by
  refine .bind (h.evaluate text) fun o => ?_
  cases o.fault with
  | some f => exact (h.report _ _ _ _).lift
  | none =>
      refine .get_bind fun u v huv => ?_
      simp only [h.known u v huv]
      split
      · exact .bind ((h.voices h.grammar).usageFault id) fun _ => (h.report _ _ _ _).lift
      · exact (h.invoke hcall _ _).lift

/-- **A turn depends on its command and on the line alone**, if the calls of its handler do. -/
theorem attend (event : Event) (text : List Char) :
    Step.Echoes R (s.attend depth dispatch event text id)
      (s.attend depth dispatch event text id) := by
  have named : Step.Echoes R (nameOf id) (nameOf id) := by
    refine .get_bind fun u v huv => ?_
    rw [(h.known u v huv).1, (h.known u v huv).2]
    exact .pure _
  exact h.toAttuned.attend named (h.settle hcall _ _)

end

end Setup.Serves

/-! ### Worlds that differ in their traces and their commands -/

/-- Two worlds are akin if they hold the same arguments and the memories of their hosts are the
same. -/
def Akin (u v : World σ) : Prop :=
  u.registry.arguments = v.registry.arguments ∧ u.memory = v.memory

theorem Run.ask_akin (question : σ → Except Failure α × σ) :
    Run.Echoes Akin (Run.ask question) (Run.ask question) := by
  rintro u v ⟨harguments, hmemory⟩
  refine ⟨?_, ⟨[], (List.append_nil _).symm, (List.append_nil _).symm⟩, harguments, ?_⟩
  · exact congrArg (fun m => (question m).1) hmemory
  · exact congrArg (fun m => (question m).2) hmemory

theorem Step.log_akin (event event' : LogEvent) (failure failure' : Option Failure) :
    Step.Echoes Akin (Step.log event failure : Step σ Unit) (Step.log event' failure') :=
  Step.log_echoes_of (fun _ _ _ _ h => h) _ _ _ _

/-- **What was logged, sent or called before does not change the wording of a fault.** -/
theorem Setup.voices_akin (s : Setup σ) (c : Command) : s.Voices Akin c where
  log := Step.log_akin
  marker := by
    unfold Setup.marker
    split
    · exact .pure _
    · exact .pure _
    · exact .pure _
    · refine .bind (Run.ask_akin _).run fun answer => ?_
      cases answer with
      | ok v => exact .pure _
      | error e => exact .bind (Step.log_akin _ _ _ _) fun _ => .pure _
  bold text := by
    refine .bind ?_ fun _ => .pure _
    unfold Setup.embolden
    split
    · exact .pure _
    · exact .pure _
    · exact Run.ask_akin _
  grammar u v h := by
    unfold Registry.grammar Registry.argument?
    rw [h.1]

/-- **An evaluation depends on the record and the verdict of the walk alone**, and on what the
formatter and the marker are asked from: not on other commands, nor on what was logged, sent or
called before, nor on whether a verdict is reached by a command that tolerates more. -/
theorem Setup.evaluate_akin (s : Setup σ) {id : CommandId} {c : Command} {tolerant : Bool}
    {u v : World σ} (huv : Akin u v) (hc : u.registry.command? id = some c)
    (hc' : v.registry.command? id = some { c with tolerant }) {text text' : List Char}
    {w w' : Walk} (hw : Walk.along (u.registry.grammar c) text = .ok w)
    (hw' : Walk.along (v.registry.grammar c) text' = .ok w') (hrecord : w.record = w'.record)
    (hverdict : w.verdict c.tolerant = w'.verdict tolerant) :
    (s.evaluate id text).result u = (s.evaluate id text').result v := by
  have hfault := ((s.voices_akin c).verdictFault_tolerating id hverdict u v huv).1
  simp only [Run.step_result_run] at hfault
  rw [s.evaluate_of_walk hc hw, s.evaluate_of_walk hc' hw', Run.result_bind, Run.result_bind,
    hfault, hrecord]
  rfl

/-- Texts of which the walks come to the same record and the same verdict are evaluated to the same
outcome. -/
theorem Setup.evaluate_congr (s : Setup σ) {id : CommandId} {c : Command} {u : World σ}
    (hc : u.registry.command? id = some c) {text text' : List Char} {w w' : Walk}
    (hw : Walk.along (u.registry.grammar c) text = .ok w)
    (hw' : Walk.along (u.registry.grammar c) text' = .ok w') (hrecord : w.record = w'.record)
    (hverdict : w.verdict c.tolerant = w'.verdict c.tolerant) :
    (s.evaluate id text).result u = (s.evaluate id text').result u :=
  s.evaluate_akin ⟨rfl, rfl⟩ hc hc hw hw' hrecord hverdict

/-! ### Worlds that agree about a command -/

/-- Two worlds agree about a command, as seen in a view. -/
structure Agree (view : Setoid σ) (id : CommandId) (c : Command) (u v : World σ) : Prop where
  here : u.registry.command? id = some c
  there : v.registry.command? id = some c
  grammar : u.registry.grammar c = v.registry.grammar c
  memory : view.r u.memory v.memory

section Agreement

variable {view : Setoid σ} {id : CommandId} {c : Command}

theorem Step.log_echoes (event event' : LogEvent) (failure failure' : Option Failure) :
    Step.Echoes (Agree view id c) (Step.log event failure) (Step.log event' failure') :=
  Step.log_echoes_of (fun _ _ _ _ h => ⟨h.here, h.there, h.grammar, h.memory⟩) _ _ _ _

theorem Step.note_echoes {entry : Entry} (hdeed : entry.isDeed = true) :
    Step.Echoes (Agree view id c) (Step.note entry) (Step.note entry) :=
  fun u v h => ⟨rfl, ⟨[entry], u.deeds_append_deed hdeed, v.deeds_append_deed hdeed⟩,
    ⟨h.here, h.there, h.grammar, h.memory⟩⟩

theorem Run.ask_echoes {question : σ → Except Failure α × σ} (hq : Regards view question) :
    Run.Echoes (Agree view id c) (Run.ask question) (Run.ask question) := by
  intro u v h
  obtain ⟨hanswer, hmemory⟩ := hq u.memory v.memory h.memory
  exact ⟨hanswer, ⟨[], (List.append_nil _).symm, (List.append_nil _).symm⟩,
    ⟨h.here, h.there, h.grammar, hmemory⟩⟩

namespace Setup

variable {s : Setup σ}

/-- What all commands share carries nothing from one to another: the marker is fixed, and the
formatter and the chats answer by what is seen of the memory and leave it as it is seen. -/
structure Even (s : Setup σ) (view : Setoid σ) : Prop where
  marker : ∀ k, s.config.marker ≠ .asked (.host k)
  formatter : ∀ k, s.config.bold = some (.host k) →
    ∀ text, Regards view (s.host.embolden k text) ∧ Spares view (s.host.embolden k text)
  sinks : ∀ sink text,
    Regards view (s.host.deliver sink text) ∧ Spares view (s.host.deliver sink text)

/-- A command keeps to what it can see: its predicate and its handler do. -/
structure Minded (s : Setup σ) (view : Setoid σ) (c : Command) : Prop where
  predicate : ∀ k, c.permission = some (.host k) →
    ∀ client, Regards view (s.host.permits k client)
  handler : ∀ call, Act.Alike view (s.act c.handler call) (s.act c.handler call)

namespace Even

variable (h : s.Even view)

include h

/-- Reading a fixed marker does nothing else. -/
theorem marker_eq : ∃ marker, s.marker = pure marker := by
  unfold Setup.marker
  split
  · exact ⟨_, rfl⟩
  · exact ⟨_, rfl⟩
  · exact ⟨_, rfl⟩
  · rename_i k hk
    exact absurd hk (h.marker k)

/-- What all commands share does the same from worlds that `R` relates, if questions do that regard
the view and leave it as it is. -/
theorem attuned {R : World σ → World σ → Prop}
    (hlog : ∀ (event event' : LogEvent) (failure failure' : Option Failure),
      Step.Echoes R (Step.log event failure) (Step.log event' failure'))
    (hnote : ∀ {entry : Entry}, entry.isDeed = true →
      Step.Echoes R (Step.note entry) (Step.note entry))
    (hask : ∀ {α : Type} {question : σ → Except Failure α × σ}, Regards view question →
      Spares view question → Run.Echoes R (Run.ask question) (Run.ask question)) :
    s.Attuned R where
  log := hlog
  note := hnote
  marker := by
    obtain ⟨marker, hmarker⟩ := h.marker_eq
    rw [hmarker]
    exact .pure _
  bold text := by
    refine .bind ?_ fun _ => .pure _
    unfold embolden
    split
    · exact .pure _
    · exact .pure _
    · rename_i k hk
      exact hask (h.formatter k hk text).1 (h.formatter k hk text).2
  deliver sink text := hask (h.sinks sink text).1 (h.sinks sink text).2

/-- Worlds that agree about a command are served the same. -/
theorem serves : s.Serves (Agree view id c) id c where
  toAttuned := h.attuned Step.log_echoes Step.note_echoes fun hregards _ => Run.ask_echoes hregards
  known _ _ huv := ⟨huv.here, huv.there⟩
  grammar _ _ huv := huv.grammar

/-! ### Handlers -/

/-- **Acts that do the same, as far as can be seen, are performed the same.** -/
theorem perform_echoes (scene : Scene σ) {act act' : Act σ α} (hact : Act.Alike view act act')
    (record : Record) : Step.Echoes (Agree view id c) (s.perform scene act record)
      (s.perform scene act' record) := by
  induction hact generalizing record with
  | done a => exact .pure _
  | fail e => exact .pure _
  | ask hplain _ ih =>
      exact .bind (h.serves.answer scene record hplain).run fun answer => ih answer _
  | @memory next next' _ ih =>
      -- The two memories differ, so the acts go on with different answers.
      exact fun u v huv => ih u.memory v.memory huv.memory record u v huv
  | @remember m m' next next' hm _ ih =>
      exact fun u v huv => ih (.ok ()) record { u with memory := m } { v with memory := m' }
        ⟨huv.here, huv.there, huv.grammar, hm⟩

variable (hc : s.Minded view c)

include hc

theorem call_echoes (scene : Scene σ) (record : Record) :
    Step.Echoes (Agree view id c) (s.call scene id c record) (s.call scene id c record) :=
  .bind (Step.note_echoes rfl) fun _ => h.perform_echoes scene (hc.handler _) record

/-- **A turn depends on its command and on the line alone**: it gives the same outcome and adds the
same deeds in all worlds that agree about the command. -/
theorem attend_echoes (depth : Nat) (dispatch : Event → Run σ (List Outcome)) (event : Event)
    (text : List Char) :
    Step.Echoes (Agree view id c) (s.attend depth dispatch event text id)
      (s.attend depth dispatch event text id) :=
  h.serves.attend (fun _ _ => h.call_echoes hc _) event text

end Even

/-- **A poll depends on its command alone.** -/
theorem Minded.admits_echoes (hc : s.Minded view c) (client : Client) :
    Step.Echoes (Agree view id c) (s.admits client id) (s.admits client id) :=
  s.poll_echoes Step.log_echoes (fun _ _ huv => ⟨huv.here, huv.there⟩) <|
    s.permits_echoes fun k hk => Run.ask_echoes (hc.predicate k hk client)

end Setup

end Agreement

end Switchboard
