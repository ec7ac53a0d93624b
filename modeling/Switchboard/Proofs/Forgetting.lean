import Mathlib.Data.Setoid.Basic
import Switchboard.Proofs.Independence
import Switchboard.Proofs.Session

/-!
# Proofs — Forgetting

Dispatching has no memory.  A handler can change the registry only by an operation, so where no
handler asks for one, no errand of asking leaves anything behind in it: neither the walk over a
line, nor the values of a record, nor a notice is stored in a command or an argument.  What is left
is the memory of the host.  If nothing that is asked of the host shows more of it than stays as it
is, then an event comes to the same whenever it is dispatched.

* `Act.Asks P`: an act asks only for what satisfies `P`, whatever it is answered.
* `HandsOff`, `errands_keep`: where no handler operates, the registry stays as it is.
* `Act.Oblivious`, `Oblivious`: acts that ask for the same, and a setup that does the same, from all
  memories in which the same is seen.
* `Twins`: two worlds of the same registry, in both of which the same is seen.
* `Oblivious.dispatchWithin_echoes`: a pass does the same in twins, and leaves twins.
* `dispatch_forgets`: what was asked for before does not change what comes of an event.
-/

namespace Switchboard

variable {σ α β : Type}

/-! ### What acts ask for -/

/-- What is asked for is not an operation on the registry. -/
def Request.HandsOff : Request σ → Prop
  | .operate _ => False
  | _ => True

/-- What is asked for has to do neither with a change of the registry nor with the memory. -/
def Request.Idle : Request σ → Prop
  | .operate _ | .memory | .remember _ => False
  | _ => True

theorem Request.Idle.handsOff {request : Request σ} (h : request.Idle) : request.HandsOff := by
  cases request with
  | operate => exact h.elim
  | _ => trivial

/-- An act asks only for what satisfies `P`, whatever it is answered. -/
inductive Act.Asks (P : Request σ → Prop) : Act σ α → Prop where
  | done (result : α) : Asks P (.done result)
  | fail (failure : Failure) : Asks P (.fail failure)
  | ask {request : Request σ} {next : Except Failure request.Answer → Act σ α} (h : P request)
      (more : ∀ answer, Asks P (next answer)) : Asks P (.ask request next)

namespace Act.Asks

variable {P Q : Request σ → Prop}

theorem mono (hPQ : ∀ request, P request → Q request) {act : Act σ α} (h : act.Asks P) :
    act.Asks Q := by
  induction h with
  | done a => exact .done a
  | fail e => exact .fail e
  | ask h _ ih => exact .ask (hPQ _ h) ih

theorem bind {act : Act σ α} {next : α → Act σ β} (h : act.Asks P) (hnext : ∀ a, (next a).Asks P) :
    (act >>= next).Asks P := by
  induction h with
  | done a => exact hnext a
  | fail e => exact .fail e
  | ask h _ ih => exact .ask h ih

theorem request {request : Request σ} (h : P request) : (Act.request request).Asks P := by
  refine .ask h fun answer => ?_
  cases answer with
  | ok a => exact .done a
  | error e => exact .fail e

end Act.Asks

namespace Handbook

/-! ### The handbook -/

theorem available_asks (name : Value) : (available name : Act σ _).Asks Request.Idle :=
  .bind (.request trivial) fun _ => .bind (.request trivial) fun _ => .done _

theorem filtered_asks (filter : Option Value) (commands : List Command) :
    (filtered filter commands : Act σ _).Asks Request.Idle := by
  unfold filtered
  split
  · exact .done _
  · split
    · exact .done _
    · split
      · split
        · exact .done _
        · exact .fail _
      · exact .fail _

theorem listing_asks (commands : List Command) :
    (listing commands : Act σ _).Asks Request.Idle := by
  induction commands with
  | nil => exact .done _
  | cons c commands ih =>
      exact .bind (.request trivial) fun _ => .bind (.request trivial) fun _ =>
        .bind (.request trivial) fun _ => ih

theorem help_asks : (help : Act σ _).Asks Request.Idle :=
  .bind (available_asks _) fun _ => .bind (.request trivial) fun _ =>
    .bind (filtered_asks _ _) fun _ => .bind (.request trivial) fun _ =>
      .bind (.request trivial) fun _ => .bind (listing_asks _) fun _ => .done _

theorem manuals_asks (commands : List Command) :
    (manuals commands : Act σ _).Asks Request.Idle := by
  induction commands with
  | nil => exact .done _
  | cons c commands ih =>
      have told (text : Registry → String) : Act.Asks Request.Idle (do
          let registry ← Act.registry
          Act.reply (text registry)
          manuals commands : Act σ Unit) :=
        .bind (.request trivial) fun _ => .bind (.request trivial) fun _ => ih
      refine .bind (.request trivial) fun _ => .bind (.request trivial) fun _ => ?_
      split
      · exact .bind (.request trivial) fun _ => told _
      · exact .bind (.done _) fun _ => told _

theorem man_asks : (man : Act σ _).Asks Request.Idle := by
  refine .bind (.request trivial) fun record => ?_
  split
  · exact .fail _
  · refine .bind (available_asks _) fun commands => ?_
    split
    · exact .bind (.request trivial) fun _ => .done _
    · exact .bind (manuals_asks _) fun _ => .done _

end Handbook

namespace Setup

variable {s : Setup σ} {r : Registry}

/-- What a handler does that is none of the host asks neither for a change nor for the memory. -/
theorem act_asks (s : Setup σ) (handler : Handler) (call : Call) :
    (∃ k, handler = .callback (.host k)) ∨ (s.act handler call).Asks Request.Idle := by
  cases handler with
  | idle => exact .inr (.done _)
  | help => exact .inr Handbook.help_asks
  | man => exact .inr Handbook.man_asks
  | callback callback =>
      cases callback with
      | constant v => exact .inr (.done _)
      | host k => exact .inl ⟨k, rfl⟩

/-! ### Where no handler operates -/

/-- The handlers of a registry keep their hands off it: whatever they are answered, they ask for no
operation. -/
def HandsOff (s : Setup σ) (r : Registry) : Prop :=
  ∀ id c k, r.command? id = some c → c.handler = .callback (.host k) →
    ∀ call, (s.host.handle k call).Asks Request.HandsOff

theorem HandsOff.act (h : s.HandsOff r) {id : CommandId} {c : Command}
    (hc : r.command? id = some c) (call : Call) :
    (s.act c.handler call).Asks Request.HandsOff := by
  rcases s.act_asks c.handler call with ⟨k, hk⟩ | hidle
  · rw [hk]
    exact h id c k hc hk call
  · exact hidle.mono fun _ => Request.Idle.handsOff

theorem heeds_keeps : Heeds (Keeps (σ := σ) r ⊤) :=
  ⟨Step.log_keeps, fun _ => Run.ask_keeps fun _ => trivial⟩

theorem send_keeps_registry (depth : Nat) (origin : Origin) (sink : Sink) (text : String) :
    (s.send depth origin sink text).Within (Keeps r ⊤) :=
  Step.Within.bind (heeds_keeps.ask _).run fun _ => .bind (Step.note_keeps _) fun _ => .pure _

theorem perform_keeps_registry {scene : Scene σ}
    (hd : ∀ event, (scene.dispatch event).Within (Keeps r ⊤)) {act : Act σ α}
    (hact : act.Asks Request.HandsOff) (record : Record) :
    (s.perform scene act record).Within (Keeps r ⊤) := by
  induction hact generalizing record with
  | done a => exact .pure _
  | fail e => exact .pure _
  | @ask request next h _ ih =>
      refine .bind (heeds_keeps.answer s record (fun _ _ => ?_) (fun operation ho => ?_) hd).run
        fun answer => ih answer _
      · exact s.reply_within (heeds_keeps.minds s) send_keeps_registry _ _ _ _
      · subst ho
        exact h.elim

/-- Where no handler operates, passes leave the registry as it is. -/
theorem HandsOff.abides (h : s.HandsOff r) : s.Abides (Keeps r ⊤) where
  minds := heeds_keeps.minds s
  send := send_keeps_registry
  admits := heeds_keeps.admits s
  call hd w id c hc _ event target depth record := by
    intro hw
    have hact := h.act (hw ▸ hc)
    exact Step.Within.bind (Step.note_keeps _)
      (fun _ => perform_keeps_registry hd (hact _) record) w hw

/-- **Where no handler operates, asking leaves the registry as it is**, however long it goes on. -/
theorem HandsOff.errands_keep (h : s.HandsOff r) {es : List (Errand σ)} (hes : ∀ e ∈ es, e.Asks) :
    (s.errands es).Within (Keeps r ⊤) :=
  s.errands_within fun e he => h.abides.errand (heeds_keeps.available s) (hes e he)

end Setup

/-! ### Worlds in which the same is seen -/

/-- Two acts ask for the same and come to the same, whatever memories they look at in which the same
is seen as in `m`, and remember no others. -/
inductive Act.Oblivious (view : Setoid σ) (m : σ) : Act σ α → Act σ α → Prop where
  | done (result : α) : Oblivious view m (.done result) (.done result)
  | fail (failure : Failure) : Oblivious view m (.fail failure) (.fail failure)
  | ask {request : Request σ} {next next' : Except Failure request.Answer → Act σ α}
      (h : request.Idle) (more : ∀ answer, Oblivious view m (next answer) (next' answer)) :
      Oblivious view m (.ask request next) (.ask request next')
  | memory {next next' : Except Failure σ → Act σ α}
      (more : ∀ u v, view.r m u → view.r m v →
        Oblivious view m (next (.ok u)) (next' (.ok v))) :
      Oblivious view m (.ask .memory next) (.ask .memory next')
  | remember {u v : σ} {next next' : Except Failure Unit → Act σ α} (hu : view.r m u)
      (hv : view.r m v) (more : ∀ answer, Oblivious view m (next answer) (next' answer)) :
      Oblivious view m (.ask (.remember u) next) (.ask (.remember v) next')

theorem Act.Asks.oblivious {act : Act σ α} (h : act.Asks Request.Idle) (view : Setoid σ) (m : σ) :
    Act.Oblivious view m act act := by
  induction h with
  | done a => exact .done a
  | fail e => exact .fail e
  | ask h _ ih => exact .ask h ih

/-- The registry of a world is `r`, and of its memory the same is seen as of `m`. -/
structure Reveals (r : Registry) (view : Setoid σ) (m : σ) (w : World σ) : Prop where
  registry : w.registry = r
  memory : view.r m w.memory

/-- Two worlds of the same registry, in both of which the same is seen.  What else is remembered,
and what was logged, sent and called, may differ. -/
def Twins (r : Registry) (view : Setoid σ) (m : σ) (u v : World σ) : Prop :=
  Reveals r view m u ∧ Reveals r view m v

section Twins

variable {r : Registry} {view : Setoid σ} {m : σ}

theorem Step.log_twins (event event' : LogEvent) (failure failure' : Option Failure) :
    Step.Echoes (Twins r view m) (Step.log event failure) (Step.log event' failure') :=
  Step.log_echoes_of (fun _ _ _ _ h => ⟨⟨h.1.1, h.1.2⟩, ⟨h.2.1, h.2.2⟩⟩) _ _ _ _

theorem Step.note_twins {entry : Entry} (hdeed : entry.isDeed = true) :
    Step.Echoes (Twins r view m) (Step.note entry) (Step.note entry) :=
  fun u v h => ⟨rfl, ⟨[entry], u.deeds_append_deed hdeed, v.deeds_append_deed hdeed⟩,
    ⟨h.1.1, h.1.2⟩, ⟨h.2.1, h.2.2⟩⟩

theorem Run.ask_twins {question : σ → Except Failure α × σ} (hregards : Regards view question)
    (hspares : Spares view question) :
    Run.Echoes (Twins r view m) (Run.ask question) (Run.ask question) := by
  rintro u v ⟨hu, hv⟩
  have hsame : view.r u.memory v.memory := view.trans (view.symm hu.memory) hv.memory
  refine ⟨(hregards _ _ hsame).1, ⟨[], (List.append_nil _).symm, (List.append_nil _).symm⟩, ?_, ?_⟩
  · exact ⟨hu.registry, view.trans hu.memory (hspares u.memory)⟩
  · exact ⟨hv.registry, view.trans hv.memory (hspares v.memory)⟩

/-- A run that goes on with the registry alone. -/
theorem Run.registry_bind_twins {f : World σ → Run σ α}
    (h : ∀ u v, u.registry = r → v.registry = r → Run.Echoes (Twins r view m) (f u) (f v)) :
    Run.Echoes (Twins r view m) (get >>= f) (get >>= f) :=
  .get_bind fun u v huv => h u v huv.1.registry huv.2.registry

namespace Setup

variable {s : Setup σ}

/-- Nothing that is asked of the host shows more of its memory than is seen in a view, and nothing
changes that: neither the formatter and the chats, nor the predicates and the handlers of a
registry. -/
structure Oblivious (s : Setup σ) (view : Setoid σ) (r : Registry) (m : σ) : Prop where
  even : s.Even view
  predicate : ∀ id c k, r.command? id = some c → c.permission = some (.host k) →
    ∀ client, Regards view (s.host.permits k client) ∧ Spares view (s.host.permits k client)
  handler : ∀ id c k, r.command? id = some c → c.handler = .callback (.host k) →
    ∀ call, Act.Oblivious view m (s.host.handle k call) (s.host.handle k call)

namespace Oblivious

variable (h : s.Oblivious view r m)

include h

theorem attuned : s.Attuned (Twins r view m) :=
  h.even.attuned Step.log_twins Step.note_twins Run.ask_twins

theorem serves {id : CommandId} {c : Command} (hc : r.command? id = some c) :
    s.Serves (Twins r view m) id c where
  toAttuned := h.attuned
  known u v huv := by
    rw [huv.1.registry, huv.2.registry]
    exact ⟨hc, hc⟩
  grammar u v huv := by rw [huv.1.registry, huv.2.registry]

theorem permits_echoes {id : CommandId} {c : Command} (hc : r.command? id = some c)
    (client : Client) :
    Run.Echoes (Twins r view m) (s.permits c client) (s.permits c client) :=
  s.permits_echoes fun k hk =>
    Run.ask_twins (h.predicate id c k hc hk client).1 (h.predicate id c k hc hk client).2

/-! ### What is asked -/

theorem available_echoes (client : Client) (name : Value) :
    Run.Echoes (Twins r view m) (s.available client name) (s.available client name) := by
  have permitted (ids : List CommandId) :
      Run.Echoes (Twins r view m) (s.permitted client ids) (s.permitted client ids) := by
    induction ids with
    | nil => exact .pure _
    | cons id ids ih =>
        refine Run.registry_bind_twins fun u v hu hv => ?_
        simp only [hu, hv]
        cases hc : r.command? id with
        | none => exact ih
        | some c => exact .bind (h.permits_echoes hc client) fun _ => .bind ih fun _ => .pure _
  refine Run.registry_bind_twins fun u v hu hv => ?_
  simp only [hu, hv]
  exact permitted _

theorem admitted_echoes (client : Client) (ids : List CommandId) :
    Step.Echoes (Twins r view m) (s.admitted client ids) (s.admitted client ids) := by
  induction ids with
  | nil => exact .pure _
  | cons id ids ih =>
      refine .bind ?_ fun _ => .bind ih fun _ => .pure _
      cases hc : r.command? id with
      | some c =>
          exact s.poll_echoes h.attuned.log (h.serves hc).known (h.permits_echoes hc client)
      | none =>
          refine .get_bind fun u v huv => ?_
          simp only [huv.1.registry, huv.2.registry, hc]
          exact .pure _

theorem evaluate_echoes (id : CommandId) (text : List Char) :
    Run.Echoes (Twins r view m) (s.evaluate id text) (s.evaluate id text) := by
  cases hc : r.command? id with
  | some c => exact (h.serves hc).evaluate text
  | none =>
      refine Run.registry_bind_twins fun u v hu hv => ?_
      simp only [hu, hv, hc]
      exact .throw _

theorem split?_echoes (text : Value) :
    Step.Echoes (Twins r view m) (s.split? text) (s.split? text) := by
  unfold split?
  split
  · exact .bind h.attuned.marker fun _ => .pure _
  · exact .pure _

/-! ### Handlers -/

section

variable {scene : Scene σ}
  (hd : ∀ event, Run.Echoes (Twins r view m) (scene.dispatch event) (scene.dispatch event))

include hd

/-- What has to do neither with changes nor with the memory is answered the same. -/
theorem answer_echoes (record : Record) {request : Request σ} (hidle : request.Idle) :
    Run.Echoes (Twins r view m) (s.answer scene record request)
      (s.answer scene record request) := by
  cases request with
  | reply | embolden | marker | record | put => exact h.attuned.answer scene record trivial
  | available name => exact h.available_echoes _ name
  | registry =>
      refine Run.registry_bind_twins fun u v hu hv => ?_
      rw [hu, hv]
      exact .pure _
  | dispatch text => exact hd _
  | operate | memory | remember => exact hidle.elim

/-- **Acts that ask for the same are performed the same.** -/
theorem perform_echoes {act act' : Act σ α} (hact : Act.Oblivious view m act act')
    (record : Record) : Step.Echoes (Twins r view m) (s.perform scene act record)
      (s.perform scene act' record) := by
  induction hact generalizing record with
  | done a => exact .pure _
  | fail e => exact .pure _
  | ask hidle _ ih => exact .bind (h.answer_echoes hd record hidle).run fun answer => ih answer _
  | memory _ ih =>
      -- The two memories differ, so the acts go on with different answers.
      exact fun u v huv => ih u.memory v.memory huv.1.memory huv.2.memory record u v huv
  | @remember m₁ m₂ next next' h₁ h₂ _ ih =>
      exact fun u v huv => ih (.ok ()) record { u with memory := m₁ } { v with memory := m₂ }
        ⟨⟨huv.1.registry, h₁⟩, ⟨huv.2.registry, h₂⟩⟩

theorem call_echoes {id : CommandId} {c : Command} (hc : r.command? id = some c)
    (record : Record) :
    Step.Echoes (Twins r view m) (s.call scene id c record) (s.call scene id c record) := by
  refine .bind (Step.note_twins rfl) fun _ => h.perform_echoes hd ?_ record
  rcases s.act_asks c.handler _ with ⟨k, hk⟩ | hidle
  · rw [hk]
    exact h.handler id c k hc hk _
  · exact hidle.oblivious view m

end

/-! ### Turns and passes -/

section

variable {dispatch : Event → Run σ (List Outcome)}
  (hd : ∀ event, Run.Echoes (Twins r view m) (dispatch event) (dispatch event))

include hd

theorem attend_echoes (depth : Nat) (event : Event) (text : List Char) (id : CommandId) :
    Step.Echoes (Twins r view m) (s.attend depth dispatch event text id)
      (s.attend depth dispatch event text id) := by
  cases hc : r.command? id with
  | some c => exact (h.serves hc).attend (fun _ _ record => h.call_echoes hd hc record) event text
  | none =>
      refine h.attuned.attend ?_ ?_
      · refine .get_bind fun u v huv => ?_
        rw [huv.1.registry, huv.2.registry]
        exact .pure _
      · refine .bind (h.evaluate_echoes id text) fun o => ?_
        cases o.fault with
        | some f => exact (h.attuned.report _ _ _ _).lift
        | none =>
            refine Run.registry_bind_twins fun u v hu hv => ?_
            simp only [hu, hv, hc]
            exact .throw _

theorem settleAll_echoes (depth : Nat) (event : Event) (text : List Char) (ids : List CommandId) :
    Step.Echoes (Twins r view m) (s.settleAll depth dispatch event text ids)
      (s.settleAll depth dispatch event text ids) := by
  induction ids with
  | nil => exact .pure _
  | cons id ids ih =>
      exact .bind (h.attend_echoes hd depth event text id) fun _ => .bind ih fun _ => .pure _

theorem route_echoes (depth : Nat) (event : Event) (marker word : String) (text : List Char) :
    Run.Echoes (Twins r view m) (s.route depth dispatch event marker word text)
      (s.route depth dispatch event marker word text) := by
  have hint : Run.Echoes (Twins r view m) (s.helpHint marker) (s.helpHint marker) :=
    .bind (h.attuned.bold _) fun _ => .pure _
  refine Run.registry_bind_twins fun u v hu hv => ?_
  simp only [hu, hv]
  split
  · split
    · exact .bind (.bind (h.attuned.bold _) fun _ => .bind hint fun _ => .pure _) fun _ =>
        .bind (h.attuned.report _ _ _ _).lift fun _ => .pure _
    · exact .bind (h.attuned.log _ _ _ _).lift fun _ => .pure _
  · refine .bind (h.admitted_echoes _ _).lift fun admitted => ?_
    split
    · exact .bind (.bind (h.attuned.bold _) fun _ => .bind hint fun _ => .pure _) fun _ =>
        .bind (h.attuned.report _ _ _ _).lift fun _ => .pure _
    · exact (h.settleAll_echoes hd _ _ _ _).lift

theorem pass_echoes (depth : Nat) (event : Event) :
    Run.Echoes (Twins r view m) (s.pass depth dispatch event) (s.pass depth dispatch event) := by
  unfold pass
  split
  · exact .pure _
  · refine .bind (h.split?_echoes _).lift fun line => ?_
    split
    · exact .pure _
    · exact .bind h.attuned.marker.lift fun _ => h.route_echoes hd _ _ _ _ _

end

/-- **A pass does the same in twins, and leaves twins.** -/
theorem dispatchWithin_echoes (depth : Nat) (event : Event) :
    Run.Echoes (Twins r view m) (s.dispatchWithin depth event) (s.dispatchWithin depth event) := by
  -- The depth bounds how often lines are dispatched inside of each other.
  induction depth generalizing event with
  | zero => exact h.pass_echoes (fun _ => .throw _) 0 event
  | succ depth ih => exact h.pass_echoes ih (depth + 1) event

/-! ### Errands -/

theorem callDirectly_echoes (id : CommandId) (event : Event) (record : Record) :
    Run.Echoes (Twins r view m) (s.callDirectly id event record)
      (s.callDirectly id event record) := by
  refine Run.registry_bind_twins fun u v hu hv => ?_
  simp only [hu, hv]
  cases hc : r.command? id with
  | none => exact .throw _
  | some c =>
      dsimp only
      split
      · exact .throw _
      · split
        · exact .throw _
        · refine .bind (h.call_echoes (h.dispatchWithin_echoes nestingLimit) hc record).lift
            fun (result, _) => ?_
          cases result with
          | ok v => exact .pure _
          | error e => exact .throw _

theorem errand_echoes {e : Errand σ} (he : e.Asks) :
    Step.Echoes (Twins r view m) (s.errand e) (s.errand e) := by
  cases e with
  | dispatch event => exact .bind (h.dispatchWithin_echoes _ event).run fun _ => .pure _
  | split text => exact .bind (h.split?_echoes text) fun _ => .pure _
  | evaluate id text => exact .bind (h.evaluate_echoes id text).run fun _ => .pure _
  | available client name => exact .bind (h.available_echoes client name).run fun _ => .pure _
  | call id event record => exact .bind (h.callDirectly_echoes id event record).run fun _ => .pure _
  | operate | install | remember => exact he.elim

theorem errands_echoes {es : List (Errand σ)} (hes : ∀ e ∈ es, e.Asks) :
    Step.Echoes (Twins r view m) (s.errands es) (s.errands es) := by
  induction es with
  | nil => exact .pure _
  | cons e es ih =>
      exact .bind (h.errand_echoes (hes e (.head _))) fun _ =>
        ih fun later hlater => hes later (.tail _ hlater)

end Oblivious

/-- **Dispatching has no memory.**  Where no handler operates, any number of lines that are taken
apart, evaluated and dispatched leave the registry as it was, with all commands and arguments.  And
if what is asked of the host does not depend on what was asked before, then an event that is
dispatched after all these has the same outcomes, sends the same texts and calls the same handlers
as if it had been dispatched first. -/
theorem dispatch_forgets (s : Setup σ) {es : List (Errand σ)} (hes : ∀ e ∈ es, e.Asks) (w : World σ)
    (hhands : s.HandsOff w.registry) :
    ((s.errands es).after w).registry = w.registry ∧
      ∀ view, s.Oblivious view w.registry w.memory → ∀ depth event,
        (s.dispatchWithin depth event).result ((s.errands es).after w) =
            (s.dispatchWithin depth event).result w ∧
          (s.dispatchWithin depth event).deeds ((s.errands es).after w) =
            (s.dispatchWithin depth event).deeds w := by
  refine ⟨(hhands.errands_keep hes w rfl).1, fun view h depth event => ?_⟩
  have hw : Reveals w.registry view w.memory w := ⟨rfl, view.refl w.memory⟩
  obtain ⟨-, -, hafter, -⟩ := h.errands_echoes hes w w ⟨hw, hw⟩
  obtain ⟨hresult, ⟨added, hlater, hfirst⟩, -⟩ :=
    h.dispatchWithin_echoes depth event _ w ⟨hafter, hw⟩
  exact ⟨hresult, by rw [Run.deeds_eq hlater, Run.deeds_eq hfirst]⟩

end Setup

end Twins

/-! ### A host with a journal -/

namespace Journal

/-- A host that writes down what is sent and what is served, and looks nothing up. -/
def host : Host (List String) where
  readMarker _ journal := (.ok .null, journal)
  embolden _ text journal := (.ok (.text text), journal)
  permits _ client journal := (.ok (.bool (client.name != "bob")), journal)
  deliver _ text journal := (.ok (), text :: journal)
  handle _ _ :=
    .ask (.put "rounds" (.int 1)) fun _ => .ask .memory fun
      | .error e => .fail e
      | .ok journal => .ask (.remember ("a round" :: journal)) fun _ =>
          .ask (.dispatch (.text "!help")) fun _ => .ask (.reply "Cheers!") fun _ => .done .null

theorem handsOff (r : Registry) : Setup.HandsOff { host } r := by
  intro id c k _ _ call
  refine .ask trivial fun _ => .ask trivial fun answer => ?_
  cases answer with
  | error e => exact .fail e
  | ok journal =>
      exact .ask trivial fun _ => .ask trivial fun _ => .ask trivial fun _ => .done _

theorem oblivious (r : Registry) (m : List String) : Setup.Oblivious { host } ⊤ r m where
  even := ⟨nofun, nofun, fun _ _ => ⟨fun _ _ _ => ⟨rfl, trivial⟩, fun _ => trivial⟩⟩
  predicate _ _ _ _ _ _ := ⟨fun _ _ _ => ⟨rfl, trivial⟩, fun _ => trivial⟩
  handler _ _ _ _ _ _ :=
    .ask trivial fun _ => .memory fun _ _ _ _ => .remember trivial trivial fun _ =>
      .ask trivial fun _ => .ask trivial fun _ => .done _

/-- A line is dispatched twice and calls the handler both times.  What comes of it is the same,
though the journal has grown meanwhile. -/
theorem dispatch_forgets_twice :
    let s : Setup (List String) := { host }
    let w : World (List String) := {
      registry := (Handbook.install { commands := [{
        name := "ale", standing := .listed, permission := some (.host 0)
        handler := .callback (.host 0) }] }).1
      memory := [] }
    let event : Event := { text := .text "!ale", client := { name := "ann" } }
    let refused : Event := { event with client := { name := "bob" } }
    let es : List (Errand (List String)) :=
      [.split event.text, .evaluate 0 [], .dispatch event, .dispatch refused]
    (∀ e ∈ es, e.Asks) ∧ s.HandsOff w.registry ∧ s.Oblivious ⊤ w.registry w.memory ∧
      ((s.errands es).after w).registry = w.registry ∧
      (s.dispatch event).result ((s.errands es).after w) = (s.dispatch event).result w ∧
      (s.dispatch event).deeds ((s.errands es).after w) = (s.dispatch event).deeds w ∧
      (calls Setup.nestingLimit ((s.dispatch event).deeds w)).map (·.command) = [0] ∧
      ((s.errands es).after w).memory ≠ w.memory := by
  intro s w event refused es
  have hes : ∀ e ∈ es, e.Asks := by simp [es, Errand.Asks]
  have hhands : s.HandsOff w.registry := handsOff _
  have hoblivious : s.Oblivious ⊤ w.registry w.memory := oblivious _ _
  obtain ⟨hregistry, hsame⟩ := Setup.dispatch_forgets s hes w hhands
  obtain ⟨hresult, hdeeds⟩ := hsame ⊤ hoblivious Setup.nestingLimit event
  exact ⟨hes, hhands, hoblivious, hregistry, hresult, hdeeds, by decide +kernel,
    by decide +kernel⟩

end Journal

end Switchboard
