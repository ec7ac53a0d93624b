import Mathlib.Data.List.Forall2
import Switchboard.Proofs.Agreement
import Switchboard.Proofs.Pass

/-!
# Proofs — Independence

The candidates of a pass do not depend on each other.  What a command can see of the memory of the
host is its view.  If the predicates and the handlers keep to the views of their commands and ask
for nothing that has to do with the registry, and what all commands share carries nothing from one
to another, then no command can tell whether the others are there.

* `Keeps`: the registry and what is seen in a view are as they were.
* `Even.attend_keeps`: the turn of another command keeps the view of a command.
* `Separate`: predicates and handlers that keep to the views of their commands.
* `Alone`, `alone_only`: a world that lists one of the commands of another one and no other
  command, and one that does.
* `dispatchWithin_alone`: the outcome of a candidate and the deeds of its turn are those of a pass
  over the same event where the candidate is alone, and a pass is all of these in order.
* `Tally`: handlers that count their calls, each for itself.
-/

namespace Switchboard

variable {σ α : Type}

/-! ### What other commands leave as it is -/

/-- An act that starts where what is seen of the memory is what is seen of `m` leaves that as it is,
and asks for nothing that has to do with the registry. -/
inductive Act.Spares (view : Setoid σ) (m : σ) : Act σ α → Prop where
  | done (result : α) : Spares view m (.done result)
  | fail (failure : Failure) : Spares view m (.fail failure)
  | ask {request : Request σ} {next : Except Failure request.Answer → Act σ α}
      (h : request.Plain) (more : ∀ answer, Spares view m (next answer)) :
      Spares view m (.ask request next)
  | memory {next : Except Failure σ → Act σ α}
      (more : ∀ m', view.r m m' → Spares view m (next (.ok m'))) :
      Spares view m (.ask .memory next)
  | remember {m' : σ} {next : Except Failure Unit → Act σ α} (h : view.r m m')
      (more : ∀ answer, Spares view m (next answer)) :
      Spares view m (.ask (.remember m') next)

/-- Where the registry is `r` it stays so, and what is seen of the memory is as it was. -/
def Keeps (r : Registry) (view : Setoid σ) (u v : World σ) : Prop :=
  u.registry = r → v.registry = r ∧ view.r u.memory v.memory

instance (r : Registry) (view : Setoid σ) : IsPreorder (World σ) (Keeps r view) where
  refl u hu := ⟨hu, view.refl u.memory⟩
  trans u v w huv hvw hu := by
    obtain ⟨hv, hmemory⟩ := huv hu
    obtain ⟨hw, hmemory'⟩ := hvw hv
    exact ⟨hw, view.trans hmemory hmemory'⟩

section Keeps

variable {r : Registry} {view : Setoid σ}

theorem Step.note_keeps (entry : Entry) : (Step.note entry : Step σ Unit).Within (Keeps r view) :=
  fun w hw => ⟨hw, view.refl w.memory⟩

theorem Step.log_keeps (event : LogEvent) (failure : Option Failure) :
    (Step.log event failure : Step σ Unit).Within (Keeps r view) :=
  Step.note_keeps _

theorem Run.ask_keeps {question : σ → Except Failure α × σ} (hq : Spares view question) :
    (Run.ask question).Within (Keeps r view) :=
  fun w hw => ⟨hw, hq w.memory⟩

namespace Setup

variable {s : Setup σ}

/-- A command leaves what another one can see as it is: its predicate and its handler do. -/
structure Discreet (s : Setup σ) (view : Setoid σ) (c : Command) : Prop where
  predicate : ∀ k, c.permission = some (.host k) →
    ∀ client, Spares view (s.host.permits k client)
  handler : ∀ call m, Act.Spares view m (s.act c.handler call)

namespace Even

variable (h : s.Even view)

include h

theorem minds_keeps : s.Minds (Keeps r view) where
  log := Step.log_keeps
  marker := by
    obtain ⟨marker, hmarker⟩ := h.marker_eq
    rw [hmarker]
    exact .pure _
  bold text := by
    refine .bind ?_ fun _ => .pure _
    unfold embolden
    split
    · exact .pure _
    · exact .pure _
    · rename_i k hk
      exact Run.ask_keeps (h.formatter k hk text).2

theorem send_keeps (depth : Nat) (origin : Origin) (sink : Sink) (text : String) :
    (s.send depth origin sink text).Within (Keeps r view) :=
  Step.Within.bind (Run.ask_keeps (h.sinks sink text).2).run fun _ =>
    .bind (Step.note_keeps _) fun _ => .pure _

theorem report_keeps (depth : Nat) (event : Event) (outcome : Outcome) (fault : Fault) :
    (s.report depth event outcome fault).Within (Keeps r view) :=
  h.minds_keeps.report h.send_keeps depth event outcome fault

theorem failed_keeps (depth : Nat) (event : Event) (id : CommandId) (c : Command)
    (record : Record) (e : Failure) :
    (s.failed depth event id c record e).Within (Keeps r view) :=
  h.minds_keeps.failed h.send_keeps depth event id c record e

theorem answer_keeps (scene : Scene σ) (record : Record) {request : Request σ}
    (hplain : request.Plain) : (s.answer scene record request).Within (Keeps r view) := by
  cases request with
  | reply text => exact s.reply_within h.minds_keeps h.send_keeps _ _ _ _
  | embolden text => exact h.minds_keeps.bold text
  | marker => exact h.minds_keeps.marker.lift
  | record | put => exact .pure _
  | available | registry | operate | memory | remember | dispatch => exact hplain.elim

/-- Performing an act leaves what is seen of the memory as the act does. -/
theorem perform_keeps (scene : Scene σ) {m : σ} {act : Act σ α} (hact : act.Spares view m)
    (record : Record) {w : World σ} (hw : w.registry = r) (hm : view.r m w.memory) :
    ((s.perform scene act record).after w).registry = r ∧
      view.r m ((s.perform scene act record).after w).memory := by
  induction hact generalizing record w with
  | done a => exact ⟨hw, hm⟩
  | fail e => exact ⟨hw, hm⟩
  | ask hplain _ ih =>
      obtain ⟨hregistry, hmemory⟩ := h.answer_keeps scene record hplain w hw
      exact ih _ _ hregistry (view.trans hm hmemory)
  | memory _ ih => exact ih w.memory hm record hw hm
  | @remember m' next hm' _ ih => exact ih (.ok ()) record (w := { w with memory := m' }) hw hm'

variable {id : CommandId} {c : Command} (hc : s.Discreet view c)

include hc

theorem call_keeps (scene : Scene σ) (record : Record) :
    (s.call scene id c record).Within (Keeps r view) :=
  .bind (Step.note_keeps _) fun _ w hw =>
    h.perform_keeps scene (hc.handler _ w.memory) record hw (view.refl w.memory)

theorem invoke_keeps (depth : Nat) (dispatch : Event → Run σ (List Outcome)) (event : Event)
    (record : Record) : (s.invoke depth dispatch event id c record).Within (Keeps r view) := by
  unfold invoke
  split
  · exact h.failed_keeps _ _ _ _ _ _
  · refine .bind (h.call_keeps hc _ record) fun (result, record) => ?_
    cases result with
    | error e => exact h.failed_keeps _ _ _ _ _ _
    | ok v => exact .bind (Step.log_keeps _ _) fun _ => .pure _

theorem settle_keeps (hknown : r.command? id = some c) (depth : Nat)
    (dispatch : Event → Run σ (List Outcome)) (event : Event) (text : List Char) :
    (s.settle depth dispatch event text id).Within (Keeps r view) := by
  refine .bind (h.minds_keeps.evaluate id text) fun o => ?_
  cases o.fault with
  | some f => exact (h.report_keeps _ _ _ _).lift
  | none =>
      -- Which command is looked up depends on the registry, which is `r`.
      refine .get_bind fun w hw => ?_
      simp only [hw, hknown]
      split
      · exact Run.Within.bind (h.minds_keeps.usageFault id c)
          (fun f => (h.report_keeps depth event o f).lift) w hw
      · exact h.invoke_keeps hc depth dispatch event o.record w hw

/-- **The turn of another command leaves what a command can see as it is.** -/
theorem attend_keeps (hknown : r.command? id = some c) (depth : Nat)
    (dispatch : Event → Run σ (List Outcome)) (event : Event) (text : List Char) :
    (s.attend depth dispatch event text id).Within (Keeps r view) :=
  h.minds_keeps.attend (h.settle_keeps hc hknown depth dispatch event text)

end Even

/-- **The poll of another command leaves what a command can see as it is.** -/
theorem Discreet.admits_keeps {id : CommandId} {c : Command} (hc : s.Discreet view c)
    (hknown : r.command? id = some c) (client : Client) :
    (s.admits client id).Within (Keeps r view) := by
  have permitted : (s.permits c client).Within (Keeps r view) := by
    unfold permits
    split
    · exact .pure _
    · exact .pure _
    · rename_i k hk
      exact .bind (Run.ask_keeps (hc.predicate k hk client)) fun _ => .pure _
  refine .get_bind fun w hw => ?_
  simp only [hw, hknown]
  refine Step.Within.bind permitted.run (fun answer => ?_) w hw
  cases answer with
  | ok allowed => exact .pure _
  | error e => exact .bind (Step.log_keeps _ _) fun _ => .pure _

end Setup

end Keeps

/-! ### One command among others -/

section OneAmongOthers

variable {r : Registry} {view : Setoid σ} {id : CommandId} {c : Command} {w v : World σ}

/-- Worlds that agree about a command still do when one of them goes on to where the registry and
the view of the command are as they were. -/
theorem Agree.of_keeps (h : Agree view id c w v) {w' : World σ}
    (hk : Keeps w.registry view w w') : Agree view id c w' v := by
  obtain ⟨hregistry, hmemory⟩ := hk rfl
  refine ⟨?_, h.there, ?_, view.trans (view.symm hmemory) h.memory⟩
  · rw [hregistry, h.here]
  · rw [hregistry, h.grammar]

/-- Where the step of a command starts among those of others that leave what it can see as it is,
the world agrees about the command as the first one did. -/
theorem visits_agree {f : CommandId → Step σ α} {ids : List CommandId} (hnodup : ids.Nodup)
    (hothers : ∀ j ∈ ids, j ≠ id → (f j).Within (Keeps r view)) (hw : w.registry = r)
    (h : Agree view id c w v) {u : World σ} (hu : (id, u) ∈ visits f ids w) :
    Agree view id c u v := by
  induction ids generalizing w with
  | nil => cases hu
  | cons j js ih =>
      obtain ⟨hj, hnodup⟩ := List.nodup_cons.mp hnodup
      rcases List.mem_cons.mp hu with hu | hu
      · cases hu
        exact h
      · have hid : id ∈ js := by
          rw [← map_fst_visits f js ((f j).after w)]
          exact List.mem_map_of_mem hu
        have hne : j ≠ id := by
          rintro rfl
          exact hj hid
        have hkept : Keeps r view w ((f j).after w) := hothers j (.head _) hne w
        exact ih hnodup (fun i hi => hothers i (.tail _ hi)) (hkept hw).1
          (h.of_keeps (hw ▸ hkept)) hu

namespace Setup

variable {s : Setup σ}

/-- Once all predicates were asked, the world agrees about a command with one in which only its own
predicate was. -/
theorem admitted_agree {client : Client} {ids : List CommandId} (hnodup : ids.Nodup)
    (hid : id ∈ ids) (hc : s.Minded view c)
    (hothers : ∀ j ∈ ids, j ≠ id → (s.admits client j).Within (Keeps r view))
    (hw : w.registry = r) (h : Agree view id c w v) :
    Agree view id c ((s.admitted client ids).after w) ((s.admits client id).after v) := by
  induction ids generalizing w with
  | nil => cases hid
  | cons j js ih =>
      obtain ⟨hj, hnodup⟩ := List.nodup_cons.mp hnodup
      have hregistry : ((s.admits client j).after w).registry = r :=
        (s.admits_calm client j w).1.trans hw
      show Agree view id c ((s.admitted client js).after ((s.admits client j).after w)) _
      by_cases hne : j = id
      · subst hne
        obtain ⟨-, -, hafter⟩ := hc.admits_echoes client w v h
        -- The predicates asked after it are those of others, since no command is listed twice.
        have hrest : (s.admitted client js).Within (Keeps r view) := by
          refine s.admitted_within fun i hi => hothers i (.tail _ hi) ?_
          rintro rfl
          exact hj hi
        exact hafter.of_keeps (hregistry ▸ hrest _)
      · have hkept : Keeps r view w ((s.admits client j).after w) := hothers j (.head _) hne w
        exact ih hnodup ((List.mem_cons.mp hid).resolve_left (Ne.symm hne))
          (fun i hi => hothers i (.tail _ hi)) hregistry (h.of_keeps (hw ▸ hkept))

/-! ### Where the marker is fixed -/

/-- Under a fixed marker a line is taken apart the same in all worlds, and nothing changes. -/
theorem Even.split?_fixed (h : s.Even view) (text : Value) (w v : World σ) :
    (s.split? text).result w = (s.split? text).result v ∧ (s.split? text).after w = w := by
  obtain ⟨marker, hmarker⟩ := h.marker_eq
  unfold split?
  split
  · rw [hmarker]
    exact ⟨rfl, rfl⟩
  · exact ⟨rfl, rfl⟩

theorem Even.heard_eq (h : s.Even view) (event : Event) (w v : World σ) :
    s.heard event w = s.heard event v := by
  rw [heard, heard, (h.split?_fixed event.text w v).1]

theorem Even.searched_eq (h : s.Even view) (event : Event) (w : World σ) :
    s.searched event w = w := by
  obtain ⟨marker, hmarker⟩ := h.marker_eq
  rw [searched, (h.split?_fixed event.text w w).2, hmarker, Step.after_pure]

end Setup

end OneAmongOthers

/-! ### A command alone -/

/-- The world `v` lists the command of the world `w` and no other one, and the command can see the
same of the memory. -/
structure Alone (view : Setoid σ) (id : CommandId) (w v : World σ) : Prop where
  order : v.registry.order = [id]
  command : v.registry.command? id = w.registry.command? id
  grammar : ∀ c, w.registry.command? id = some c → w.registry.grammar c = v.registry.grammar c
  memory : view.r w.memory v.memory

theorem Alone.agree {view : Setoid σ} {id : CommandId} {w v : World σ} (h : Alone view id w v)
    {c : Command} (hc : w.registry.command? id = some c) : Agree view id c w v :=
  ⟨hc, h.command.trans hc, h.grammar c hc, h.memory⟩

/-- A command that is listed alone is the only one to come up, and does if it did among others. -/
theorem Alone.find {view : Setoid σ} {id : CommandId} {w v : World σ} (h : Alone view id w v)
    {word : String} (hid : id ∈ w.registry.find word) : v.registry.find word = [id] := by
  obtain ⟨c, hc, hlisted, hanswers, henabled⟩ := Registry.mem_find.mp hid
  have hmem : id ∈ v.registry.find word :=
    Registry.mem_find.mpr ⟨c, h.command.trans hc, hlisted, hanswers, henabled⟩
  have hsub : (v.registry.find word).Sublist [id] := h.order ▸ v.registry.find_sublist word
  rcases List.sublist_singleton.mp hsub with hnil | hone
  · rw [hnil] at hmem
    cases hmem
  · exact hone

/-- The registry with every other command taken off the list. -/
def Registry.only (r : Registry) (id : CommandId) : Registry :=
  { r with commands := r.commands.mapIdx fun i c =>
      if i = id then c else { c with standing := .removed } }

theorem Registry.command?_only (r : Registry) (id : CommandId) :
    (r.only id).command? id = r.command? id := by
  simp [only, command?]

theorem Registry.order_only {r : Registry} {id : CommandId} (h : id ∈ r.order) :
    (r.only id).order = [id] := by
  obtain ⟨c, hc, hlisted, -⟩ := mem_listedWhere.mp h
  have hmem : id ∈ (r.only id).order :=
    mem_listedWhere.mpr ⟨c, (r.command?_only id).trans hc, hlisted, rfl⟩
  have hall : ∀ j ∈ (r.only id).order, j = id := by
    intro j hj
    obtain ⟨c', hc', hlisted', -⟩ := mem_listedWhere.mp hj
    by_contra hne
    simp only [only, command?, List.getElem?_mapIdx, Option.map_eq_some_iff, if_neg hne] at hc'
    obtain ⟨c'', -, rfl⟩ := hc'
    cases hlisted'
  have hnodup := (r.only id).order_nodup
  rw [List.eq_replicate_of_mem hall] at hmem hnodup ⊢
  have hle := List.nodup_replicate.mp hnodup
  have hpos : (r.only id).order.length ≠ 0 := (List.mem_replicate.mp hmem).1
  rw [show (r.only id).order.length = 1 by omega]
  rfl

/-- There is a world in which a listed command is alone. -/
theorem alone_only (view : Setoid σ) {id : CommandId} {w : World σ} (h : id ∈ w.registry.order) :
    Alone view id w { w with registry := w.registry.only id } :=
  ⟨Registry.order_only h, w.registry.command?_only id, fun _ _ => rfl, view.refl w.memory⟩

namespace Setup

variable {s : Setup σ}

/-- Some commands of a registry do not touch each other: each of them keeps to its view, and leaves
the views of the others as they are, and so does what they share. -/
structure Separate (s : Setup σ) (view : CommandId → Setoid σ) (r : Registry)
    (ids : List CommandId) : Prop where
  even : ∀ id ∈ ids, s.Even (view id)
  minded : ∀ id ∈ ids, ∀ c, r.command? id = some c → s.Minded (view id) c
  discreet : ∀ id ∈ ids, ∀ c, r.command? id = some c →
    ∀ other ∈ ids, other ≠ id → s.Discreet (view other) c

section Passes

variable {view : CommandId → Setoid σ} {event : Event} {word : String} {text : List Char}
  {id : CommandId} {w v : World σ}

/-- The polls of other commands leave what a command can see as it is. -/
theorem Separate.admits_keeps (h : s.Separate view w.registry (w.registry.find word))
    (hid : id ∈ w.registry.find word) (client : Client) {j : CommandId}
    (hj : j ∈ w.registry.find word) (hne : j ≠ id) :
    (s.admits client j).Within (Keeps w.registry (view id)) := by
  obtain ⟨c, hc, -⟩ := Registry.mem_find.mp hj
  exact (h.discreet j hj c hc id hid hne.symm).admits_keeps hc client

/-- The turns of other commands leave what a command can see as it is. -/
theorem Separate.attend_keeps (h : s.Separate view w.registry (w.registry.find word))
    (hid : id ∈ w.registry.find word) (depth : Nat) (dispatch : Event → Run σ (List Outcome))
    (event : Event) (text : List Char) {j : CommandId} (hj : j ∈ w.registry.find word)
    (hne : j ≠ id) :
    (s.attend depth dispatch event text j).Within (Keeps w.registry (view id)) := by
  obtain ⟨c, hc, -⟩ := Registry.mem_find.mp hj
  exact (h.even id hid).attend_keeps (h.discreet j hj c hc id hid hne.symm) hc depth dispatch event
    text

/-- A candidate among others is the candidate where it is alone. -/
theorem Separate.candidates_alone (h : s.Separate view w.registry (w.registry.find word))
    (halone : Alone (view id) id w v) (hid : id ∈ s.candidates event word w) :
    s.candidates event word v = [id] := by
  have hfind : id ∈ w.registry.find word := (candidates_sublist event word w).subset hid
  have heven := h.even id hfind
  obtain ⟨c, hc, -⟩ := Registry.mem_find.mp hfind
  obtain ⟨⟨i, u⟩, hpoll, hi⟩ := List.mem_map.mp hid
  obtain rfl : i = id := hi
  obtain ⟨hpoll, hgrants⟩ := List.mem_filter.mp hpoll
  rw [polls, heven.searched_eq] at hpoll
  -- The poll is where the world agrees about the command with the one where it is alone.
  have hagree := visits_agree (w.registry.listedWhere_nodup _)
    (fun j hj hne => h.admits_keeps hfind event.client hj hne) rfl (halone.agree hc) hpoll
  obtain ⟨hsame, -, -⟩ := (h.minded i hfind c hc).admits_echoes event.client u v hagree
  have hyes : (s.admits event.client i).result v = true := hsame.symm.trans hgrants
  rw [candidates, polls, halone.find hfind, heven.searched_eq, visits, visits]
  simp [hyes]

/-- The turn of a candidate among others comes where the world agrees about it with the one in
which its turn comes where it is alone. -/
theorem Separate.turn_agree (h : s.Separate view w.registry (w.registry.find word))
    (halone : Alone (view id) id w v) {c : Command} (hc : w.registry.command? id = some c)
    {depth : Nat} {u : World σ} (hturn : (id, u) ∈ s.turns depth event word text w) :
    Agree (view id) id c u (s.gathered event word v) := by
  have hsub := candidates_sublist (s := s) event word w
  have hfind : id ∈ w.registry.find word := hsub.subset (mem_candidates_of_mem_turns hturn)
  have hgathered : Agree (view id) id c (s.gathered event word w) (s.gathered event word v) := by
    have heven := h.even id hfind
    rw [gathered, gathered, heven.searched_eq, heven.searched_eq, halone.find hfind]
    exact admitted_agree (w.registry.listedWhere_nodup _) hfind (h.minded id hfind c hc)
      (fun j hj hne => h.admits_keeps hfind event.client hj hne) rfl (halone.agree hc)
  exact visits_agree ((w.registry.listedWhere_nodup _).sublist hsub)
    (fun j hj hne => h.attend_keeps hfind depth (s.below depth) event text (hsub.subset hj) hne)
    (gathered_calm event word w).1 hgathered hturn

/-- **A turn is a pass where its command is alone**: it gives the outcome and adds the deeds of such
a pass. -/
theorem Separate.dispatchWithin_turn (h : s.Separate view w.registry (w.registry.find word))
    (hheard : s.heard event w = some (word, text)) (halone : Alone (view id) id w v) {depth : Nat}
    {u : World σ} (hturn : (id, u) ∈ s.turns depth event word text w) :
    (s.dispatchWithin depth event).result v =
        .ok [(s.attend depth (s.below depth) event text id).result u] ∧
      (s.dispatchWithin depth event).deeds v =
        (s.attend depth (s.below depth) event text id).deeds u := by
  have hid : id ∈ s.candidates event word w := mem_candidates_of_mem_turns hturn
  have hfind : id ∈ w.registry.find word := (candidates_sublist event word w).subset hid
  have heven := h.even id hfind
  obtain ⟨c, hc, -⟩ := Registry.mem_find.mp hfind
  obtain ⟨hsame, ⟨added, hu, hv⟩, -⟩ := heven.attend_echoes (h.minded id hfind c hc) depth
    (s.below depth) event text u _ (h.turn_agree halone hc hturn)
  have hone := h.candidates_alone halone hid
  have hturns : s.turns depth event word text v = [(id, s.gathered event word v)] := by
    rw [turns, hone]
    rfl
  obtain ⟨hr, hd⟩ := dispatchWithin_of_candidates
    ((heven.heard_eq event v w).trans hheard) (hone ▸ List.cons_ne_nil id []) depth
  rw [hr, hd, hturns]
  refine ⟨?_, ?_⟩
  · rw [hsame]
    rfl
  · rw [Step.deeds_eq hu, List.flatMap_singleton, Step.deeds_eq hv]

/-- **Candidates are independent.**  If the commands that a word calls for do not touch each other,
the outcome of each candidate is that of a pass over the same event where it is alone, and the texts
sent and the handlers called in a pass are those of such passes, in the order of the registry. -/
theorem dispatchWithin_alone (s : Setup σ) (depth : Nat) (event : Event) (w : World σ)
    (hself : event.isSelf = false) (hline : (s.split? event.text).result w = some (word, text))
    (hsome : s.candidates event word w ≠ [])
    (h : s.Separate view w.registry (w.registry.find word)) (alone : CommandId → World σ)
    (halone : ∀ id ∈ s.candidates event word w, Alone (view id) id w (alone id)) :
    (s.candidates event word w).Sublist w.registry.order ∧
      ∃ outcomes, (s.dispatchWithin depth event).result w = .ok outcomes ∧
        List.Forall₂ (fun id o => (s.dispatchWithin depth event).result (alone id) = .ok [o])
          (s.candidates event word w) outcomes ∧
        (s.dispatchWithin depth event).deeds w = (s.candidates event word w).flatMap fun id =>
          (s.dispatchWithin depth event).deeds (alone id) := by
  have hheard : s.heard event w = some (word, text) := heard_eq_some.mpr ⟨hself, hline⟩
  have hfst := map_fst_turns (s := s) depth event word text w
  have hturn : ∀ turn ∈ s.turns depth event word text w,
      (s.dispatchWithin depth event).result (alone turn.1) =
          .ok [(s.attend depth (s.below depth) event text turn.1).result turn.2] ∧
        (s.dispatchWithin depth event).deeds (alone turn.1) =
          (s.attend depth (s.below depth) event text turn.1).deeds turn.2 := by
    intro turn hturn
    exact h.dispatchWithin_turn hheard (halone turn.1 (mem_candidates_of_mem_turns hturn)) hturn
  obtain ⟨hr, hd⟩ := dispatchWithin_of_candidates hheard hsome depth
  refine ⟨(candidates_sublist event word w).trans (w.registry.find_sublist word), _, hr, ?_, ?_⟩
  · rw [← hfst, List.forall₂_map_left_iff, List.forall₂_map_right_iff, List.forall₂_same]
    exact fun turn hmem => (hturn turn hmem).1
  · rw [hd, ← hfst, List.flatMap_map]
    exact List.flatMap_congr fun turn hmem => (hturn turn hmem).2.symm

end Passes

end Setup

/-! ### Commands that count -/

namespace Tally

/-- What one of the handlers that count can see: its own count. -/
def seen (k : Nat) : Setoid (Nat → Nat) where
  r m m' := m k = m' k
  iseqv := ⟨fun _ => rfl, Eq.symm, Eq.trans⟩

/-- Replies with a count and adds one to it. -/
def count (k : Nat) (m : Nat → Nat) : Act (Nat → Nat) Value :=
  .ask (.reply (decimalText (m k))) fun _ =>
    .ask (.remember fun j => if j = k then m k + 1 else m j) fun _ => .done .null

/-- A host whose handlers count their calls, each for itself. -/
def host : Host (Nat → Nat) where
  readMarker _ m := (.ok .null, m)
  embolden _ text m := (.ok (.text text), m)
  permits _ _ m := (.ok (.bool true), m)
  deliver _ _ m := (.ok (), m)
  handle k _ := .ask .memory fun
    | .ok m => count k m
    | .error e => .fail e

theorem handle_alike (k : Nat) (call : Call) :
    Act.Alike (seen k) (host.handle k call) (host.handle k call) := by
  refine .memory fun m m' (h : m k = m' k) => ?_
  show Act.Alike (seen k) (count k m) (count k m')
  rw [count, count, h]
  refine .ask ?_ fun _ => .remember ?_ fun _ => .done _
  · trivial
  · show (if k = k then m' k + 1 else m k) = if k = k then m' k + 1 else m' k
    rw [h]

theorem handle_spares {j k : Nat} (hne : j ≠ k) (call : Call) (m : Nat → Nat) :
    Act.Spares (seen j) m (host.handle k call) := by
  refine .memory fun m' (h : m j = m' j) => ?_
  show Act.Spares (seen j) m (count k m')
  refine .ask ?_ fun _ => .remember ?_ fun _ => .done _
  · trivial
  · show m j = if j = k then m' k + 1 else m' j
    rw [if_neg hne, h]

/-- Two handlers that count, both called for by a line: what comes of each of them is what comes of
it where it is alone. -/
theorem dispatchWithin_alone_tally :
    let s : Setup (Nat → Nat) := { host }
    let event : Event := { text := .text "!ale", client := { name := "ann" } }
    let w : World (Nat → Nat) := {
      registry := { commands := [
        { name := "ale", standing := .listed, handler := .callback (.host 0) },
        { name := "ale", standing := .listed, handler := .callback (.host 1) }] }
      memory := fun _ => 0 }
    let alone (id : CommandId) : World (Nat → Nat) := { w with registry := w.registry.only id }
    event.isSelf = false ∧ (s.split? event.text).result w = some ("ale", []) ∧
      s.Separate seen w.registry (w.registry.find "ale") ∧
      ∃ outcomes, (s.dispatchWithin Setup.nestingLimit event).result w = .ok outcomes ∧
        List.Forall₂
          (fun id o => (s.dispatchWithin Setup.nestingLimit event).result (alone id) = .ok [o])
          [0, 1] outcomes := by
  intro s event w alone
  have hline : (s.split? event.text).result w = some ("ale", []) := rfl
  have hcandidates : s.candidates event "ale" w = [0, 1] := rfl
  have hsome : s.candidates event "ale" w ≠ [] := by
    rw [hcandidates]
    exact List.cons_ne_nil _ _
  have hcommand : ∀ id c, w.registry.command? id = some c →
      c.permission = none ∧ c.handler = .callback (.host id) := by
    intro id c hc
    match id with
    | 0 | 1 => cases hc; exact ⟨rfl, rfl⟩
    | _ + 2 => cases hc
  have hseparate : s.Separate seen w.registry (w.registry.find "ale") := by
    refine ⟨fun id _ => ⟨nofun, nofun, fun _ _ => ⟨fun _ _ h => ⟨rfl, h⟩, fun _ => rfl⟩⟩, ?_, ?_⟩
    · intro id _ c hc
      obtain ⟨hpermission, hhandler⟩ := hcommand id c hc
      exact ⟨by simp [hpermission], by rw [hhandler]; exact handle_alike id⟩
    · intro id _ c hc other _ hne
      obtain ⟨hpermission, hhandler⟩ := hcommand id c hc
      exact ⟨by simp [hpermission], by rw [hhandler]; exact handle_spares hne⟩
  have hlisted : ∀ id ∈ s.candidates event "ale" w, id ∈ w.registry.order := fun id hid =>
    (w.registry.find_sublist "ale").subset ((Setup.candidates_sublist event "ale" w).subset hid)
  obtain ⟨-, outcomes, hr, hsame, -⟩ := Setup.dispatchWithin_alone s Setup.nestingLimit event w rfl
    hline hsome hseparate alone fun id hid => alone_only _ (hlisted id hid)
  exact ⟨rfl, hline, hseparate, outcomes, hr, hcandidates ▸ hsame⟩

end Tally

end Switchboard
