import Switchboard.Proofs.Isolation
import Switchboard.Proofs.Ruling

/-!
# Proofs — Delivery

Which texts a pass hands to which sinks: the switchboard's own, and those of the handlers it calls.

* `Outcome.notice?`: the message that the fault of an outcome is to the caller.
* `replySink?`: the sink of a mode, by the number that the mode equals.
* `said`, `utterances`: the texts that an act and the handlers of a pass ask to reply with, each
  with the answer it gets.
* `perform_replies`: what is said while an act is performed goes to the target, or to nowhere, and
  then the answer is that all went well.
* `messages_dispatchWithin`: the notices of a pass are the faults of its outcomes, and its replies
  are what its handlers said.
-/

namespace Switchboard

variable {σ α : Type}

/-- The message that the fault of an outcome is to a client, with the failure to take it. -/
def Outcome.notice? (client : Client) (o : Outcome) : Option Message :=
  o.fault.map fun f => ⟨.caller client.name, f.render, o.error⟩

/-- The replies among deeds: what the handlers that the passes of a depth called replied. -/
def replies (depth : Nat) (deeds : List Entry) : List Message :=
  deeds.filterMap (Entry.message? depth .reply)

@[simp] theorem replies_append (depth : Nat) (xs ys : List Entry) :
    replies depth (xs ++ ys) = replies depth xs ++ replies depth ys :=
  List.filterMap_append

theorem replies_flatMap {ι : Type} (depth : Nat) (f : ι → List Entry) (is : List ι) :
    replies depth (is.flatMap f) = is.flatMap fun i => replies depth (f i) :=
  List.filterMap_flatMap

theorem replies_of_below {depth : Nat} {deeds : List Entry} (h : ∀ e ∈ deeds, e.Below depth) :
    replies depth deeds = [] :=
  List.filterMap_eq_nil_iff.mpr fun e he => Entry.message?_of_below (h e he)

/-! ### Where replies go -/

/-- The mode that a host gives equals a number. -/
def Delivery.equals (mode : Delivery) (n : Nat) : Bool :=
  match mode with
  | .named mode => mode.number == n
  | .raw value => value.isNumber n

/-- The mode that is given is the one whose number it equals. -/
theorem Delivery.mode?_eq (mode : Delivery) :
    mode.mode? =
      if mode.equals 1 then some .caller
      else if mode.equals 2 then some .channel
      else if mode.equals 3 then some .server
      else none := by
  cases mode with
  | named mode => cases mode <;> rfl
  | raw value =>
      simp only [mode?, equals, Mode.all, List.find?_cons, List.find?_nil, Mode.number]
      rcases Bool.eq_false_or_eq_true (value.isNumber (1 : Nat)) with h1 | h1
      · simp only [h1, if_true]
      · rcases Bool.eq_false_or_eq_true (value.isNumber (2 : Nat)) with h2 | h2
        · simp only [h1, h2, Bool.false_eq_true, if_true, if_false]
        · rcases Bool.eq_false_or_eq_true (value.isNumber (3 : Nat)) with h3 | h3 <;>
            simp only [h1, h2, h3, Bool.false_eq_true, if_true, if_false]

/-- A text that a handler asks to reply with, and the answer it gets. -/
structure Utterance where
  text : String
  answer : Except Failure Unit

namespace Utterance

/-- The message that an utterance is to a sink. -/
def toMessage (x : Utterance) (sink : Sink) : Message where
  sink
  text := x.text
  failure := match x.answer with
    | .ok _ => none
    | .error e => some e

/-- The messages that utterances are to a sink, or to nowhere. -/
def messages (sink? : Option Sink) (xs : List Utterance) : List Message :=
  match sink? with
  | some sink => xs.map (·.toMessage sink)
  | none => []

@[simp] theorem messages_nil (sink? : Option Sink) : messages sink? [] = [] := by
  cases sink? <;> rfl

theorem messages_append (sink? : Option Sink) (xs ys : List Utterance) :
    messages sink? (xs ++ ys) = messages sink? xs ++ messages sink? ys := by
  cases sink? with
  | none => rfl
  | some sink => exact List.map_append

theorem messages_flatMap {ι : Type} (sink? : Option Sink) (f : ι → List Utterance)
    (is : List ι) : messages sink? (is.flatMap f) = is.flatMap fun i => messages sink? (f i) := by
  induction is with
  | nil => exact messages_nil sink?
  | cons i is ih => rw [List.flatMap_cons, messages_append, ih, List.flatMap_cons]

end Utterance

/-- The deed of handing an utterance to a sink is the message that the utterance is. -/
theorem replies_sent (depth : Nat) (sink : Sink) (x : Utterance) :
    replies depth [.sent depth .reply sink x.text (x.toMessage sink).failure] =
      Utterance.messages (some sink) [x] := by
  simp [replies, Entry.message?, Utterance.messages, Utterance.toMessage]

/-- The sink of a target, if it is one. -/
def Target.sink? : Target → Option Sink
  | .sink x => some x
  | .nowhere => none

/-- What a request says to a caller, with the answer it gets. -/
def Request.said : (r : Request σ) → Except Failure r.Answer → List Utterance
  | .reply text, answer => [⟨text, answer⟩]
  | _, _ => []

namespace Setup

variable (s : Setup σ)

/-- The sink that the replies to an event go to: the private chat if the mode equals 1, the first
channel of the client if it equals 2, and the chat of the server if it equals 3 and there is one. -/
def replySink? (event : Event) : Option Sink :=
  if event.mode.equals 1 then some (.caller event.client.name)
  else if event.mode.equals 2 then some (.channel event.client.name 0)
  else if event.mode.equals 3 && s.backend then some .backend
  else none

/-- What an act says while it is performed from the world `w`, in order. -/
def said (scene : Scene σ) : Act σ α → Record → World σ → List Utterance
  | .done _, _, _ => []
  | .fail _, _, _ => []
  | .ask request next, record, w =>
      let answer := (s.answer scene record request).result w
      request.said answer ++ said scene (next answer) (recordAfter record request)
        ((s.answer scene record request).after w)

/-- What the handler of a command says when it is called in the world `w`. -/
def saidInCall (scene : Scene σ) (id : CommandId) (c : Command) (record : Record) (w : World σ) :
    List Utterance :=
  let call : Call := { client := scene.event.client, text := scene.event.text, record }
  s.said scene (s.act c.handler call) record
    ((Step.note (.called scene.depth id c.handler call)).after w)

/-- What the handler of a command says in the turn that comes in the world `u`: nothing unless the
turn is ready. -/
def saidInTurn (depth : Nat) (event : Event) (text : List Char) (id : CommandId) (u : World σ) :
    List Utterance :=
  match (s.evaluate id text).result u, u.registry.command? id, s.target event with
  | .ok o, some c, .ok target =>
      if o.fault.isSome || c.isDestroyed then []
      else s.saidInCall (s.scene depth event target) id c o.record (s.evaluated id text u)
  | _, _, _ => []

/-- What the handlers that the pass over an event calls say, in order. -/
def utterances (depth : Nat) (event : Event) (w : World σ) : List Utterance :=
  match s.heard event w with
  | none => []
  | some (word, text) =>
      (s.turns depth event word text w).flatMap fun turn =>
        s.saidInTurn depth event text turn.1 turn.2

variable {s}

/-! ### What an act says -/

theorem replySink?_eq (event : Event) :
    s.replySink? event =
      match event.mode.mode? with
      | some .caller => some (.caller event.client.name)
      | some .channel => some (.channel event.client.name 0)
      | some .server => if s.backend then some .backend else none
      | none => none := by
  rw [replySink?, event.mode.mode?_eq]
  split_ifs <;> simp_all

/-- The target of an event is the sink of its mode. -/
theorem target_sink? {event : Event} {target : Target} (h : s.target event = .ok target) :
    target.sink? = s.replySink? event := by
  unfold Setup.target at h
  rw [replySink?_eq]
  generalize event.mode.mode? = mode at h ⊢
  rcases mode with _ | (_ | _ | _)
  · cases h
    rfl
  · cases h
    rfl
  · by_cases hnone : event.client.channels = 0
    · simp [hnone] at h
    · simp only [hnone, if_false] at h
      cases h
      rfl
  · cases hb : s.backend with
    | true =>
        simp only [hb, if_true] at h
        cases h
        rfl
    | false =>
        simp only [hb, Bool.false_eq_true, if_false] at h
        cases h
        rfl

section Acts

variable {scene : Scene σ}

/-- What answers a request sends what the request says to the target, and nothing else of its
depth. -/
theorem answer_replies
    (hd : ∀ event, (scene.dispatch event).Within (Adds (Entry.Below scene.depth)))
    (record : Record) (request : Request σ) (w : World σ) :
    ∃ added, ((s.answer scene record request).after w).deeds = w.deeds ++ added ∧
      replies scene.depth added = Utterance.messages scene.target.sink?
        (request.said ((s.answer scene record request).result w)) := by
  by_cases hreply : ∃ text, request = .reply text
  · obtain ⟨text, rfl⟩ := hreply
    rw [answer, Setup.reply.eq_def]
    cases scene.target with
    | sink x =>
        refine ⟨_, s.deeds_send scene.depth .reply x text w, ?_⟩
        exact replies_sent scene.depth x ⟨text, (s.send scene.depth .reply x text).result w⟩
    | nowhere =>
        refine ⟨[], ?_, rfl⟩
        rw [List.append_nil]
        exact (Step.log_calm _ _ w).2
  · obtain ⟨added, hadded, hbelow⟩ :=
      s.answer_adds_below hd record (not_exists.mp hreply) w
    refine ⟨added, hadded, (replies_of_below hbelow).trans ?_⟩
    cases request with
    | reply text => exact absurd ⟨text, rfl⟩ hreply
    | _ => exact (Utterance.messages_nil _).symm

/-- **What is said while an act is performed goes to the target**, or to nowhere if that is the
target. -/
theorem perform_replies
    (hd : ∀ event, (scene.dispatch event).Within (Adds (Entry.Below scene.depth)))
    (act : Act σ α) (record : Record) (w : World σ) :
    ∃ added, ((s.perform scene act record).after w).deeds = w.deeds ++ added ∧
      replies scene.depth added =
        Utterance.messages scene.target.sink? (s.said scene act record w) := by
  -- The act goes on from the world in which it got its answer, so the world is generalised.
  induction act generalizing record w with
  | done a => exact ⟨[], (List.append_nil _).symm, (Utterance.messages_nil _).symm⟩
  | fail e => exact ⟨[], (List.append_nil _).symm, (Utterance.messages_nil _).symm⟩
  | ask request next ih =>
      obtain ⟨first, hfirst, hsaid⟩ := s.answer_replies hd record request w
      obtain ⟨more, hmore, hmoreSaid⟩ := ih ((s.answer scene record request).result w)
        (recordAfter record request) ((s.answer scene record request).after w)
      refine ⟨first ++ more, ?_, ?_⟩
      · rw [← List.append_assoc, ← hfirst]
        exact hmore
      · rw [replies_append, hsaid, hmoreSaid, said, Utterance.messages_append]

/-- A call of a handler is the deed of calling it, and then what the handler says to the target. -/
theorem call_replies (scene : Scene σ)
    (hd : ∀ event, (scene.dispatch event).Within (Adds (Entry.Below scene.depth)))
    (id : CommandId) (c : Command) (record : Record) (w : World σ) :
    ∃ added, ((s.call scene id c record).after w).deeds = w.deeds ++ added ∧
      replies scene.depth added =
        Utterance.messages scene.target.sink? (s.saidInCall scene id c record w) := by
  let call : Call := { client := scene.event.client, text := scene.event.text, record }
  obtain ⟨inner, hinner, hsaid⟩ := perform_replies (s := s) hd (s.act c.handler call) record
    ((Step.note (.called scene.depth id c.handler call)).after w)
  refine ⟨.called scene.depth id c.handler call :: inner, ?_, hsaid⟩
  rw [Step.after_note, World.deeds_append_deed w rfl, List.append_assoc] at hinner
  exact hinner

/-- What is said to nowhere is answered as if all went well. -/
theorem said_answer (hnowhere : scene.target = .nowhere) {act : Act σ α} {record : Record}
    {w : World σ} {x : Utterance} (hx : x ∈ s.said scene act record w) : x.answer = .ok () := by
  induction act generalizing record w with
  | done a => cases hx
  | fail e => cases hx
  | ask request next ih =>
      rcases List.mem_append.mp hx with hx | hx
      · cases request with
        | reply text =>
            rw [Request.said, List.mem_singleton] at hx
            rw [hx, answer, hnowhere]
            rfl
        | _ => cases hx
      · exact ih _ hx

end Acts

/-! ### What a turn says -/

variable {depth : Nat} {event : Event} {text : List Char} {id : CommandId} {u : World σ}

theorem saidInTurn_of_ready {c : Command} {o : Outcome} {target : Target}
    (h : s.Ready event text id u c o target) : s.saidInTurn depth event text id u =
      s.saidInCall (s.scene depth event target) id c o.record (s.evaluated id text u) := by
  simp [saidInTurn, h.evaluates, h.known, h.reachable, h.faultless, h.alive]

theorem saidInTurn_of_not_ready (h : ∀ c o target, ¬ s.Ready event text id u c o target) :
    s.saidInTurn depth event text id u = [] := by
  unfold saidInTurn
  split
  · rename_i o c target heval hc ht
    split
    · rfl
    · rename_i hcond
      simp only [Bool.or_eq_true, not_or, Bool.not_eq_true, Option.isSome_eq_false_iff,
        Option.isNone_iff_eq_none] at hcond
      exact absurd ⟨heval, hcond.1, hc, hcond.2, ht⟩ (h c o target)
  · rfl

/-- What is said in a turn is answered as if all went well, unless the mode of the event has a
sink. -/
theorem saidInTurn_answer (hnone : s.replySink? event = none) {x : Utterance}
    (hx : x ∈ s.saidInTurn depth event text id u) : x.answer = .ok () := by
  by_cases hready : ∃ c o target, s.Ready event text id u c o target
  · obtain ⟨c, o, target, h⟩ := hready
    rw [saidInTurn_of_ready h] at hx
    have hsink : target.sink? = none := (target_sink? h.reachable).trans hnone
    cases target with
    | sink x => cases hsink
    | nowhere => exact said_answer rfl hx
  · simp only [not_exists] at hready
    rw [saidInTurn_of_not_ready hready] at hx
    cases hx

@[simp] theorem replies_notice (depth : Nat) (event : Event) (f : Fault)
    (error : Option Failure) : replies depth [notice depth event f error] = [] := by
  simp [replies, notice, Entry.message?]

/-- A turn that is ready adds the deeds of the call, and then nothing that is a reply. -/
theorem Ready.deeds_attend {c : Command} {o : Outcome} {target : Target}
    (h : s.Ready event text id u c o target) (depth : Nat) :
    ∃ told, ((s.attend depth (s.below depth) event text id).after u).deeds =
        ((s.call (s.scene depth event target) id c o.record).after
          (s.evaluated id text u)).deeds ++ told ∧ replies depth told = [] := by
  obtain ⟨-, hsettle⟩ := settle_of_faultless depth event h.evaluates h.faultless h.known
    (s.below depth)
  simp only [h.alive, Bool.false_eq_true, if_false, Run.after_lift] at hsettle
  rw [(s.attend_calm depth event text id u).2, hsettle]
  rcases hcall : (s.call (s.scene depth event target) id c o.record).result
    (s.evaluated id text u) with ⟨e | v, record⟩
  · obtain ⟨error, -, hnotice⟩ := invoke_crashed h.reachable hcall
    exact ⟨_, hnotice, replies_notice _ _ _ _⟩
  · obtain ⟨-, hkept⟩ := invoke_completed h.reachable hcall
    exact ⟨[], by rw [hkept, List.append_nil], rfl⟩

/-- A turn that is not ready replies nothing. -/
theorem Settles.replies_of_not_ready {r : Except Failure Outcome} {added : List Entry}
    (h : s.Settles depth event text id u r added)
    (hnot : ∀ c o target, ¬ s.Ready event text id u c o target) : replies depth added = [] := by
  cases h with
  | stalled | unworded => rfl
  | refused | gone | unreachable => exact replies_notice _ _ _ _
  | crashed _ hready | completed hready => exact absurd hready (hnot _ _ _)

/-- **The replies of a turn are what its handler says**, to the sink of the mode. -/
theorem replies_attend (s : Setup σ) (depth : Nat) (event : Event) (text : List Char)
    (id : CommandId) (u : World σ) :
    replies depth ((s.attend depth (s.below depth) event text id).deeds u) =
      Utterance.messages (s.replySink? event) (s.saidInTurn depth event text id u) := by
  by_cases hready : ∃ c o target, s.Ready event text id u c o target
  · obtain ⟨c, o, target, h⟩ := hready
    obtain ⟨told, htold, hnone⟩ := h.deeds_attend depth
    obtain ⟨said, hcall, hsaid⟩ := s.call_replies (s.scene depth event target)
      (below_adds s depth) id c o.record (s.evaluated id text u)
    have hsaid : replies depth said = Utterance.messages target.sink?
      (s.saidInCall (s.scene depth event target) id c o.record (s.evaluated id text u)) := hsaid
    rw [hcall, evaluated_calm.2, List.append_assoc] at htold
    rw [Step.deeds_eq htold, replies_append, hnone, List.append_nil, hsaid,
      saidInTurn_of_ready h, target_sink? h.reachable]
  · simp only [not_exists] at hready
    obtain ⟨r, -, hsettles⟩ := attend_ends s depth event text id u
    rw [hsettles.replies_of_not_ready hready, saidInTurn_of_not_ready hready,
      Utterance.messages_nil]

/-- **The notice of a turn is the fault of its outcome**, if it has one. -/
theorem Settles.notices_eq {r : Except Failure Outcome} {added : List Entry}
    (h : s.Settles depth event text id u r added) : notices depth added =
      ((Outcome.ofSettled id r).notice? event.client).toList := by
  rcases h.completes_or with ⟨-, -, hf, -, hnone⟩ | ⟨-, -, f, hf, hone⟩ | ⟨-, -, hf, -, hnone⟩
  · rw [hnone, Outcome.notice?, hf]
    rfl
  · rw [hone, Outcome.notice?, hf]
    rfl
  · rw [hnone, Outcome.notice?, hf]
    rfl

/-! ### What a pass says -/

theorem Fluent.helpHint (h : s.Fluent) (marker : String) : (s.helpHint marker).Returns :=
  .bind (h _) fun _ => .pure _

/-- A formatter that never raises leaves no caller without words. -/
theorem Fluent.apology (h : s.Fluent) {word : String} {w : World σ} {a : Run σ Fault}
    (ha : s.apology event word w = some a) : a.Returns := by
  unfold Setup.apology at ha
  split at ha
  · split at ha
    · cases ha
      exact .bind (h _) fun _ => .bind (h.helpHint _) fun _ => .pure _
    · cases ha
  · cases ha
    exact .bind (h _) fun _ => .bind (h.helpHint _) fun _ => .pure _

theorem utterances_of_heard {word : String} {w : World σ}
    (h : s.heard event w = some (word, text)) : s.utterances depth event w =
      (s.turns depth event word text w).flatMap fun turn =>
        s.saidInTurn depth event text turn.1 turn.2 := by
  rw [utterances, h]

/-- Without candidates no handler says anything. -/
theorem utterances_of_no_candidates {word : String} {w : World σ}
    (h : s.heard event w = some (word, text)) (hnone : s.candidates event word w = [])
    (depth : Nat) : s.utterances depth event w = [] := by
  rw [utterances_of_heard h, turns, hnone]
  rfl

/-- **Where the texts of a pass go.**  If the formatter never raises, a pass gives outcomes.  What
the switchboard itself sends is the faults of the outcomes that have one, each once and in the order
of the outcomes, to the private chat of the caller; the error of such an outcome is the failure of
the chat to take the notice.  What the handlers of the pass reply goes to the sink of the mode; if
the mode has none, it goes nowhere, and the handlers are answered as if all went well. -/
theorem messages_dispatchWithin (s : Setup σ) (h : s.Fluent) (depth : Nat) (event : Event)
    (w : World σ) :
    ∃ outcomes, (s.dispatchWithin depth event).result w = .ok outcomes ∧
      notices depth ((s.dispatchWithin depth event).deeds w) =
        outcomes.filterMap (Outcome.notice? event.client) ∧
      replies depth ((s.dispatchWithin depth event).deeds w) =
        Utterance.messages (s.replySink? event) (s.utterances depth event w) ∧
      (s.replySink? event = none → ∀ x ∈ s.utterances depth event w, x.answer = .ok ()) := by
  have hpasses := dispatchWithin_passes s depth event w
  generalize (s.dispatchWithin depth event).result w = r at hpasses ⊢
  generalize (s.dispatchWithin depth event).deeds w = added at hpasses ⊢
  cases hpasses with
  | ignored hheard =>
      have hsilent : s.utterances depth event w = [] := by rw [utterances, hheard]
      simp [hsilent, notices, replies, Utterance.messages_nil]
  | silent hheard hnone =>
      have hsilent := utterances_of_no_candidates hheard hnone depth
      simp [hsilent, notices, replies, Utterance.messages_nil]
  | speechless _ _ ha he =>
      obtain ⟨f, hf⟩ := h.apology ha (s.gathered event _ w)
      cases hf.symm.trans he
  | turnedAway error hheard hnone =>
      have hsilent := utterances_of_no_candidates hheard hnone depth
      refine ⟨_, rfl, notices_notice _ _ _ _, ?_, by simp [hsilent]⟩
      rw [replies_notice, hsilent, Utterance.messages_nil]
  | @settled word text hheard hsome =>
      refine ⟨_, rfl, ?_, ?_, ?_⟩
      · rw [notices_flatMap, List.filterMap_map, List.filterMap_eq_flatMap_toList]
        refine List.flatMap_congr fun turn _ => ?_
        obtain ⟨r, hr, hsettles⟩ := attend_ends s depth event text turn.1 turn.2
        rw [hsettles.notices_eq, Function.comp_apply, hr]
      · rw [replies_flatMap, utterances_of_heard hheard, Utterance.messages_flatMap]
        exact List.flatMap_congr fun turn _ => replies_attend s depth event text turn.1 turn.2
      · intro hnowhere x hx
        rw [utterances_of_heard hheard] at hx
        obtain ⟨turn, -, hx⟩ := List.mem_flatMap.mp hx
        exact saidInTurn_answer hnowhere hx

/-- A line from a channel to two commands, of which the first one replies and the second one asks
for a text that is not there: the reply goes to the channel and the notice to the caller. -/
theorem messages_dispatchWithin_rehearsed :
    let s : Setup Rehearsal.Cast := { host := Rehearsal.host fun _ => "" }
    let event : Event := {
      text := .text "!ale", client := { name := "ann" }, mode := .named .channel }
    let w : World Rehearsal.Cast := {
      registry := {
        commands := [
          { name := "ale", standing := .listed, handler := .callback (.host 0) },
          { name := "ale", grammar := [0], standing := .listed }]
        arguments := [.string {} { minimum := some 1 }] }
      memory := { scripts := [{ actions := [.reply "cheers"] }] } }
    s.Fluent ∧ ∃ outcomes, (s.dispatchWithin nestingLimit event).result w = .ok outcomes ∧
      (outcomes.filterMap (Outcome.notice? event.client)).map (·.sink) = [.caller "ann"] ∧
      (replies nestingLimit ((s.dispatchWithin nestingLimit event).deeds w)).map
        (fun m => (m.sink, m.text)) = [(.channel "ann" 0, "cheers")] := by
  intro s event w
  have hfluent : s.Fluent := fun _ => .pure _
  obtain ⟨outcomes, hr, hnotices, hreplies, -⟩ :=
    messages_dispatchWithin s hfluent nestingLimit event w
  refine ⟨hfluent, outcomes, hr, ?_, ?_⟩
  · rw [← hnotices]
    decide +kernel
  · rw [hreplies]
    decide +kernel

end Setup

end Switchboard
