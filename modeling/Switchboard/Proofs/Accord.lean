import Switchboard.Proofs.Enquiry

/-!
# Proofs — Accord

Who may use what: what `help` says about it, and what a line comes to.  Both ask the predicates, and
go by their answers.  They part where a predicate raises: a pass takes that for a no, about this one
command, while `help` gives up, and lists nothing at all.

* `Steady`: predicates that go by the client alone.
* `Steady.mem_candidates_iff`, `Steady.mem_directory_iff`: then a pass and `help` ask the same.
* `permitted_fails`, `help_gives_up`: a predicate that raises makes `help` fail.
* `Consults`: a private line that asks `help` for everything.
* `Consults.ready`, `Consults.listed`, `Consults.gives_up`: what comes of its turn.
* `help_agrees`: `help` lists what a pass would let through, unless a predicate raises.
-/

namespace Switchboard.Setup

variable {σ : Type} {s : Setup σ}

/-! ### Predicates that go by the client alone -/

/-- What the predicates of the host answer about a client does not depend on what the host
remembers. -/
def Steady (s : Setup σ) (client : Client) : Prop :=
  ∀ k m m', (s.host.permits k client m).1 = (s.host.permits k client m').1

/-- No predicate of a listed and enabled command raises. -/
def Answers (s : Setup σ) (client : Client) (r : Registry) : Prop :=
  ∀ i d, r.command? i = some d → d.isListed = true → d.enabled = true →
    (s.permits d client).Returns

section

variable {client : Client} (h : s.Steady client)

include h

/-- A predicate gives the same in every world. -/
theorem Steady.permits_eq (c : Command) (w v : World σ) :
    (s.permits c client).result w = (s.permits c client).result v := by
  unfold permits
  cases c.permission with
  | none => rfl
  | some a =>
      cases a with
      | constant value => rfl
      | host k =>
          have hask : ∀ u : World σ, (Run.ask (s.host.permits k client)).result u =
              (s.host.permits k client u.memory).1 := fun _ => rfl
          simp only [Run.result_bind, hask, h k w.memory v.memory]
          cases (s.host.permits k client v.memory).1 <;> rfl

/-- A predicate that does not answer everywhere raises everywhere. -/
theorem Steady.raises {c : Command} (hraises : ¬ (s.permits c client).Returns) (w : World σ) :
    ∃ e, (s.permits c client).result w = .error e := by
  cases hw : (s.permits c client).result w with
  | error e => exact ⟨e, rfl⟩
  | ok allowed => exact absurd (fun v => ⟨allowed, (h.permits_eq c v w).trans hw⟩) hraises

theorem Steady.grants_iff {id : CommandId} {w v : World σ} (hkept : v.registry = w.registry) :
    s.Grants client id v ↔ s.Grants client id w := by
  unfold Grants
  rw [hkept]
  exact exists_congr fun c => and_congr_right fun _ => by rw [h.permits_eq c v w]

theorem Steady.mem_admitted_iff {ids : List CommandId} {w : World σ} {id : CommandId} :
    id ∈ (s.admitted client ids).result w ↔ id ∈ ids ∧ s.Grants client id w := by
  rw [mem_admitted]
  refine and_congr_right fun hid => exists_congr fun c => and_congr_right fun hc => ?_
  constructor
  · rintro ⟨v, -, hgranted⟩
    rw [h.permits_eq c w v, hgranted]
  · intro hgranted
    rw [← map_fst_visits (s.admits client) ids w] at hid
    obtain ⟨⟨i, v⟩, hv, rfl⟩ := List.mem_map.mp hid
    exact ⟨v, hv, (h.permits_eq c v w).trans hgranted⟩

/-- **Who is a candidate** goes by the registry and the client alone. -/
theorem Steady.mem_candidates_iff {event : Event} (hclient : event.client = client)
    {word : String} {w : World σ} {id : CommandId} :
    id ∈ s.candidates event word w ↔ id ∈ w.registry.find word ∧ s.Grants client id w := by
  subst hclient
  rw [candidates_eq, h.mem_admitted_iff, h.grants_iff (searched_calm event w).1]

/-- **Who is listed** goes by the registry and the client alone. -/
theorem Steady.mem_directory_iff {w : World σ} {test : Command → Bool} {id : CommandId} :
    id ∈ s.directory client w test ↔ ∃ c, w.registry.command? id = some c ∧ c.isListed = true ∧
      c.enabled = true ∧ s.Grants client id w ∧ c.helpText ≠ "" ∧ test c = true := by
  rw [directory, List.mem_filter, h.mem_admitted_iff, Registry.enabled, Registry.mem_listedWhere]
  constructor
  · rintro ⟨⟨⟨c, hc, hlisted, henabled⟩, hgranted⟩, hshown⟩
    simp only [hc, Option.any_some, Bool.and_eq_true] at hshown
    exact ⟨c, hc, hlisted, henabled, hgranted, by simpa [Command.hasHelp] using hshown.1, hshown.2⟩
  · rintro ⟨c, hc, hlisted, henabled, hgranted, hhelp, htest⟩
    exact ⟨⟨⟨c, hc, hlisted, henabled⟩, hgranted⟩,
      by simp [hc, Command.hasHelp, hhelp, htest]⟩

/-- **`help` lists what a pass lets through**, of the commands that have a help text: whatever line
calls for a command, it is a candidate if and only if it is listed. -/
theorem Steady.mem_directory_iff_candidate {event : Event} (hclient : event.client = client)
    {word : String} {w v : World σ} (hkept : v.registry = w.registry) {id : CommandId} {c : Command}
    (hc : w.registry.command? id = some c) (hword : c.answersTo word = true) :
    (id ∈ s.directory client w fun _ => true) ↔
      c.helpText ≠ "" ∧ id ∈ s.candidates event word v := by
  rw [h.mem_directory_iff, h.mem_candidates_iff hclient, h.grants_iff hkept, Registry.mem_find,
    hkept]
  constructor
  · rintro ⟨c', hc', hlisted, henabled, hgranted, hhelp, -⟩
    cases hc.symm.trans hc'
    exact ⟨hhelp, ⟨c, hc, hlisted, hword, henabled⟩, hgranted⟩
  · rintro ⟨hhelp, ⟨c', hc', hlisted, -, henabled⟩, hgranted⟩
    cases hc.symm.trans hc'
    exact ⟨c, hc, hlisted, henabled, hgranted, hhelp, rfl⟩

end

/-! ### Predicates that raise -/

/-- **A predicate that raises leaves nothing that is permitted.** -/
theorem permitted_fails {client : Client} {ids : List CommandId} {id : CommandId} {c : Command}
    (hid : id ∈ ids) (hraises : ∀ v, ∃ e, (s.permits c client).result v = .error e) {w : World σ}
    (hc : w.registry.command? id = some c) :
    ∃ e, (s.permitted client ids).result w = .error e := by
  induction ids generalizing w with
  | nil => cases hid
  | cons i ids ih =>
      cases hi : w.registry.command? i with
      | none =>
          have hmore : id ∈ ids := by
            rcases List.mem_cons.mp hid with rfl | hmore
            · cases hc.symm.trans hi
            · exact hmore
          simpa only [permitted, Run.result_bind, Run.result_get, Run.after_get, hi] using
            ih hmore hc
      | some d =>
          simp only [permitted, Run.result_bind, Run.result_get, Run.after_get, hi]
          cases hd : (s.permits d client).result w with
          | error e => exact ⟨e, rfl⟩
          | ok allowed =>
              have hmore : id ∈ ids := by
                rcases List.mem_cons.mp hid with rfl | hmore
                · cases hc.symm.trans hi
                  obtain ⟨e, he⟩ := hraises w
                  cases he.symm.trans hd
                · exact hmore
              have hkept : ((s.permits d client).after w).registry = w.registry :=
                (s.permits_calm d client w).1
              obtain ⟨e, he⟩ := ih hmore (hkept ▸ hc)
              exact ⟨e, by simp only [he]⟩

/-- **A predicate that raises makes `help` give up**, before it has said anything. -/
theorem help_gives_up {scene : Scene σ} {record : Record} {w : World σ}
    (hsteady : s.Steady scene.event.client) (h : ¬ s.Answers scene.event.client w.registry) :
    ∃ e v, s.Performs scene record Handbook.help w (.error e) [] v := by
  simp only [Answers, not_forall] at h
  obtain ⟨id, c, hc, hlisted, henabled, hraises⟩ := h
  obtain ⟨e, he⟩ := permitted_fails (Registry.mem_listedWhere.mpr ⟨c, hc, hlisted, henabled⟩)
    (hsteady.raises hraises) hc
  have hanswer : (s.answer scene record (.available .unset)).result w = .error e := he
  exact ⟨e, _, .ask hanswer rfl (.fail e _)⟩

/-! ### A line that asks for everything -/

/-- The commands are those with a help text that a pass lets through: whatever line of the client
calls for a command of the registry, it is a candidate. -/
def LetThrough (s : Setup σ) (client : Client) (r : Registry) (ids : List CommandId) : Prop :=
  ∀ i d, r.command? i = some d → ∀ event word v, event.client = client → v.registry = r →
    d.answersTo word = true → (i ∈ ids ↔ d.helpText ≠ "" ∧ i ∈ s.candidates event word v)

/-- **A listing of what a client may use**: a heading, and a line for each of the commands with a
help text that a pass lets through, in the order of the registry. -/
structure Catalogue (s : Setup σ) (scene : Scene σ) (r : Registry) (ids : List CommandId)
    (heading : String) (lines : List String) : Prop where
  roll : ∃ v, s.Roll scene (ids.filterMap r.command?) v heading lines
  known : List.Forall₂ (fun i d => r.command? i = some d) ids (ids.filterMap r.command?)
  length_eq : lines.length = ids.length
  order : ids.Sublist r.order
  through : s.LetThrough scene.event.client r ids

/-- **A private line that asks `help` for everything**: the word calls for `help` as it was
installed, perhaps among other commands, and nothing follows the word.  The caller may use `help`,
and can be reached; the formatter does not raise.  What the predicates of the other commands answer,
and whether they raise, goes by the caller alone. -/
structure Consults (s : Setup σ) (depth : Nat) (event : Event) (word : String) (id : CommandId)
    (c : Command) (w : World σ) : Prop where
  heard : s.heard event w = some (word, [])
  called : id ∈ w.registry.find word
  known : w.registry.command? id = some c
  handler : c.handler = .help
  granted : (s.permits c event.client).result w = .ok true
  steady : s.Steady event.client
  fluent : s.Fluent
  reaches : s.Reaches event.client
  mode : event.mode.mode? = some .caller
  /-- `help` is still what it was when its turn comes, whatever came before it. -/
  kept : ∀ u, (id, u) ∈ s.turns depth event word [] w → u.registry.command? id = some c ∧
    u.registry.grammar c = [Handbook.filterArgument]

namespace Consults

variable {depth : Nat} {event : Event} {word : String} {id : CommandId} {c : Command}
  {w u : World σ} (h : s.Consults depth event word id c w)

include h

/-- `help` is one of the commands of the registry. -/
theorem listed : c.isListed = true := by
  obtain ⟨c', hc', hlisted, -⟩ := Registry.mem_find.mp h.called
  cases hc'.symm.trans h.known
  exact hlisted

/-- **`help` has its turn.** -/
theorem exists_turn : ∃ u, (id, u) ∈ s.turns depth event word [] w := by
  have hmem : id ∈ s.candidates event word w :=
    (h.steady.mem_candidates_iff rfl).mpr ⟨h.called, c, h.known, h.granted⟩
  rw [← map_fst_turns depth event word [] w] at hmem
  obtain ⟨⟨i, u⟩, hu, rfl⟩ := List.mem_map.mp hmem
  exact ⟨u, hu⟩

/-- **The line leads to the handler of `help`**, with no filter. -/
theorem ready (hu : (id, u) ∈ s.turns depth event word [] w) :
    s.Ready event [] id u c { command := some id, record := [("filter", .null)] }
      (.sink (.caller event.client.name)) := by
  obtain ⟨hknown, hgrammar⟩ := h.kept u hu
  obtain ⟨walk, hwalk, hrecord, hverdict⟩ : ∃ walk,
      Walk.along [Handbook.filterArgument] [] = .ok walk ∧ walk.record = [("filter", .null)] ∧
        ∀ tolerant, walk.verdict tolerant = .ready :=
    ⟨_, rfl, rfl, fun tolerant => by cases tolerant <;> rfl⟩
  have halive : c.isDestroyed = false := by
    have hlisted := h.listed
    simp_all [Command.isListed, Command.isDestroyed]
  have htarget : s.target event = .ok (.sink (.caller event.client.name)) := by
    rw [Setup.target, h.mode]
  rw [← hgrammar] at hwalk
  rw [← hrecord]
  exact ⟨evaluate_of_ready s hknown hwalk (hverdict _), rfl, hknown, halive, htarget⟩

/-- **What comes of `help` is what comes of its turn.** -/
theorem answers (hu : (id, u) ∈ s.turns depth event word [] w) {r : Except Failure Value}
    {texts : List String} {v : World σ}
    (hhelp : s.Performs (s.scene depth event (.sink (.caller event.client.name)))
      [("filter", .null)] Handbook.help (s.begun depth event [] id c [("filter", .null)] u) r
      (uttered texts) v) :
    let turn := s.attend depth (s.below depth) event [] id
    turn.result u = answered id [("filter", .null)] r ∧
      s.saidInTurn depth event [] id u = uttered texts ∧
      replies depth (turn.deeds u) =
        texts.map (fun text => ⟨.caller event.client.name, text, none⟩) ∧
      notices depth (turn.deeds u) =
        ((answered id [("filter", .null)] r).notice? event.client).toList := by
  have hact : s.act c.handler ⟨event.client, event.text, [("filter", .null)]⟩ = Handbook.help := by
    rw [h.handler, act]
  rw [← hact] at hhelp
  exact (h.ready hu).answers h.reaches hhelp

/-- **If no predicate raises, everything is listed that a pass would let through.** -/
theorem lists (hu : (id, u) ∈ s.turns depth event word [] w)
    (hanswers : s.Answers event.client u.registry) :
    let turn := s.attend depth (s.below depth) event [] id
    ∃ ids heading lines,
      s.Catalogue (s.scene depth event (.sink (.caller event.client.name))) u.registry ids heading
        lines ∧
      turn.result u = answered id [("filter", .null)] (.ok .null) ∧
      s.saidInTurn depth event [] id u = uttered (heading :: lines) ∧
      replies depth (turn.deeds u) =
        (heading :: lines).map (fun text => ⟨.caller event.client.name, text, none⟩) ∧
      notices depth (turn.deeds u) = [] := by
  intro turn
  let scene := s.scene depth event (.sink (.caller event.client.name))
  let v := s.begun depth event [] id c [("filter", .null)] u
  let ids := s.directory event.client v fun _ => true
  have hkept : v.registry = u.registry := begun_registry
  have hheard : ∀ text, (s.reply depth event (.sink (.caller event.client.name)) text).Returns :=
    fun text w => ⟨(), h.reaches.send depth .reply text w⟩
  have hhelp : ∃ heading lines z,
      s.Roll scene (ids.filterMap v.registry.command?)
        ((s.admitted event.client v.registry.enabled).after v) heading lines ∧
      s.Performs scene [("filter", .null)] Handbook.help v (.ok .null)
        (uttered (heading :: lines)) z :=
    help_tells [("filter", .null)] h.fluent hheard (hkept ▸ hanswers) (.falsy rfl)
  obtain ⟨heading, lines, z, hroll, hperforms⟩ := hhelp
  have hknown : List.Forall₂ (fun i d => v.registry.command? i = some d) ids
      (ids.filterMap v.registry.command?) := directory_known
  have horder : ids.Sublist v.registry.order := directory_sublist_order
  rw [hkept] at hroll hknown horder
  have hthrough : s.LetThrough event.client u.registry ids :=
    fun i d hd line named v' hclient hv hnamed =>
      h.steady.mem_directory_iff_candidate hclient (hv.trans hkept.symm) (hkept ▸ hd) hnamed
  exact ⟨ids, heading, lines,
    ⟨⟨_, hroll⟩, hknown, hroll.length_eq.trans hknown.length_eq.symm, horder, hthrough⟩,
    h.answers hu hperforms⟩

/-- **If a predicate raises, nothing is listed.** -/
theorem gives_up (hu : (id, u) ∈ s.turns depth event word [] w)
    (hraises : ¬ s.Answers event.client u.registry) :
    let turn := s.attend depth (s.below depth) event [] id
    ∃ e, turn.result u = answered id [("filter", .null)] (.error e) ∧
      s.saidInTurn depth event [] id u = [] ∧ replies depth (turn.deeds u) = [] ∧
      notices depth (turn.deeds u) =
        [⟨.caller event.client.name, (handlerFault id).render, none⟩] := by
  intro turn
  have hkept : (s.begun depth event [] id c [("filter", .null)] u).registry = u.registry :=
    begun_registry
  have hgives : ∃ e v, s.Performs (s.scene depth event (.sink (.caller event.client.name)))
      [("filter", .null)] Handbook.help (s.begun depth event [] id c [("filter", .null)] u)
      (.error e) (uttered []) v := help_gives_up h.steady (hkept ▸ hraises)
  obtain ⟨e, v, hhelp⟩ := hgives
  exact ⟨e, h.answers hu hhelp⟩

end Consults

/-- **A turn is part of its pass**: what it gives is among what the pass gives, and its deeds stand
together among the deeds of the pass. -/
theorem dispatchWithin_of_turn {depth : Nat} {event : Event} {word : String} {text : List Char}
    {id : CommandId} {w u : World σ} (hheard : s.heard event w = some (word, text))
    (hu : (id, u) ∈ s.turns depth event word text w) :
    let turn := s.attend depth (s.below depth) event text id
    ∃ outcomes, (s.dispatchWithin depth event).result w = .ok outcomes ∧
      turn.result u ∈ outcomes ∧ turn.deeds u <:+: (s.dispatchWithin depth event).deeds w := by
  intro turn
  have hsome : s.candidates event word w ≠ [] :=
    List.ne_nil_of_mem (mem_candidates_of_mem_turns hu)
  obtain ⟨hresult, hdeeds⟩ := dispatchWithin_of_candidates hheard hsome depth
  refine ⟨_, hresult, List.mem_map.mpr ⟨(id, u), hu, rfl⟩, ?_⟩
  obtain ⟨before, after, hturns⟩ := List.append_of_mem hu
  rw [hdeeds, hturns, List.flatMap_append, List.flatMap_cons]
  exact ⟨_, _, List.append_assoc _ _ _⟩

/-- **`help` lists what a pass would let through, unless a predicate raises.**  A private line that
asks `help` for everything comes to the turn of `help`.  If no predicate of an enabled command
raises, the caller is sent a listing: of the commands with a help text that are candidates of any
line of the same caller that calls for them, and of no others, in the order of the registry.  If one
raises, of whatever enabled command, `help` fails; the caller is told so, and nothing is listed. -/
theorem help_agrees (s : Setup σ) {depth : Nat} {event : Event} {word : String} {id : CommandId}
    {c : Command} {w : World σ} (h : s.Consults depth event word id c w) :
    let client := event.client
    let turn := s.attend depth (s.below depth) event [] id
    ∃ u outcomes, (id, u) ∈ s.turns depth event word [] w ∧
      (s.dispatchWithin depth event).result w = .ok outcomes ∧ turn.result u ∈ outcomes ∧
      turn.deeds u <:+: (s.dispatchWithin depth event).deeds w ∧
      (turn.result u).command = some id ∧ (turn.result u).invoked = true ∧
      (turn.result u).error = none ∧
      (s.Answers client u.registry → (turn.result u).fault = none ∧
        ∃ ids heading lines,
          s.Catalogue (s.scene depth event (.sink (.caller client.name))) u.registry ids heading
            lines ∧
          s.saidInTurn depth event [] id u = uttered (heading :: lines) ∧
          replies depth (turn.deeds u) =
            (heading :: lines).map (fun text => ⟨.caller client.name, text, none⟩) ∧
          notices depth (turn.deeds u) = []) ∧
      (¬ s.Answers client u.registry → (turn.result u).fault = some (handlerFault id) ∧
        s.saidInTurn depth event [] id u = [] ∧ replies depth (turn.deeds u) = [] ∧
        notices depth (turn.deeds u) =
          [⟨.caller client.name, (handlerFault id).render, none⟩]) := by
  intro client turn
  obtain ⟨u, hu⟩ := h.exists_turn
  obtain ⟨outcomes, hresult, hmem, hinfix⟩ := dispatchWithin_of_turn h.heard hu
  refine ⟨u, outcomes, hu, hresult, hmem, hinfix, ?_⟩
  by_cases hanswers : s.Answers client u.registry
  · obtain ⟨ids, heading, lines, hcatalogue, hturn, htold⟩ := h.lists hu hanswers
    rw [hturn]
    exact ⟨rfl, rfl, rfl, fun _ => ⟨rfl, ids, heading, lines, hcatalogue, htold⟩,
      fun hnot => absurd hanswers hnot⟩
  · obtain ⟨e, hturn, htold⟩ := h.gives_up hu hanswers
    rw [hturn]
    exact ⟨rfl, rfl, rfl, fun hyes => absurd hyes hanswers, fun _ => ⟨rfl, htold⟩⟩

/-! ### A switchboard with the handbook and one more command -/

/-- The turn of the only command that a word calls for comes when the candidates are known. -/
theorem turn_of_only {depth : Nat} {event : Event} {word : String} {text : List Char}
    {id : CommandId} {w u : World σ} (honly : w.registry.find word = [id])
    (hu : (id, u) ∈ s.turns depth event word text w) : u = s.gathered event word w := by
  have hcandidates : s.candidates event word w = [id] := by
    have hsub := candidates_sublist (s := s) event word w
    rw [honly, List.sublist_singleton] at hsub
    exact hsub.resolve_left (List.ne_nil_of_mem (mem_candidates_of_mem_turns hu))
  rw [turns, hcandidates] at hu
  cases List.mem_singleton.mp hu
  rfl

/-- The commands of the handbook behind one whose predicate is asked. -/
def guarded : Registry :=
  (Handbook.install { commands := [
    { name := "ale", helpText := "a drink", standing := .listed,
      permission := some (.host 0) }] }).1

/-- A host whose predicates all give one answer. -/
def answering (answer : Except Failure Value) : Setup Rehearsal.Cast where
  host := { Rehearsal.host fun _ => "" with
    permits := fun _ _ cast => (answer, cast)
    deliver := fun _ _ cast => (.ok (), cast) }

/-- Predicates that all give a truth value answer whoever asks. -/
theorem answers_rehearsed (allowed : Bool) (client : Client) (r : Registry) :
    (answering (.ok (.bool allowed))).Answers client r := by
  intro i d _ _ _ v
  unfold permits
  cases d.permission with
  | none => exact ⟨true, rfl⟩
  | some a =>
      cases a with
      | constant value => exact ⟨value.isTrue, rfl⟩
      | host k => exact ⟨allowed, rfl⟩

/-- A caller who asks `help` for everything. -/
theorem consults_rehearsed (answer : Except Failure Value) :
    (answering answer).Consults nestingLimit { text := .text "!help", client := { name := "ann" } }
      "help" 1 { Handbook.helpCommand with standing := .listed, grammar := [0] }
      { registry := guarded, memory := {} } := by
  have honly : guarded.find "help" = [1] := by decide
  have hkept : ∀ u, (1, u) ∈ (answering answer).turns nestingLimit
      { text := .text "!help", client := { name := "ann" } } "help" []
        { registry := guarded, memory := {} } →
      u.registry.command? 1 =
        some { Handbook.helpCommand with standing := .listed, grammar := [0] } ∧
      u.registry.grammar { Handbook.helpCommand with standing := .listed, grammar := [0] } =
        [Handbook.filterArgument] := by
    intro u hu
    have hregistry : u.registry = guarded := by
      rw [turn_of_only honly hu]
      exact (gathered_calm _ _ _).1
    rw [hregistry]
    exact ⟨rfl, rfl⟩
  exact {
    heard := rfl
    called := by
      rw [honly]
      exact .head _
    known := rfl
    handler := rfl
    granted := rfl
    steady := fun _ _ _ => rfl
    fluent := fun _ => .pure _
    reaches := fun _ _ => rfl
    mode := rfl
    kept := hkept }

/-- A predicate that denies takes its command off the list, and leaves the others on it. -/
theorem help_agrees_rehearsed :
    let s := answering (.ok (.bool false))
    let event : Event := { text := .text "!help", client := { name := "ann" } }
    let help : Command := { Handbook.helpCommand with standing := .listed, grammar := [0] }
    let w : World Rehearsal.Cast := { registry := guarded, memory := {} }
    s.Consults nestingLimit event "help" 1 help w ∧
      ∃ (u : World Rehearsal.Cast) (ids : List CommandId) (heading : String) (lines : List String),
        (1, u) ∈ s.turns nestingLimit event "help" [] w ∧
        s.saidInTurn nestingLimit event [] 1 u = uttered (heading :: lines) ∧
        lines.length = ids.length ∧ 0 ∉ ids ∧ 1 ∈ ids ∧ 2 ∈ ids := by
  intro s event help w
  have hconsults : s.Consults nestingLimit event "help" 1 help w := consults_rehearsed _
  obtain ⟨u, outcomes, hu, -, -, -, -, -, -, hlists, -⟩ := help_agrees s hconsults
  have hregistry : u.registry = guarded := by
    rw [turn_of_only (by decide) hu]
    exact (gathered_calm _ _ _).1
  have hanswers : s.Answers event.client u.registry := answers_rehearsed false _ _
  obtain ⟨-, ids, heading, lines, hcatalogue, hsaid, -⟩ := hlists hanswers
  have hthrough := hcatalogue.through
  rw [hregistry] at hthrough
  refine ⟨hconsults, u, ids, heading, lines, hu, hsaid, hcatalogue.length_eq, ?_, ?_, ?_⟩
  · rw [hthrough 0 _ rfl event "ale" w rfl rfl (by decide)]
    decide +kernel
  · rw [hthrough 1 _ rfl event "help" w rfl rfl (by decide)]
    decide +kernel
  · rw [hthrough 2 _ rfl event "man" w rfl rfl (by decide)]
    decide +kernel

/-- A predicate that raises keeps `help` from listing anything, though a pass lets the caller use
both commands of the handbook. -/
theorem not_help_agrees_rehearsed :
    let s := answering (.error (.raised "RuntimeError" "predicate failed"))
    let event : Event := { text := .text "!help", client := { name := "ann" } }
    let help : Command := { Handbook.helpCommand with standing := .listed, grammar := [0] }
    let w : World Rehearsal.Cast := { registry := guarded, memory := {} }
    s.Consults nestingLimit event "help" 1 help w ∧
      s.candidates event "help" w = [1] ∧ s.candidates event "man" w = [2] ∧
      s.candidates event "ale" w = [] ∧
      ∃ u, (1, u) ∈ s.turns nestingLimit event "help" [] w ∧
        ((s.attend nestingLimit (s.below nestingLimit) event [] 1).result u).fault =
          some (handlerFault 1) ∧
        s.saidInTurn nestingLimit event [] 1 u = [] := by
  intro s event help w
  have hconsults : s.Consults nestingLimit event "help" 1 help w := consults_rehearsed _
  obtain ⟨u, hu⟩ := hconsults.exists_turn
  have hregistry : u.registry = guarded := by
    rw [turn_of_only (by decide) hu]
    exact (gathered_calm _ _ _).1
  have hraises : ¬ s.Answers event.client u.registry := by
    rw [hregistry]
    intro hanswers
    obtain ⟨allowed, hallowed⟩ := hanswers 0 _ rfl rfl rfl w
    cases hallowed
  obtain ⟨e, hturn, hsaid, -⟩ := hconsults.gives_up hu hraises
  refine ⟨hconsults, by decide +kernel, by decide +kernel, by decide +kernel, u, hu, ?_, hsaid⟩
  rw [hturn]
  rfl

end Switchboard.Setup
