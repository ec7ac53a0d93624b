import Switchboard.Proofs.Addressing
import Switchboard.Proofs.Directory
import Switchboard.Proofs.Primitives
import Switchboard.Proofs.Repetition

/-!
# Proofs — Enquiry

A line that asks `help` about a filter, in the private chat of a caller.  The filter is whatever the
caller types, and it is read as a pattern only when `help` is at work.  If it is no pattern because
it breaks a rule of the syntax, it is looked for as it stands, and `help` lists what it finds.  If
it is no pattern for another reason, `help` fails, and the caller hears no more than that.

* `Handbook.along_token`: what is recorded of a token.
* `Registry.Helps`, `helps_install`: `help` is all that its word calls for.
* `Handbook.not_usable_count`: filters that cannot be looked for.
* `Asks`: a line that asks about a filter, where nothing that `help` relies on fails.
* `Asks.heard`, `Asks.candidates`, `Asks.ready`: the line leads to the handler.
* `Asks.listed`, `Asks.failed`: what comes of the handler.
* `help_answers`: `help` answers exactly those who ask about a filter that can be looked for, but
  for the interpreter's bound on recursion.
-/

namespace Switchboard

/-! ### The command `help` -/

namespace Handbook

/-- The commands of the handbook read a token. -/
theorem token_accepts (label : Label) {token : String} (hne : token ≠ "")
    (htoken : ∀ x ∈ token.toList, x ≠ ' ') :
    (Argument.string label { minimum := some 1 }).validate token.toList =
      .ok (.text token, []) := by
  refine Argument.string_accepts.mpr ?_
  rw [Text.splitToken_token htoken]
  exact ⟨⟨by simpa [TextRule.fault?, TextRule.forced] using hne, rfl⟩, by simp [TextRule.forced],
    rfl⟩

/-- A token is all that is recorded, and nothing is left. -/
theorem along_token (label : Label) {token : String} (hne : token ≠ "")
    (htoken : ∀ x ∈ token.toList, x ≠ ' ') :
    Walk.along [.string label { minimum := some 1 }] token.toList =
      .ok { record := [(label.name, .text token)], left := [] } := by
  rw [Walk.along, Walk.steps, Walk.step_of_accepts rfl (token_accepts label hne htoken)]
  rfl

/-- **A count beyond the greatest one cannot be looked for**, and no more can one that is too long
to be read: neither is a pattern, and neither breaks a rule of the syntax. -/
theorem not_usable_count {digits : List Char} (hdigits : ∀ c ∈ digits, c.isDigit = true)
    (hgreat : Pattern.repetitionBound ≤ Text.asciiNumber digits) :
    ¬ Usable ("\x7b" ++ String.ofList digits ++ "\x7d") := by
  intro h
  by_cases hlength : digits.length ≤ 4300
  · cases h _ (Pattern.compile_great hdigits _ rfl hlength hgreat)
  · cases h _ (Pattern.compile_long hdigits _ rfl (Nat.lt_of_not_le hlength))

end Handbook

namespace Registry

/-- The command `help` as it was installed, and all that its word calls for. -/
structure Helps (r : Registry) (id : CommandId) (c : Command) : Prop where
  only : r.find "help" = [id]
  known : r.command? id = some c
  grammar : r.grammar c = [Handbook.filterArgument]
  handler : c.handler = .help

/-- **Installing the handbook makes `help` what its word calls for**, if nothing answered to the
word before. -/
theorem helps_install {r : Registry} (h : r.find "help" = []) :
    (Handbook.install r).1.Helps r.commands.length
      { Handbook.helpCommand with standing := .listed, grammar := [r.arguments.length] } := by
  let r₁ := (Handbook.add r Handbook.helpCommand Handbook.filterArgument).1
  have hhelp : r₁.find "help" = [r.commands.length] := by
    rw [find, listedWhere_of_append (r := r) rfl, ← find, h]
    rfl
  have hman : (Handbook.install r).1.find "help" = r₁.find "help" := by
    rw [find, listedWhere_of_append (r := r₁) rfl, ← find]
    exact List.append_nil _
  constructor
  · exact hman.trans hhelp
  · simp [Handbook.install, Handbook.add, command?]
  · simp [Handbook.install, Handbook.add, grammar, argument?]
  · rfl

variable {r : Registry} {id : CommandId} {c : Command}

/-- A command that comes up for a word is listed. -/
theorem Helps.listed (h : r.Helps id c) : c.isListed = true := by
  have hmem : id ∈ r.find "help" := by
    rw [h.only]
    exact .head _
  obtain ⟨c', hc', hlisted, -⟩ := mem_find.mp hmem
  cases hc'.symm.trans h.known
  exact hlisted

end Registry

namespace Setup

variable {σ : Type} {s : Setup σ}

/-! ### A caller who can be reached -/

/-- The private chat of a client takes every text. -/
def Reaches (s : Setup σ) (client : Client) : Prop :=
  ∀ text memory, (s.host.deliver (.caller client.name) text memory).1 = .ok ()

section

variable {client : Client} (h : s.Reaches client)

include h

theorem Reaches.send (depth : Nat) (origin : Origin) (text : String) (w : World σ) :
    (s.send depth origin (.caller client.name) text).result w = .ok () :=
  h text w.memory

/-- A client who can be reached is told every fault. -/
theorem Reaches.notify (depth : Nat) (fault : Fault) (w : World σ) :
    (s.notify depth client fault).result w = none := by
  simp [Setup.notify, Step.result_bind, h.send]

end

/-- A client who can be reached is told that a handler failed. -/
theorem Reaches.failed {event : Event} (h : s.Reaches event.client) (depth : Nat)
    (id : CommandId) (c : Command) (record : Record) (e : Failure) (w : World σ) :
    (s.failed depth event id c record e).result w =
      { command := some id, record, invoked := true, fault := some (handlerFault id),
        timed := true } := by
  simp [Setup.failed, Step.result_bind, h.notify, -bind_pure_comp]

/-! ### The line -/

/-- **A line of a word and a text**: the marker, the word, a space, and the text. -/
theorem heard_spaced {event : Event} {marker word text : String} (hmarker : s.marker = pure marker)
    (hothers : event.isSelf = false)
    (hline : event.text = .text (marker ++ word ++ " " ++ text)) (hword : Text.Wordlike word)
    (hfirst : ∀ x ∈ text.toList.head?, x ≠ ' ')
    (hlast : ∀ x ∈ text.toList.getLast?, Line.isLineEnd x = false) (w : World σ) :
    s.heard event w = some (word, text.toList) := by
  have hkept : (Text.dropEndWhile Line.isLineEnd text.toList).dropWhile (· == ' ') =
      text.toList := by
    rw [Text.dropEndWhile_of_last hlast]
    exact (Text.dropWhile_of_head fun x hx => by simpa using hfirst x hx).1
  have htext : (marker ++ word ++ " " ++ text).toList =
      marker.toList ++ word.toList ++ ' ' :: text.toList := by simp
  refine heard_eq_some.mpr ⟨hothers, ?_⟩
  rw [hline, split?, hmarker, pure_bind, htext, Line.split?_spaced hword, hkept]
  simp

/-- **A line that asks `help` about a filter**: it is private, and what stands behind the word is a
token.  Nothing that `help` relies on fails: the caller may use it and can be reached, and neither
the predicates that it asks nor the formatter raise. -/
structure Asks (s : Setup σ) (event : Event) (marker filter : String) (id : CommandId)
    (c : Command) (w : World σ) : Prop where
  helps : w.registry.Helps id c
  fixed : s.marker = pure marker
  fluent : s.Fluent
  predicates : ∀ i d, w.registry.command? i = some d → d.isListed = true → d.enabled = true →
    (s.permits d event.client).Returns
  granted : s.Grants event.client id (s.searched event w)
  reaches : s.Reaches event.client
  /-- The switchboard did not write the line itself. -/
  others : event.isSelf = false
  mode : event.mode.mode? = some .caller
  line : event.text = .text (marker ++ "help" ++ " " ++ filter)
  nonempty : filter ≠ ""
  token : ∀ x ∈ filter.toList, x ≠ ' ' ∧ Line.isLineEnd x = false

namespace Asks

variable {event : Event} {marker filter : String} {id : CommandId} {c : Command} {w : World σ}
  (h : s.Asks event marker filter id c w)

include h

theorem heard : s.heard event w = some ("help", filter.toList) := by
  have hword : Text.Wordlike "help" := List.all_eq_true.mp (by decide)
  exact heard_spaced h.fixed h.others h.line hword
    (fun x hx => (h.token x (List.mem_of_mem_head? hx)).1)
    (fun x hx => (h.token x (List.mem_of_mem_getLast? hx)).2) w

theorem candidates : s.candidates event "help" w = [id] := by
  have hpolls : s.polls event "help" w = [(id, s.searched event w)] := by
    rw [polls, h.helps.only]
    rfl
  have hadmits : (s.admits event.client id).result (s.searched event w) = true :=
    admits_result.mpr h.granted
  simp [Setup.candidates, hpolls, hadmits]

theorem target : s.target event = .ok (.sink (.caller event.client.name)) := by
  rw [Setup.target, h.mode]

/-- **The line leads to the handler of `help`**, with the filter as all that is recorded. -/
theorem ready :
    s.Ready event filter.toList id (s.gathered event "help" w) c
      { command := some id, record := [("filter", .text filter)] }
      (.sink (.caller event.client.name)) := by
  have hregistry : (s.gathered event "help" w).registry = w.registry := (gathered_calm _ _ _).1
  have hknown : (s.gathered event "help" w).registry.command? id = some c :=
    hregistry ▸ h.helps.known
  have hwalk : Walk.along ((s.gathered event "help" w).registry.grammar c) filter.toList =
      .ok { record := [("filter", .text filter)], left := [] } := by
    rw [hregistry, h.helps.grammar]
    exact Handbook.along_token _ h.nonempty fun x hx => (h.token x hx).1
  have halive : c.isDestroyed = false := by
    have hlisted := h.helps.listed
    simp_all [Command.isListed, Command.isDestroyed]
  exact ⟨evaluate_of_ready s hknown hwalk rfl, rfl, hknown, halive, h.target⟩

/-- The caller takes every reply. -/
theorem heeded (depth : Nat) (text : String) :
    (s.reply depth event (.sink (.caller event.client.name)) text).Returns :=
  fun w => ⟨(), h.reaches.send depth .reply text w⟩

end Asks

/-! ### What comes of the handler -/

section

variable (s) (depth : Nat) (event : Event) (filter : String) (id : CommandId) (w : World σ)

/-- The world in which the handler begins, once a line has asked about a filter. -/
def enquired : World σ :=
  (Step.note (.called depth id .help ⟨event.client, event.text, [("filter", .text filter)]⟩)).after
    (s.evaluated id filter.toList (s.gathered event "help" w))

theorem enquired_registry : (s.enquired depth event filter id w).registry = w.registry :=
  evaluated_calm.1.trans (gathered_calm _ _ _).1

end

namespace Asks

variable {event : Event} {marker filter : String} {id : CommandId} {c : Command} {w : World σ}
  (h : s.Asks event marker filter id c w)

include h

/-- **A filter that can be looked for is answered** with a listing of what it is found in. -/
theorem listed (husable : Handbook.Usable filter) (depth : Nat) :
    let client := event.client
    let scene := s.scene depth event (.sink (.caller client.name))
    let v := s.enquired depth event filter id w
    ∃ test heading lines u, Handbook.Finds filter test ∧
      s.Listing scene marker ((s.directory client v test).filterMap w.registry.command?)
        ((s.admitted client w.registry.enabled).after v) heading lines ∧
      s.Performs scene [("filter", .text filter)] Handbook.help v (.ok .null)
        (uttered (heading :: lines)) u := by
  intro client scene v
  have hkept : v.registry = w.registry := enquired_registry s depth event filter id w
  obtain ⟨test, hseeks, hfinds⟩ := husable.exists_seeks h.nonempty
  have hhelp : ∃ heading lines u,
      s.Listing scene marker ((s.directory client v test).filterMap v.registry.command?)
        ((s.admitted client v.registry.enabled).after v) heading lines ∧
      s.Performs scene [("filter", .text filter)] Handbook.help v (.ok .null)
        (uttered (heading :: lines)) u :=
    help_performs [("filter", .text filter)] h.fluent (h.heeded depth) h.fixed
      (hkept ▸ h.predicates) hseeks
  obtain ⟨heading, lines, u, hlisting, hperforms⟩ := hhelp
  rw [hkept] at hlisting
  exact ⟨test, heading, lines, u, hfinds, hlisting, hperforms⟩

/-- **A filter that cannot be looked for makes `help` fail**, before it has said anything. -/
theorem failed (hunusable : ¬ Handbook.Usable filter) (depth : Nat) :
    let scene := s.scene depth event (.sink (.caller event.client.name))
    ∃ e u, s.Performs scene [("filter", .text filter)] Handbook.help
      (s.enquired depth event filter id w) (.error e) [] u := by
  intro scene
  have hkept := enquired_registry s depth event filter id w
  have hhelp : ∃ e, s.Performs scene [("filter", .text filter)] Handbook.help
      (s.enquired depth event filter id w) (.error e) [] _ :=
    help_fails (hkept ▸ h.predicates) rfl h.nonempty hunusable
  exact hhelp.imp fun _ hperforms => ⟨_, hperforms⟩

end Asks

/-! ### What comes of the line -/

section

variable {depth : Nat} {event : Event} {word : String} {text : List Char} {id : CommandId}
  {u w : World σ}

/-- **A pass with one candidate is its turn.** -/
theorem dispatchWithin_of_one (hheard : s.heard event w = some (word, text))
    (hone : s.candidates event word w = [id]) (depth : Nat) :
    let u := s.gathered event word w
    let turn := s.attend depth (s.below depth) event text id
    (s.dispatchWithin depth event).result w = .ok [turn.result u] ∧
      (s.dispatchWithin depth event).deeds w = turn.deeds u ∧
      s.utterances depth event w = s.saidInTurn depth event text id u := by
  intro u turn
  have hturns : s.turns depth event word text w = [(id, u)] := by
    rw [turns, hone]
    rfl
  obtain ⟨hresult, hdeeds⟩ := dispatchWithin_of_candidates hheard (by simp [hone]) depth
  rw [hturns] at hresult hdeeds
  refine ⟨hresult, hdeeds.trans (List.flatMap_singleton _ _), ?_⟩
  rw [utterances_of_heard hheard, hturns, List.flatMap_singleton]

/-- The notice of a turn is the fault of its outcome, if it has one. -/
theorem notices_attend (s : Setup σ) (depth : Nat) (event : Event) (text : List Char)
    (id : CommandId) (u : World σ) :
    let turn := s.attend depth (s.below depth) event text id
    notices depth (turn.deeds u) = ((turn.result u).notice? event.client).toList := by
  intro turn
  obtain ⟨r, hr, hsettles⟩ := attend_ends s depth event text id u
  rw [hsettles.notices_eq, ← hr]

/-- The outcome of a command whose handler was called, if its caller was told that it failed. -/
def answered (id : CommandId) (record : Record) (r : Except Failure Value) : Outcome where
  command := some id
  record
  invoked := true
  fault := match r with
    | .ok _ => none
    | .error _ => some (handlerFault id)
  timed := true

/-- **The turn of a handler that is called** comes to the outcome of the call, if the caller can be
told about a failure. -/
theorem Ready.attend_answered {c : Command} {o : Outcome} {target : Target} {record : Record}
    (h : s.Ready event text id u c o target) (hreaches : s.Reaches event.client)
    {r : Except Failure Value}
    (hcall : (s.call (s.scene depth event target) id c o.record).result
      (s.evaluated id text u) = (r, record)) :
    (s.attend depth (s.below depth) event text id).result u = answered id record r := by
  obtain ⟨hsettle, -⟩ := settle_of_faultless depth event h.evaluates h.faultless h.known
    (s.below depth)
  simp only [h.alive, Bool.false_eq_true, if_false, Run.result_lift] at hsettle
  rw [attend_result, hsettle]
  cases r with
  | ok v =>
      rw [(invoke_completed h.reachable hcall).1]
      rfl
  | error e =>
      simp only [scene] at hcall
      simp only [invoke, h.reachable, Step.result_bind, hcall, hreaches.failed]
      rfl

/-- The world in which the handler of a command begins, once its text has been evaluated. -/
def begun (s : Setup σ) (depth : Nat) (event : Event) (text : List Char) (id : CommandId)
    (c : Command) (record : Record) (u : World σ) : World σ :=
  (Step.note (.called depth id c.handler ⟨event.client, event.text, record⟩)).after
    (s.evaluated id text u)

theorem begun_registry {c : Command} {record : Record} :
    (s.begun depth event text id c record u).registry = u.registry :=
  evaluated_calm.1

/-- **What comes of the handler is what comes of the turn**, if replies go to a caller who can be
reached. -/
theorem Ready.answers {c : Command} {o : Outcome}
    (h : s.Ready event text id u c o (.sink (.caller event.client.name)))
    (hreaches : s.Reaches event.client) {r : Except Failure Value} {texts : List String}
    {v : World σ}
    (hact : s.Performs (s.scene depth event (.sink (.caller event.client.name))) o.record
      (s.act c.handler ⟨event.client, event.text, o.record⟩)
      (s.begun depth event text id c o.record u) r (uttered texts) v) :
    let turn := s.attend depth (s.below depth) event text id
    turn.result u = answered id o.record r ∧
      s.saidInTurn depth event text id u = uttered texts ∧
      replies depth (turn.deeds u) =
        texts.map (fun text => ⟨.caller event.client.name, text, none⟩) ∧
      notices depth (turn.deeds u) =
        ((answered id o.record r).notice? event.client).toList := by
  intro turn
  have hturn : turn.result u = answered id o.record r := h.attend_answered hreaches hact.result
  have hsays : s.saidInTurn depth event text id u = uttered texts :=
    (saidInTurn_of_ready h).trans hact.said
  have hsink : s.replySink? event = some (.caller event.client.name) :=
    (target_sink? h.reachable).symm
  rw [replies_attend, hsays, hsink, messages_uttered, notices_attend, hturn]
  exact ⟨rfl, rfl, rfl, rfl⟩

end

section

variable {event : Event} {marker filter : String} {id : CommandId} {c : Command} {w : World σ}

/-- **What comes of `help` is what comes of the line.** -/
theorem Asks.answers (h : s.Asks event marker filter id c w) {depth : Nat}
    {r : Except Failure Value} {texts : List String} {u : World σ}
    (hhelp : s.Performs (s.scene depth event (.sink (.caller event.client.name)))
      [("filter", .text filter)] Handbook.help (s.enquired depth event filter id w) r
      (uttered texts) u) :
    (s.dispatchWithin depth event).result w =
        .ok [answered id [("filter", .text filter)] r] ∧
      s.utterances depth event w = uttered texts ∧
      replies depth ((s.dispatchWithin depth event).deeds w) =
        texts.map (fun text => ⟨.caller event.client.name, text, none⟩) ∧
      notices depth ((s.dispatchWithin depth event).deeds w) =
        ((answered id [("filter", .text filter)] r).notice? event.client).toList := by
  have hbegun : s.enquired depth event filter id w =
      s.begun depth event filter.toList id c [("filter", .text filter)]
        (s.gathered event "help" w) := by
    rw [begun, h.helps.handler]
    rfl
  have hact : s.act c.handler ⟨event.client, event.text, [("filter", .text filter)]⟩ =
      Handbook.help := by rw [h.helps.handler, act]
  rw [hbegun, ← hact] at hhelp
  obtain ⟨hresult, hdeeds, hutterances⟩ := dispatchWithin_of_one h.heard h.candidates depth
  obtain ⟨hturn, hsays, hreplies, hnotices⟩ := h.ready.answers h.reaches hhelp
  rw [hresult, hdeeds, hutterances, hturn, hsays, hreplies, hnotices]
  exact ⟨rfl, rfl, rfl, rfl⟩

/-- **`help` answers exactly those who ask about a filter that can be looked for.**  The line comes
to one outcome, of a call of `help` with the filter as it was typed.  If the filter is a pattern, or
breaks a rule of the syntax, the handler completes, and the caller gets a listing of the commands
that it is found in: as a pattern, or as it stands.  If the filter is no pattern for another reason,
the handler fails, the caller is told so, and gets nothing else.  The reader of patterns has no bound
on its recursion here; an interpreter has one, and fails in the same way over a filter with some 500
groups inside one another, pattern or not. -/
theorem help_answers (s : Setup σ) (h : s.Asks event marker filter id c w) (depth : Nat) :
    let client := event.client
    let scene := s.scene depth event (.sink (.caller client.name))
    let v := s.enquired depth event filter id w
    ∃ o texts, (s.dispatchWithin depth event).result w = .ok [o] ∧
      o.command = some id ∧ o.invoked = true ∧ o.record = [("filter", .text filter)] ∧
      o.error = none ∧
      s.utterances depth event w = uttered texts ∧
      replies depth ((s.dispatchWithin depth event).deeds w) =
        texts.map (fun text => ⟨.caller client.name, text, none⟩) ∧
      notices depth ((s.dispatchWithin depth event).deeds w) = (o.notice? client).toList ∧
      (Handbook.Usable filter → o.fault = none ∧
        ∃ test heading lines, texts = heading :: lines ∧ Handbook.Finds filter test ∧
          s.Listing scene marker ((s.directory client v test).filterMap w.registry.command?)
            ((s.admitted client w.registry.enabled).after v) heading lines) ∧
      (¬ Handbook.Usable filter → o.fault = some (handlerFault id) ∧ texts = []) := by
  intro client scene v
  by_cases husable : Handbook.Usable filter
  · obtain ⟨test, heading, lines, u, hfinds, hlisting, hhelp⟩ := h.listed husable depth
    obtain ⟨hresult, hutterances, hreplies, hnotices⟩ := h.answers hhelp
    exact ⟨_, _, hresult, rfl, rfl, rfl, rfl, hutterances, hreplies, hnotices,
      fun _ => ⟨rfl, test, heading, lines, rfl, hfinds, hlisting⟩, fun hnot => absurd husable hnot⟩
  · obtain ⟨e, u, hhelp⟩ := h.failed husable depth
    have hsilent : s.Performs scene [("filter", .text filter)] Handbook.help v (.error e)
        (uttered []) u := hhelp
    obtain ⟨hresult, hutterances, hreplies, hnotices⟩ := h.answers hsilent
    exact ⟨_, _, hresult, rfl, rfl, rfl, rfl, hutterances, hreplies, hnotices,
      fun hyes => absurd hyes husable, fun _ => ⟨rfl, rfl⟩⟩

end

/-! ### A switchboard with the handbook -/

section

variable {filter : String} (hfilter : filter ≠ "")
  (htoken : filter.toList.all (fun x => x != ' ' && !Line.isLineEnd x) = true)

include hfilter htoken

/-- A caller of a switchboard that has the handbook and nothing else. -/
theorem asks_rehearsed :
    let s : Setup Rehearsal.Cast :=
      { host := { Rehearsal.host fun _ => "" with deliver := fun _ _ cast => (.ok (), cast) } }
    let event : Event :=
      { text := .text ("!" ++ "help" ++ " " ++ filter), client := { name := "ann" } }
    let w : World Rehearsal.Cast := { registry := (Handbook.install {}).1, memory := {} }
    s.Asks event "!" filter 0 { Handbook.helpCommand with standing := .listed, grammar := [0] }
      w := by
  intro s event w
  have hpredicates : ∀ i d, w.registry.command? i = some d → d.isListed = true →
      d.enabled = true → (s.permits d event.client).Returns := by
    intro i d hd _ _
    have hnone : d.permission = none := by
      rcases i with _ | _ | i
      all_goals cases hd
      all_goals rfl
    rw [permits, hnone]
    exact .pure true
  exact {
    helps := Registry.helps_install rfl
    fixed := rfl
    fluent := fun _ => .pure _
    predicates := hpredicates
    granted := ⟨_, rfl, rfl⟩
    reaches := fun _ _ => rfl
    others := rfl
    mode := rfl
    line := rfl
    nonempty := hfilter
    token := by simpa using htoken }

end

/-- A filter that breaks a rule of the syntax is answered. -/
theorem help_answers_rehearsed :
    let s : Setup Rehearsal.Cast :=
      { host := { Rehearsal.host fun _ => "" with deliver := fun _ _ cast => (.ok (), cast) } }
    let event : Event :=
      { text := .text ("!" ++ "help" ++ " " ++ "\\"), client := { name := "ann" } }
    let help : Command := { Handbook.helpCommand with standing := .listed, grammar := [0] }
    let w : World Rehearsal.Cast := { registry := (Handbook.install {}).1, memory := {} }
    s.Asks event "!" "\\" 0 help w ∧ Handbook.Usable "\\" ∧
      ∃ o heading lines, (s.dispatchWithin nestingLimit event).result w = .ok [o] ∧
        o.fault = none ∧ s.utterances nestingLimit event w = uttered (heading :: lines) := by
  intro s event help w
  have hasks : s.Asks event "!" "\\" 0 help w := asks_rehearsed (by decide) (by decide)
  have hcompile : Pattern.compile "\\" { ignoreCase := true } = .error .malformed := rfl
  have husable : Handbook.Usable "\\" := by
    intro e he
    cases hcompile.symm.trans he
    rfl
  obtain ⟨o, texts, hresult, -, -, -, -, hsaid, -, -, hanswer, -⟩ :=
    help_answers s hasks nestingLimit
  obtain ⟨hfault, test, heading, lines, rfl, -, -⟩ := hanswer husable
  exact ⟨hasks, husable, o, heading, lines, hresult, hfault, hsaid⟩

/-- A filter that is a repetition count beyond the greatest one: `help` fails, and lists nothing. -/
theorem not_help_answers_rehearsed :
    let s : Setup Rehearsal.Cast :=
      { host := { Rehearsal.host fun _ => "" with deliver := fun _ _ cast => (.ok (), cast) } }
    let event : Event := {
      text := .text ("!" ++ "help" ++ " " ++ "\x7b99999999999\x7d"), client := { name := "ann" } }
    let help : Command := { Handbook.helpCommand with standing := .listed, grammar := [0] }
    let w : World Rehearsal.Cast := { registry := (Handbook.install {}).1, memory := {} }
    s.Asks event "!" "\x7b99999999999\x7d" 0 help w ∧
      (∃ o, (s.dispatchWithin nestingLimit event).result w = .ok [o] ∧ o.command = some 0 ∧
        o.invoked = true ∧ o.fault = some (handlerFault 0)) ∧
      s.utterances nestingLimit event w = [] := by
  intro s event help w
  have hasks : s.Asks event "!" "\x7b99999999999\x7d" 0 help w :=
    asks_rehearsed (by decide) (by decide)
  have hunusable : ¬ Handbook.Usable ("\x7b" ++ String.ofList "99999999999".toList ++ "\x7d") :=
    Handbook.not_usable_count (List.all_eq_true.mp (by decide)) (by decide)
  obtain ⟨e, u, hhelp⟩ := hasks.failed hunusable nestingLimit
  have hsilent : s.Performs (s.scene nestingLimit event (.sink (.caller event.client.name)))
      [("filter", .text "\x7b99999999999\x7d")] Handbook.help
      (s.enquired nestingLimit event "\x7b99999999999\x7d" 0 w) (.error e) (uttered []) u := hhelp
  obtain ⟨hresult, hsaid, -, -⟩ := hasks.answers hsilent
  exact ⟨hasks, ⟨_, hresult, rfl, rfl, rfl⟩, hsaid⟩

end Setup

end Switchboard
