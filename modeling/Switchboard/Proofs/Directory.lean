import Switchboard.Proofs.Performance
import Switchboard.Proofs.Searching
import Switchboard.Rehearsal

/-!
# Proofs — Directory

What `help` says.  Which commands it lists is settled before it says anything: those that are
enabled and granted to the caller, that have a help text, and that a filter looks for.  Then it says
how many they are, and a line for each, in the order of the registry.

* `permitted_eq_admitted`: predicates that do not raise answer `help` as they answer a pass.
* `directory`, `mem_directory`: the commands that are listed.
* `Shown`, `Listing`: what the lines say about them; `Told`, `Roll`: the same if the marker changes.
* `help_tells`, `help_performs`, `help_fails`: what comes of `help`.
* `help_lists`: what a call of `help` says, and to whom.
-/

namespace Switchboard

/-- The numbers of the commands that are listed and enabled. -/
def Registry.enabled (r : Registry) : List CommandId := r.listedWhere (·.enabled)

/-- Numbers that all belong to commands go with the commands they belong to. -/
theorem Registry.forall₂_commands (r : Registry) {ids : List CommandId}
    (h : ∀ id ∈ ids, ∃ c, r.command? id = some c) :
    List.Forall₂ (fun id c => r.command? id = some c) ids (ids.filterMap r.command?) := by
  induction ids with
  | nil => exact .nil
  | cons id ids ih =>
      obtain ⟨⟨c, hc⟩, hmore⟩ := List.forall_mem_cons.mp h
      rw [List.filterMap_cons_some hc]
      exact .cons hc (ih hmore)

namespace Setup

variable {σ : Type} {s : Setup σ}

/-! ### Which commands are listed -/

/-- **Predicates that do not raise answer `help` as they answer a pass.** -/
theorem permitted_eq_admitted {client : Client} {ids : List CommandId} {w : World σ}
    (h : ∀ id ∈ ids, ∀ c, w.registry.command? id = some c → (s.permits c client).Returns) :
    (s.permitted client ids).result w = .ok ((s.admitted client ids).result w) ∧
      (s.permitted client ids).after w = (s.admitted client ids).after w := by
  induction ids generalizing w with
  | nil => exact ⟨rfl, rfl⟩
  | cons id ids ih =>
      have hmore : ∀ v, v.registry = w.registry →
          (s.permitted client ids).result v = .ok ((s.admitted client ids).result v) ∧
            (s.permitted client ids).after v = (s.admitted client ids).after v :=
        fun v hv => ih fun i hi c hc => h i (.tail _ hi) c (hv ▸ hc)
      cases hc : w.registry.command? id with
      | none =>
          obtain ⟨hresult, hafter⟩ := hmore w rfl
          simp [permitted, admitted, admits, Run.result_bind, Run.after_bind, hc, hresult, hafter]
      | some c =>
          obtain ⟨allowed, hallowed⟩ := h id (.head _) c hc w
          obtain ⟨hresult, hafter⟩ := hmore _ (s.permits_calm c client w).1
          simp [permitted, admitted, admits, Run.result_bind, Run.after_bind, hc, hallowed, hresult,
            hafter, -bind_pure_comp]

section

variable (s) (client : Client) (w : World σ)

/-- The commands that `help` lists to a client, if it looks for those that pass a test. -/
def directory (test : Command → Bool) : List CommandId :=
  ((s.admitted client w.registry.enabled).result w).filter fun id =>
    (w.registry.command? id).any fun c => c.hasHelp && test c

end

variable {client : Client} {w : World σ} {test : Command → Bool}

/-- **Which commands are listed**: those that are enabled, whose predicate says yes when it is
asked, that have a help text, and that are looked for. -/
theorem mem_directory {id : CommandId} :
    id ∈ s.directory client w test ↔
      ∃ c, w.registry.command? id = some c ∧ c.isListed = true ∧ c.enabled = true ∧
        (∃ v, (id, v) ∈ visits (s.admits client) w.registry.enabled w ∧
          (s.permits c client).result v = .ok true) ∧
        c.helpText ≠ "" ∧ test c = true := by
  rw [directory, List.mem_filter, mem_admitted, Registry.enabled, Registry.mem_listedWhere]
  constructor
  · rintro ⟨⟨⟨c, hc, hlisted, henabled⟩, c', hc', hgranted⟩, hshown⟩
    cases hc.symm.trans hc'
    simp only [hc, Option.any_some, Bool.and_eq_true] at hshown
    exact ⟨c, hc, hlisted, henabled, hgranted, by simpa [Command.hasHelp] using hshown.1, hshown.2⟩
  · rintro ⟨c, hc, hlisted, henabled, hgranted, hhelp, htest⟩
    exact ⟨⟨⟨c, hc, hlisted, henabled⟩, c, hc, hgranted⟩,
      by simp [hc, Command.hasHelp, hhelp, htest]⟩

theorem directory_sublist_order : (s.directory client w test).Sublist w.registry.order :=
  List.filter_sublist.trans ((admitted_sublist _ _ _).trans (w.registry.listedWhere_sublist _))

/-- The commands of a directory are those that pass the tests, one after the other. -/
theorem directory_commands :
    (s.directory client w test).filterMap w.registry.command? =
      ((((s.admitted client w.registry.enabled).result w).filterMap w.registry.command?).filter
        Command.hasHelp).filter test := by
  rw [directory, List.filterMap_filter, List.filter_filterMap, List.filter_filterMap]
  refine List.filterMap_congr fun id _ => ?_
  cases w.registry.command? id with
  | none => rfl
  | some c =>
      cases hhelp : c.hasHelp <;> cases htest : test c <;> simp [Option.filter, hhelp, htest]

/-- Every command of a directory is there. -/
theorem directory_known :
    List.Forall₂ (fun id c => w.registry.command? id = some c) (s.directory client w test)
      ((s.directory client w test).filterMap w.registry.command?) :=
  w.registry.forall₂_commands fun _ hid => (mem_directory.mp hid).imp fun _ h => h.1

/-! ### What is said -/

/-- Texts that were taken by their sink. -/
def uttered (texts : List String) : List Utterance := texts.map fun text => ⟨text, .ok ()⟩

section

variable (s) (scene : Scene σ)

/-- Formats a text and replies with the line that is made of it. -/
def say (text : String) (line : String → String) : Run σ Unit := do
  let shown ← s.bold text
  s.reply scene.depth scene.event scene.target (line shown)

/-- What is said about the number of commands. -/
def sayCount (count : Nat) : Run σ Unit :=
  s.say scene (decimalText count) fun shown => shown ++ " Commands found:"

/-- What is said about a command. -/
def sayCommand (marker : String) (c : Command) : Run σ Unit :=
  s.say scene (marker ++ c.name) fun shown => shown ++ " - " ++ c.helpText

/-- A line shows a command: its name under the marker, as it is formatted in the world in which it
is its turn, and its help text. -/
def Shown (marker : String) (visit : Command × World σ) (line : String) : Prop :=
  ∃ name, (s.bold (marker ++ visit.1.name)).result visit.2 = .ok name ∧
    line = name ++ " - " ++ visit.1.helpText

/-- Texts list commands, from the world `w` on: first their number, and then a line for each. -/
structure Listing (marker : String) (commands : List Command) (w : World σ) (heading : String)
    (lines : List String) : Prop where
  heading : ∃ count, (s.bold (decimalText commands.length)).result w = .ok count ∧
    heading = count ++ " Commands found:"
  lines : List.Forall₂ (s.Shown marker)
    (visits (fun c => (s.sayCommand scene marker c).run) commands
      ((s.sayCount scene commands.length).after w)) lines

/-- What is said about a command under the marker as it is then. -/
def tellCommand (c : Command) : Run σ Unit := do
  let marker ← (s.marker : Step σ String)
  s.sayCommand scene marker c

/-- A line tells about a command: it shows it under the marker as it is when it is its turn. -/
def Told (visit : Command × World σ) (line : String) : Prop :=
  s.Shown (s.marker.result visit.2) (visit.1, s.marker.after visit.2) line

/-- Texts list commands, from the world `w` on, whatever marker is read for each of them. -/
structure Roll (commands : List Command) (w : World σ) (heading : String) (lines : List String) :
    Prop where
  heading : ∃ count, (s.bold (decimalText commands.length)).result w = .ok count ∧
    heading = count ++ " Commands found:"
  lines : List.Forall₂ s.Told
    (visits (fun c => (s.tellCommand scene c).run) commands
      ((s.sayCount scene commands.length).after w)) lines

end

section

variable {scene : Scene σ} {marker : String} {commands : List Command} {heading : String}
  {lines : List String}

/-- A listing has a line for each command. -/
theorem Listing.length_eq (h : s.Listing scene marker commands w heading lines) :
    lines.length = commands.length :=
  h.lines.length_eq.symm.trans (length_visits _ _ _)

theorem Roll.length_eq (h : s.Roll scene commands w heading lines) :
    lines.length = commands.length :=
  h.lines.length_eq.symm.trans (length_visits _ _ _)

/-- If the marker is fixed, it is the one that all commands are listed under. -/
theorem Roll.listing (hmarker : s.marker = pure marker)
    (h : s.Roll scene commands w heading lines) :
    s.Listing scene marker commands w heading lines := by
  have hsay : s.tellCommand scene = s.sayCommand scene marker := by
    funext c
    rw [tellCommand, hmarker]
    rfl
  have htold : s.Told = s.Shown marker := by
    funext visit line
    rw [Told, hmarker]
    rfl
  have hlines := h.lines
  rw [hsay, htold] at hlines
  exact ⟨h.heading, hlines⟩

end

section

variable {scene : Scene σ} {record : Record} {marker : String}

/-- Asking for the commands that pass a test and that the caller may use. -/
theorem available_performs_where {name : Value} {passes : Command → Bool}
    (hname : s.available scene.event.client name =
      (do s.permitted scene.event.client ((← get).registry.listedWhere passes)))
    (hpredicates : ∀ id c, w.registry.command? id = some c → c.isListed = true →
      passes c = true → (s.permits c scene.event.client).Returns) :
    let ids := (s.admitted scene.event.client (w.registry.listedWhere passes)).result w
    let v := (s.admitted scene.event.client (w.registry.listedWhere passes)).after w
    s.Performs scene record (Handbook.available name) w
      (.ok (ids.filterMap w.registry.command?)) [] v := by
  intro ids v
  have hasked : ∀ id ∈ w.registry.listedWhere passes, ∀ c, w.registry.command? id = some c →
      (s.permits c scene.event.client).Returns := by
    intro id hid c hc
    obtain ⟨c', hc', hlisted, hpasses⟩ := Registry.mem_listedWhere.mp hid
    cases hc.symm.trans hc'
    exact hpredicates id c hc hlisted hpasses
  obtain ⟨hresult, hafter⟩ := permitted_eq_admitted hasked
  have hanswer : s.answer scene record (.available name) =
      (do s.permitted scene.event.client ((← get).registry.listedWhere passes)) := hname
  have hids : s.Performs scene record (Act.available name) w (.ok ids) [] v :=
    .request (by rw [hanswer]; exact hresult) (by rw [hanswer]; exact hafter) rfl
  have hkept : v.registry = w.registry := (s.admitted_calm _ _ w).1
  have hknown : (s.answer scene record .registry).result v = .ok w.registry :=
    congrArg Except.ok hkept
  have hregistry : s.Performs scene record Act.registry v (.ok w.registry) [] v :=
    .request hknown rfl rfl
  exact hids.bind (hregistry.bind (.pure _ _))

/-- Asking for all commands that the caller may use. -/
theorem available_performs
    (hpredicates : ∀ id c, w.registry.command? id = some c → c.isListed = true →
      c.enabled = true → (s.permits c scene.event.client).Returns) :
    let ids := (s.admitted scene.event.client w.registry.enabled).result w
    let v := (s.admitted scene.event.client w.registry.enabled).after w
    s.Performs scene record (Handbook.available .unset) w
      (.ok (ids.filterMap w.registry.command?)) [] v :=
  available_performs_where rfl hpredicates

/-- **A filter that cannot be looked for makes `help` fail**, before it has said anything. -/
theorem help_fails {filter : String}
    (hpredicates : ∀ id c, w.registry.command? id = some c → c.isListed = true →
      c.enabled = true → (s.permits c scene.event.client).Returns)
    (hrecord : record.get? "filter" = some (.text filter)) (hfilter : filter ≠ "")
    (hunusable : ¬ Handbook.Usable filter) :
    ∃ e, s.Performs scene record Handbook.help w (.error e) []
      ((s.admitted scene.event.client w.registry.enabled).after w) := by
  let u := (s.admitted scene.event.client w.registry.enabled).after w
  obtain ⟨e, hfiltered⟩ := Handbook.filtered_of_not_usable (σ := σ) hfilter hunusable
    ((((s.admitted scene.event.client w.registry.enabled).result w).filterMap
      w.registry.command?).filter Command.hasHelp)
  have hasked : s.Performs scene record Act.record u (.ok record) [] u := .request rfl rfl rfl
  -- What `help` would go on with is lost with the failure.
  have hlost : ∀ next, s.Performs scene record
      (Handbook.filtered (record.get? "filter")
        ((((s.admitted scene.event.client w.registry.enabled).result w).filterMap
          w.registry.command?).filter Command.hasHelp) >>= next : Act σ Value)
        u (.error e) [] u := by
    intro next
    rw [hrecord, hfiltered]
    exact .fail e u
  exact ⟨e, (available_performs hpredicates).bind (hasked.bind (hlost _))⟩

variable (record) (hfluent : s.Fluent)
  (hheard : ∀ text, (s.reply scene.depth scene.event scene.target text).Returns)

include hfluent hheard

/-- Formatting a text and replying with a line is saying the line, and then comes what comes. -/
theorem say_performs (text : String) (line : String → String) (w : World σ) :
    ∃ shown, (s.bold text).result w = .ok shown ∧
      ∀ {α : Type} {next : Unit → Act σ α} {r : Except Failure α} {xs : List Utterance}
        {v : World σ}, s.Performs scene record (next ()) ((s.say scene text line).after w) r xs v →
        s.Performs scene record
          (Act.embolden text >>= fun shown => Act.reply (line shown) >>= next) w r
          (uttered [line shown] ++ xs) v := by
  obtain ⟨shown, hshown⟩ := hfluent text w
  obtain ⟨⟨⟩, hanswer⟩ := hheard (line shown) ((s.bold text).after w)
  have hbold : s.Performs scene record (Act.embolden text) w (.ok shown) []
      ((s.bold text).after w) := .request hshown rfl rfl
  have hafter : (s.say scene text line).after w =
      (s.reply scene.depth scene.event scene.target (line shown)).after ((s.bold text).after w) :=
    Run.after_bind_ok hshown _
  have hreply : s.Performs scene record (Act.reply (line shown)) ((s.bold text).after w) (.ok ())
      (uttered [line shown]) ((s.say scene text line).after w) :=
    .request hanswer hafter.symm rfl
  exact ⟨shown, hshown, fun hnext => hbold.bind (hreply.bind hnext)⟩

/-- The listing says a line for each command. -/
theorem listing_performs (commands : List Command) (w : World σ) :
    ∃ lines v, List.Forall₂ s.Told
        (visits (fun c => (s.tellCommand scene c).run) commands w) lines ∧
      s.Performs scene record (Handbook.listing commands) w (.ok ()) (uttered lines) v := by
  induction commands generalizing w with
  | nil => exact ⟨[], w, .nil, .pure _ _⟩
  | cons c commands ih =>
      let marker := s.marker.result w
      obtain ⟨name, hname, hsay⟩ := say_performs record hfluent hheard
        (marker ++ c.name) (fun shown => shown ++ " - " ++ c.helpText) (s.marker.after w)
      obtain ⟨lines, v, hlines, hmore⟩ := ih ((s.tellCommand scene c).after w)
      have hread : s.Performs scene record Act.marker w (.ok marker) [] (s.marker.after w) :=
        .request rfl rfl rfl
      exact ⟨_ :: lines, v, .cons ⟨name, hname, rfl⟩ hlines, hread.bind (hsay hmore)⟩

/-- **What comes of `help`**: it lists the commands of the directory, under whatever marker is read
for each of them. -/
theorem help_tells
    (hpredicates : ∀ id c, w.registry.command? id = some c → c.isListed = true →
      c.enabled = true → (s.permits c scene.event.client).Returns)
    (hfilter : Handbook.Seeks (record.get? "filter") test) :
    let commands := (s.directory scene.event.client w test).filterMap w.registry.command?
    let u := (s.admitted scene.event.client w.registry.enabled).after w
    ∃ heading lines v, s.Roll scene commands u heading lines ∧
      s.Performs scene record Handbook.help w (.ok .null) (uttered (heading :: lines)) v := by
  intro commands u
  obtain ⟨count, hcount, hsay⟩ := say_performs record hfluent hheard
    (decimalText commands.length) (fun shown => shown ++ " Commands found:") u
  obtain ⟨lines, v, hlines, hlisting⟩ := listing_performs record hfluent hheard
    commands ((s.sayCount scene commands.length).after u)
  have hrecord : s.Performs scene record Act.record u (.ok record) [] u := .request rfl rfl rfl
  have hfiltered : s.Performs scene record (Handbook.filtered (record.get? "filter")
      ((((s.admitted scene.event.client w.registry.enabled).result w).filterMap
        w.registry.command?).filter Command.hasHelp)) u (.ok commands) [] u := by
    rw [Handbook.filtered_of_seeks hfilter, ← directory_commands]
    exact .pure _ _
  refine ⟨_, lines, v, ⟨⟨count, hcount, rfl⟩, hlines⟩, ?_⟩
  have hlast : s.Performs scene record
      (Handbook.listing commands >>= fun _ => (pure .null : Act σ Value))
      ((s.sayCount scene commands.length).after u) (.ok .null) (uttered lines) v := by
    rw [← List.append_nil (uttered lines)]
    exact hlisting.bind (.pure _ v)
  exact (available_performs hpredicates).bind (hrecord.bind (hfiltered.bind (hsay hlast)))

/-- What comes of `help` under a fixed marker. -/
theorem help_performs (hmarker : s.marker = pure marker)
    (hpredicates : ∀ id c, w.registry.command? id = some c → c.isListed = true →
      c.enabled = true → (s.permits c scene.event.client).Returns)
    (hfilter : Handbook.Seeks (record.get? "filter") test) :
    let commands := (s.directory scene.event.client w test).filterMap w.registry.command?
    let u := (s.admitted scene.event.client w.registry.enabled).after w
    ∃ heading lines v, s.Listing scene marker commands u heading lines ∧
      s.Performs scene record Handbook.help w (.ok .null) (uttered (heading :: lines)) v := by
  intro commands u
  obtain ⟨heading, lines, v, hroll, hperforms⟩ :=
    help_tells record hfluent hheard hpredicates hfilter
  exact ⟨heading, lines, v, hroll.listing hmarker, hperforms⟩

end

/-- Lines that were taken by their sink are as many messages to it. -/
theorem messages_uttered (sink : Sink) (texts : List String) :
    Utterance.messages (some sink) (uttered texts) = texts.map fun text => ⟨sink, text, none⟩ := by
  simp [Utterance.messages, uttered, Utterance.toMessage]

end Setup

end Switchboard
