import Switchboard.Proofs.Accord

/-!
# Proofs — Manuals

What `man` answers about a command that `help` lists.  Both go by the same commands, but by
different tests: `help` lists those that have a help text, and `man` shows all of a name, with a
manual or without.  So whoever asks `man` about a name on the list gets an answer.

* `Explained`: what a manual says, by what there is to say.
* `Described`, `manuals_performs`: what is shown about a command.
* `man_performs`: what comes of `man`.
* `LooksUp`: a private line that asks `man` about a name.
* `handbook_agrees`: what `help` lists `man` shows.
-/

namespace Switchboard

namespace Handbook

/-- **What a manual says**: its lines, if there are any; else the help text, if there is one; else
that there is no manual. -/
inductive Explained (c : Command) : String → Prop where
  | manual (h : c.manualLines ≠ []) : Explained c ("\r\n".intercalate c.manualLines)
  | help (hmanual : c.manualLines = []) (h : c.helpText ≠ "") : Explained c c.helpText
  | nothing (hmanual : c.manualLines = []) (hhelp : c.helpText = "") :
      Explained c "No manual for this command available!"

theorem manualBody_explained (c : Command) : Explained c (manualBody c) := by
  unfold manualBody
  split
  · rename_i h
    exact .manual (by simpa [Command.hasManual] using h)
  · rename_i hmanual
    have hmanual : c.manualLines = [] := by simpa [Command.hasManual] using hmanual
    split
    · rename_i h
      exact .help hmanual (by simpa [Command.hasHelp] using h)
    · rename_i h
      exact .nothing hmanual (by simpa [Command.hasHelp] using h)

/-- The page about a command, under a heading for its name and one for its usage. -/
def page (r : Registry) (marker name heading : String) (c : Command) (body : String) : String :=
  "\nManual for command: " ++ name ++ "\n" ++ heading ++ " " ++ r.usage marker c ++ "\n\n" ++ body

/-- What is said if nothing of a name is found. -/
def nothingFound : String :=
  "No command with valid manual documentation found! Maybe did you misstype the command?"

/-- A text begins as its front does. -/
theorem head?_append {front : String} {c : Char} (h : front.toList.head? = some c)
    (text : String) : (front ++ text).toList.head? = some c := by
  rw [String.toList_append, List.head?_append, h]
  rfl

/-- A page does not say that nothing was found: it begins with a line end. -/
theorem page_ne_nothingFound (r : Registry) (marker name heading : String) (c : Command)
    (body : String) : page r marker name heading c body ≠ nothingFound := by
  have hnothing : nothingFound.toList.head? ≠ some '\n' := by decide +kernel
  have hbegins : "\nManual for command: ".toList.head? = some '\n' := by decide +kernel
  have hpage : (page r marker name heading c body).toList.head? = some '\n' := by
    unfold page
    repeat apply head?_append
    exact hbegins
  intro h
  rw [h] at hpage
  exact hnothing hpage

end Handbook

/-- The numbers of the commands of a name that are listed and enabled; aliases do not count. -/
def Registry.entries (r : Registry) (name : String) : List CommandId :=
  r.listedWhere fun c => name == c.name && c.enabled

namespace Setup

variable {σ : Type} {s : Setup σ}

/-! ### What is shown -/

section

variable (s) (scene : Scene σ) (r : Registry) (marker : String)

/-- What is said about a command of the registry `r` in its manual. -/
def sayPage (c : Command) : Run σ Unit := do
  let name ← s.bold c.name
  let heading ← s.bold "Usage:"
  s.reply scene.depth scene.event scene.target
    (Handbook.page r marker name heading c (Handbook.manualBody c))

/-- A text describes a command: its name and the word for its usage, as they are formatted in the
world in which it is its turn, its usage line, and what its manual says. -/
def Described (visit : Command × World σ) (text : String) : Prop :=
  ∃ name heading body, (s.bold visit.1.name).result visit.2 = .ok name ∧
    (s.bold "Usage:").result ((s.bold visit.1.name).after visit.2) = .ok heading ∧
    Handbook.Explained visit.1 body ∧ text = Handbook.page r marker name heading visit.1 body

end

section

variable {scene : Scene σ} {record : Record} {r : Registry} {marker : String}

theorem Described.ne_nothingFound {visit : Command × World σ} {text : String}
    (h : s.Described r marker visit text) : text ≠ Handbook.nothingFound := by
  obtain ⟨name, heading, body, -, -, -, rfl⟩ := h
  exact Handbook.page_ne_nothingFound _ _ _ _ _ _

/-- Who describes commands does not say that nothing was found. -/
theorem nothingFound_not_mem {visits : List (Command × World σ)} {texts : List String}
    (h : List.Forall₂ (s.Described r marker) visits texts) : Handbook.nothingFound ∉ texts := by
  induction h with
  | nil => exact List.not_mem_nil
  | cons hdescribed _ ih =>
      rw [List.mem_cons, not_or]
      exact ⟨hdescribed.ne_nothingFound.symm, ih⟩

variable (record) (hfluent : s.Fluent) (hmarker : s.marker = pure marker)
  (hheard : ∀ text, (s.reply scene.depth scene.event scene.target text).Returns)
  (hkept : ∀ text, (s.reply scene.depth scene.event scene.target text).Within
    fun w v => v.registry = w.registry)

include hfluent hmarker hheard hkept

/-- The manuals say a page for each command. -/
theorem manuals_performs (commands : List Command) (hlisted : ∀ c ∈ commands, c.isListed = true)
    {w : World σ} (hw : w.registry = r) :
    ∃ texts v, List.Forall₂ (s.Described r marker)
        (visits (fun c => (s.sayPage scene r marker c).run) commands w) texts ∧
      s.Performs scene record (Handbook.manuals commands) w (.ok ()) (uttered texts) v := by
  induction commands generalizing w with
  | nil => exact ⟨[], w, .nil, .pure _ _⟩
  | cons c commands ih =>
      obtain ⟨hc, hlisted⟩ := List.forall_mem_cons.mp hlisted
      obtain ⟨name, hname⟩ := hfluent c.name w
      let u := (s.bold c.name).after w
      obtain ⟨heading, hheading⟩ := hfluent "Usage:" u
      let v := (s.bold "Usage:").after u
      have hv : v.registry = r :=
        ((s.bold_calm "Usage:" u).1.trans (s.bold_calm c.name w).1).trans hw
      let text := Handbook.page r marker name heading c (Handbook.manualBody c)
      obtain ⟨⟨⟩, hanswer⟩ := hheard text v
      have hafter : (s.sayPage scene r marker c).after w =
          (s.reply scene.depth scene.event scene.target text).after v := by
        rw [sayPage, Run.after_bind_ok hname, Run.after_bind_ok hheading]
      obtain ⟨texts, z, htexts, hmore⟩ := ih hlisted
        (w := (s.sayPage scene r marker c).after w) (by rw [hafter, hkept text v, hv])
      refine ⟨text :: texts, z, .cons ⟨name, heading, _, hname, hheading,
        Handbook.manualBody_explained c, rfl⟩ htexts, ?_⟩
      have hnamed : s.Performs scene record (Act.embolden c.name) w (.ok name) [] u :=
        .request hname rfl rfl
      have hheaded : s.Performs scene record (Act.embolden "Usage:") u (.ok heading) [] v :=
        .request hheading rfl rfl
      have hread : s.Performs scene record Act.marker v (.ok marker) [] v := by
        have hread : s.Performs scene record Act.marker v (.ok (s.marker.result v)) []
          (s.marker.after v) := .request rfl rfl rfl
        rwa [hmarker] at hread
      have hknown : s.Performs scene record Act.registry v (.ok r) [] v :=
        .request (congrArg Except.ok hv) rfl rfl
      have hreply : s.Performs scene record (Act.reply text) v (.ok ()) (uttered [text])
          ((s.sayPage scene r marker c).after w) := .request hanswer hafter.symm rfl
      have hattached : c.isAttached = true := by simp_all [Command.isListed, Command.isAttached]
      refine hnamed.bind (hheaded.bind ?_)
      simp only [hattached, if_true]
      exact hread.bind (hknown.bind (hreply.bind hmore))

/-- **What comes of `man`**: it describes the commands of the name that the caller may use, if there
are any. -/
theorem man_performs {name : String} {w : World σ}
    (hrecord : record.get? "command" = some (.text name))
    (hanswers : s.Answers scene.event.client w.registry)
    (hsome : (s.admitted scene.event.client (w.registry.entries name)).result w ≠ []) :
    let ids := (s.admitted scene.event.client (w.registry.entries name)).result w
    let u := (s.admitted scene.event.client (w.registry.entries name)).after w
    ∃ texts v, List.Forall₂ (s.Described w.registry marker)
        (visits (fun c => (s.sayPage scene w.registry marker c).run)
          (ids.filterMap w.registry.command?) u) texts ∧
      s.Performs scene record Handbook.man w (.ok .null) (uttered texts) v := by
  intro ids u
  have hlisted : ∀ id ∈ ids, ∃ c, w.registry.command? id = some c ∧ c.isListed = true := by
    intro id hid
    obtain ⟨c, hc, hlisted, -⟩ := Registry.mem_listedWhere.mp (mem_admitted.mp hid).1
    exact ⟨c, hc, hlisted⟩
  have hcommands : ∀ c ∈ ids.filterMap w.registry.command?, c.isListed = true := by
    intro c hc
    obtain ⟨id, hid, hc⟩ := List.mem_filterMap.mp hc
    obtain ⟨c', hc', hlisted⟩ := hlisted id hid
    cases hc.symm.trans hc'
    exact hlisted
  have hknown := w.registry.forall₂_commands fun id hid => (hlisted id hid).imp fun _ h => h.1
  have hfound : (ids.filterMap w.registry.command?).isEmpty = false := by
    have hlength := hknown.length_eq
    cases hnil : ids.filterMap w.registry.command? with
    | nil =>
        rw [hnil] at hlength
        exact absurd (List.length_eq_zero_iff.mp hlength) hsome
    | cons => rfl
  have hasked : s.Performs scene record Act.record w (.ok record) [] w := .request rfl rfl rfl
  have havailable : s.Performs scene record (Handbook.available (.text name)) w
      (.ok (ids.filterMap w.registry.command?)) [] u :=
    available_performs_where rfl fun id c hc hl hpasses =>
      hanswers id c hc hl (Bool.and_eq_true_iff.mp hpasses).2
  obtain ⟨texts, v, htexts, hmanuals⟩ := manuals_performs record hfluent hmarker hheard hkept
    (r := w.registry) (ids.filterMap w.registry.command?) hcommands
    (s.admitted_calm scene.event.client _ w).1
  refine ⟨texts, v, htexts, ?_⟩
  refine hasked.silent ?_
  simp only [hrecord]
  refine havailable.silent ?_
  simp only [hfound, Bool.false_eq_true, if_false]
  rw [← List.append_nil (uttered texts)]
  exact hmanuals.bind (.pure _ v)

end

/-! ### A line that asks for a name -/

/-- **A private line that asks `man` about a name.**  `man` is as it was installed, and all that its
word calls for; the caller may use it.  The marker is fixed.  The name has no space in it and no
line end behind it, so that it can be given in a line. -/
structure LooksUp (s : Setup σ) (event : Event) (marker name : String) (id : CommandId)
    (c : Command) (w : World σ) : Prop where
  only : w.registry.find "man" = [id]
  known : w.registry.command? id = some c
  grammar : w.registry.grammar c = [Handbook.commandArgument]
  handler : c.handler = .man
  granted : (s.permits c event.client).result w = .ok true
  fixed : s.marker = pure marker
  /-- The switchboard did not write the line itself. -/
  others : event.isSelf = false
  mode : event.mode.mode? = some .caller
  line : event.text = .text (marker ++ "man" ++ " " ++ name)
  token : ∀ x ∈ name.toList, x ≠ ' '
  ending : ∀ x ∈ name.toList.getLast?, Line.isLineEnd x = false

/-- **What `man` shows about a name**: a page for each of the commands of just that name that are
listed, enabled and granted to the client, in the order of the registry. -/
structure Pages (s : Setup σ) (scene : Scene σ) (r : Registry) (marker name : String)
    (entries : List CommandId) (texts : List String) : Prop where
  pages : ∃ v, List.Forall₂ (s.Described r marker)
    (visits (fun c => (s.sayPage scene r marker c).run) (entries.filterMap r.command?) v) texts
  known : List.Forall₂ (fun i d => r.command? i = some d) entries (entries.filterMap r.command?)
  length_eq : texts.length = entries.length
  order : entries.Sublist r.order
  named : ∀ i, i ∈ entries ↔ ∃ d, r.command? i = some d ∧ d.isListed = true ∧
    d.enabled = true ∧ d.name = name ∧
    ∀ w, (s.permits d scene.event.client).result w = .ok true
  found : Handbook.nothingFound ∉ texts

/-- Which commands of a name a client may use goes by the registry and the client alone. -/
theorem Steady.mem_entries_iff {client : Client} (h : s.Steady client) {r : Registry} {v : World σ}
    (hkept : v.registry = r) {name : String} {id : CommandId} :
    id ∈ (s.admitted client (r.entries name)).result v ↔
      ∃ d, r.command? id = some d ∧ d.isListed = true ∧ d.enabled = true ∧ d.name = name ∧
        ∀ w, (s.permits d client).result w = .ok true := by
  subst hkept
  rw [h.mem_admitted_iff, Registry.entries, Registry.mem_listedWhere]
  constructor
  · rintro ⟨⟨d, hd, hlisted, hpasses⟩, d', hd', hgranted⟩
    cases hd.symm.trans hd'
    rw [Bool.and_eq_true, beq_iff_eq] at hpasses
    exact ⟨d, hd, hlisted, hpasses.2, hpasses.1.symm,
      fun w => (h.permits_eq d w v).trans hgranted⟩
  · rintro ⟨d, hd, hlisted, henabled, rfl, hgranted⟩
    exact ⟨⟨d, hd, hlisted, by simp [henabled]⟩, d, hd, hgranted v⟩

namespace LooksUp

variable {event : Event} {marker name : String} {id : CommandId} {c : Command} {w : World σ}
  (h : s.LooksUp event marker name id c w)

include h

theorem heard : s.heard event w = some ("man", name.toList) := by
  have hword : Text.Wordlike "man" := List.all_eq_true.mp (by decide)
  exact heard_spaced h.fixed h.others h.line hword
    (fun x hx => h.token x (List.mem_of_mem_head? hx)) h.ending w

theorem candidates (hsteady : s.Steady event.client) : s.candidates event "man" w = [id] := by
  have hmem : id ∈ s.candidates event "man" w := by
    refine (hsteady.mem_candidates_iff rfl).mpr ⟨?_, c, h.known, h.granted⟩
    rw [h.only]
    exact .head _
  have hsub := candidates_sublist (s := s) event "man" w
  rw [h.only, List.sublist_singleton] at hsub
  exact hsub.resolve_left (List.ne_nil_of_mem hmem)

/-- **The line leads to the handler of `man`**, with the name as all that is recorded. -/
theorem ready (hne : name ≠ "") :
    s.Ready event name.toList id (s.gathered event "man" w) c
      { command := some id, record := [("command", .text name)] }
      (.sink (.caller event.client.name)) := by
  have hregistry : (s.gathered event "man" w).registry = w.registry := (gathered_calm _ _ _).1
  have hknown : (s.gathered event "man" w).registry.command? id = some c := hregistry ▸ h.known
  have hwalk : Walk.along ((s.gathered event "man" w).registry.grammar c) name.toList =
      .ok { record := [("command", .text name)], left := [] } := by
    rw [hregistry, h.grammar]
    exact Handbook.along_token _ hne h.token
  have halive : c.isDestroyed = false := by
    have hmem : id ∈ w.registry.find "man" := by
      rw [h.only]
      exact .head _
    obtain ⟨c', hc', hlisted, -⟩ := Registry.mem_find.mp hmem
    cases hc'.symm.trans h.known
    simp_all [Command.isListed, Command.isDestroyed]
  have htarget : s.target event = .ok (.sink (.caller event.client.name)) := by
    rw [Setup.target, h.mode]
  exact ⟨evaluate_of_ready s hknown hwalk rfl, rfl, hknown, halive, htarget⟩

/-- **A line that asks about a name is answered with its pages**, if there are any. -/
theorem shows (hsteady : s.Steady event.client) (hfluent : s.Fluent)
    (hreaches : s.Reaches event.client) (hanswers : s.Answers event.client w.registry)
    (hne : name ≠ "") {i : CommandId} (hi : i ∈ w.registry.entries name)
    (hgranted : s.Grants event.client i w) (depth : Nat) :
    ∃ entries texts,
      s.Pages (s.scene depth event (.sink (.caller event.client.name))) w.registry marker name
        entries texts ∧ i ∈ entries ∧
      (s.dispatchWithin depth event).result w =
        .ok [answered id [("command", .text name)] (.ok .null)] ∧
      s.utterances depth event w = uttered texts ∧
      replies depth ((s.dispatchWithin depth event).deeds w) =
        texts.map (fun text => ⟨.caller event.client.name, text, none⟩) ∧
      notices depth ((s.dispatchWithin depth event).deeds w) = [] := by
  let scene := s.scene depth event (.sink (.caller event.client.name))
  let u := s.gathered event "man" w
  let v := s.begun depth event name.toList id c [("command", .text name)] u
  let entries := (s.admitted event.client (w.registry.entries name)).result v
  have hkept : v.registry = w.registry := begun_registry.trans (gathered_calm _ _ _).1
  have hmem : i ∈ entries :=
    hsteady.mem_admitted_iff.mpr ⟨hi, (hsteady.grants_iff hkept).mpr hgranted⟩
  have hheard : ∀ text, (s.reply depth event (.sink (.caller event.client.name)) text).Returns :=
    fun text w => ⟨(), hreaches.send depth .reply text w⟩
  have hman : ∃ texts z, List.Forall₂ (s.Described v.registry marker)
      (visits (fun d => (s.sayPage scene v.registry marker d).run)
        (((s.admitted event.client (v.registry.entries name)).result v).filterMap
          v.registry.command?)
        ((s.admitted event.client (v.registry.entries name)).after v)) texts ∧
      s.Performs scene [("command", .text name)] Handbook.man v (.ok .null) (uttered texts) z :=
    man_performs [("command", .text name)] hfluent h.fixed hheard (fun _ _ => rfl) rfl
      (hkept ▸ hanswers) (hkept ▸ List.ne_nil_of_mem hmem)
  rw [hkept] at hman
  obtain ⟨texts, z, htexts, hperforms⟩ := hman
  have hact : s.act c.handler ⟨event.client, event.text, [("command", .text name)]⟩ =
      Handbook.man := by rw [h.handler, act]
  rw [← hact] at hperforms
  obtain ⟨hturn, hsaid, hreplies, hnotices⟩ := (h.ready hne).answers hreaches hperforms
  obtain ⟨hresult, hdeeds, hutterances⟩ :=
    dispatchWithin_of_one h.heard (h.candidates hsteady) depth
  have hknown : List.Forall₂ (fun i d => w.registry.command? i = some d) entries
      (entries.filterMap w.registry.command?) := by
    refine w.registry.forall₂_commands fun j hj => ?_
    obtain ⟨d, hd, -⟩ := Registry.mem_listedWhere.mp (hsteady.mem_admitted_iff.mp hj).1
    exact ⟨d, hd⟩
  have hlength : texts.length = entries.length := by
    rw [← htexts.length_eq, length_visits]
    exact hknown.length_eq.symm
  refine ⟨entries, texts, ⟨⟨_, htexts⟩, hknown, hlength, ?_, ?_, ?_⟩, hmem, ?_⟩
  · exact (admitted_sublist _ _ _).trans (w.registry.listedWhere_sublist _)
  · exact fun j => hsteady.mem_entries_iff hkept
  · exact nothingFound_not_mem htexts
  · rw [hresult, hdeeds, hutterances, hturn, hsaid, hreplies, hnotices]
    exact ⟨rfl, rfl, rfl, rfl⟩

end LooksUp

/-- **What `help` lists `man` shows.**  A caller whom no predicate fails asks `help` for everything
and is sent a listing.  If the caller then asks `man` about the name of a command on the list, in
any later world with the same registry, `man` completes, and its replies are a page for each enabled
and granted command of just that name, in the order of the registry; the command on the list is one
of them.  A page shows the usage line, and then the manual, or else the help text, or else that
there is no manual. -/
theorem handbook_agrees (s : Setup σ) {depth : Nat} {event : Event} {word : String}
    {id : CommandId} {c : Command} {w u : World σ} (h : s.Consults depth event word id c w)
    (hu : (id, u) ∈ s.turns depth event word [] w) (hanswers : s.Answers event.client u.registry)
    (hnamed : u.registry.WellNamed) :
    ∃ ids heading lines,
      s.Catalogue (s.scene depth event (.sink (.caller event.client.name))) u.registry ids heading
        lines ∧
      s.saidInTurn depth event [] id u = uttered (heading :: lines) ∧
      ∀ i ∈ ids, ∀ d, u.registry.command? i = some d →
        ∀ depth line marker man c' w', line.client = event.client → w'.registry = u.registry →
          s.LooksUp line marker d.name man c' w' →
          ∃ entries texts o,
            s.Pages (s.scene depth line (.sink (.caller line.client.name))) u.registry marker
              d.name entries texts ∧ i ∈ entries ∧
            (s.dispatchWithin depth line).result w' = .ok [o] ∧ o.command = some man ∧
            o.invoked = true ∧ o.fault = none ∧ o.error = none ∧
            s.utterances depth line w' = uttered texts ∧
            replies depth ((s.dispatchWithin depth line).deeds w') =
              texts.map (fun text => ⟨.caller line.client.name, text, none⟩) ∧
            notices depth ((s.dispatchWithin depth line).deeds w') = [] := by
  obtain ⟨ids, heading, lines, hcatalogue, -, hsaid, -⟩ := h.lists hu hanswers
  refine ⟨ids, heading, lines, hcatalogue, hsaid, ?_⟩
  intro i hi d hd depth' line marker man c' w' hclient hkept hlooks
  have hcandidate : i ∈ s.candidates event d.name u :=
    ((hcatalogue.through i d hd event d.name u rfl rfl
      (by simp [Command.answersTo, Command.names])).mp hi).2
  obtain ⟨hfind, hgranted⟩ := (h.steady.mem_candidates_iff rfl).mp hcandidate
  obtain ⟨d', hd', hlisted, -, henabled⟩ := Registry.mem_find.mp hfind
  cases hd.symm.trans hd'
  have hne : d.name ≠ "" := (hnamed i d hd).nonempty d.name (by simp [Command.names])
  have hentry : i ∈ w'.registry.entries d.name :=
    Registry.mem_listedWhere.mpr ⟨d, hkept ▸ hd, hlisted, by simp [henabled]⟩
  have hsteady : s.Steady line.client := hclient ▸ h.steady
  have hgranted' : s.Grants line.client i w' := hclient ▸ (h.steady.grants_iff hkept).mpr hgranted
  obtain ⟨entries, texts, hpages, hmem, hresult, htold⟩ :=
    hlooks.shows hsteady h.fluent (hclient ▸ h.reaches) (by rw [hclient, hkept]; exact hanswers)
      hne hentry hgranted' depth'
  rw [hkept] at hpages
  exact ⟨entries, texts, _, hpages, hmem, hresult, rfl, rfl, rfl, rfl, htold⟩

/-- A caller who asks `man` about the one command that does not belong to the handbook. -/
theorem looksUp_rehearsed :
    (answering (.ok (.bool true))).LooksUp
      { text := .text ("!" ++ "man" ++ " " ++ "ale"), client := { name := "ann" } } "!" "ale" 2
      { Handbook.manCommand with standing := .listed, grammar := [1] }
      { registry := guarded, memory := {} } where
  only := by decide
  known := rfl
  grammar := rfl
  handler := rfl
  granted := rfl
  fixed := rfl
  others := rfl
  mode := rfl
  line := rfl
  token := by simp
  ending := by
    rintro _ ⟨⟩
    rfl

theorem wellNamed_guarded : guarded.WellNamed := by
  intro i d hd
  rcases i with _ | _ | _ | i
  all_goals cases hd
  all_goals exact ⟨by decide, by decide⟩

/-- A command with a help text and no manual: it is listed, and its page is shown. -/
theorem handbook_agrees_rehearsed :
    let s := answering (.ok (.bool true))
    let event : Event := { text := .text "!help", client := { name := "ann" } }
    let line : Event := {
      text := .text ("!" ++ "man" ++ " " ++ "ale"), client := { name := "ann" } }
    let w : World Rehearsal.Cast := { registry := guarded, memory := {} }
    ∃ (u : World Rehearsal.Cast) (ids : List CommandId) (texts : List String),
      (1, u) ∈ s.turns nestingLimit event "help" [] w ∧ 0 ∈ ids ∧
      s.utterances nestingLimit line w = uttered texts ∧ texts ≠ [] ∧
      Handbook.nothingFound ∉ texts := by
  intro s event line w
  have hconsults : s.Consults nestingLimit event "help" 1
      { Handbook.helpCommand with standing := .listed, grammar := [0] } w := consults_rehearsed _
  obtain ⟨u, hu⟩ := hconsults.exists_turn
  have hregistry : u.registry = guarded := by
    rw [turn_of_only (by decide) hu]
    exact (gathered_calm _ _ _).1
  have hanswers : s.Answers event.client u.registry := answers_rehearsed true _ _
  obtain ⟨ids, heading, lines, hcatalogue, hsaid, hshown⟩ :=
    handbook_agrees s hconsults hu hanswers (hregistry ▸ wellNamed_guarded)
  have hlisted : 0 ∈ ids := by
    rw [hcatalogue.through 0 _ (by rw [hregistry]; rfl) event "ale" w rfl hregistry.symm
      (by decide)]
    decide +kernel
  obtain ⟨entries, texts, o, hpages, hmem, -, -, -, -, -, hutterances, -⟩ :=
    hshown 0 hlisted _ (by rw [hregistry]; rfl) nestingLimit line "!" 2 _ w rfl hregistry.symm
      looksUp_rehearsed
  refine ⟨u, ids, texts, hu, hlisted, hutterances, ?_, hpages.found⟩
  intro hnone
  have hlength := hpages.length_eq
  rw [hnone] at hlength
  rw [List.length_eq_zero_iff.mp hlength.symm] at hmem
  cases hmem

end Setup

end Switchboard
