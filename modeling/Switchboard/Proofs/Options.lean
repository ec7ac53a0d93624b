import Mathlib.Data.List.Forall2
import Switchboard.Proofs.Running
import Switchboard.Proofs.Settings

/-!
# Proofs — Options

How settings are given and how they are used.  A mapping of options is settings given directly, with
others laid over them.  The marker is read whenever it is needed; whatever an accessor answers then,
it is a text that is not empty.

* `Under`, `Chosen`, `Overlaid`: what a mapping has under a name, and what is laid over it.
* `Overlaid.load_eq`, `exists_overlaid`: a mapping of options is settings given directly.
* `Shows`, `marker_shows`: what one answer of an accessor shows.
* `markers_show`, `markers_ne_empty`: however often the marker is read, it is never empty.
* `settings_settled`: all of this together.
-/

namespace Switchboard

namespace Config

variable {v : Value} {s : Settings} {c : Config}

/-! ### Mappings of options -/

variable {entries : List (Value × Value)} {name : String}

/-- What a mapping has under a name: the value of the first entry whose key is that text. -/
inductive Under (entries : List (Value × Value)) (name : String) : Option Value → Prop where
  | entry {before after : List (Value × Value)} {v : Value}
      (h : entries = before ++ (.text name, v) :: after)
      (hfirst : ∀ e ∈ before, e.1 ≠ .text name) : Under entries name (some v)
  | missing (h : ∀ e ∈ entries, e.1 ≠ .text name) : Under entries name none

theorem isText_iff {t : String} : v.isText t = true ↔ v = .text t := by
  cases v <;> simp [Value.isText]

theorem under_option? (entries : List (Value × Value)) (name : String) :
    Under entries name (option? entries name) := by
  unfold option?
  cases hfind : entries.find? (·.1.isText name) with
  | none =>
      refine .missing fun e he hkey => ?_
      have hno := List.find?_eq_none.mp hfind e he
      exact hno (isText_iff.mpr hkey)
  | some e =>
      obtain ⟨hkey, before, after, hentries, hfirst⟩ := List.find?_eq_some_iff_append.mp hfind
      have hsplit : entries = before ++ (.text name, e.2) :: after := by
        rw [← isText_iff.mp hkey]
        exact hentries
      refine .entry hsplit fun e' he' hkey' => ?_
      have hno := hfirst e' he'
      rw [isText_iff.mpr hkey'] at hno
      cases hno

/-- A mapping has one value under a name at most. -/
theorem Under.eq_option? {found : Option Value} (h : Under entries name found) :
    option? entries name = found := by
  unfold option?
  cases h with
  | missing hno =>
      rw [List.find?_eq_none.mpr fun e he hkey => hno e he (isText_iff.mp hkey)]
      rfl
  | @entry before after v hentries hfirst =>
      have hbefore : before.find? (·.1.isText name) = none :=
        List.find?_eq_none.mpr fun e he hkey => hfirst e he (isText_iff.mp hkey)
      have hkey : Value.isText (.text name) name = true := isText_iff.mpr rfl
      rw [hentries, List.find?_append, hbefore, Option.none_or,
        List.find?_cons_of_pos (p := fun e : Value × Value => e.1.isText name) hkey]
      rfl

/-- What a setting is given as: in place of a mapping, in the mapping, or not at all. -/
inductive Chosen (entries : List (Value × Value)) (name : String) (fallback : Value) :
    Option Value → Value → Prop where
  | override (v : Value) : Chosen entries name fallback (some v) v
  | entry {v : Value} (h : Under entries name (some v)) : Chosen entries name fallback none v
  | fallback (h : Under entries name none) : Chosen entries name fallback none fallback

/-- Settings are those of a mapping, with others laid over them. -/
structure Overlaid (entries : List (Value × Value)) (o : Overrides) (s : Settings) : Prop where
  marker : Chosen entries "PREFIX" .unset none s.marker
  answerUnknown : Chosen entries "NOT_FOUND_MESSAGE" (.bool true) o.answerUnknown s.answerUnknown
  verbosity : Chosen entries "DEBUGLEVEL" (.verbosity .info) o.verbosity s.verbosity
  bold : s.bold = o.bold

theorem Chosen.eq_getD {fallback : Value} {overrides : Option Value}
    (h : Chosen entries name fallback overrides v) :
    (overrides.or (option? entries name)).getD fallback = v := by
  cases h with
  | override => rfl
  | entry h | fallback h =>
      rw [h.eq_option?]
      rfl

theorem exists_chosen (entries : List (Value × Value)) (name : String) (fallback : Value)
    (overrides : Option Value) : ∃ v, Chosen entries name fallback overrides v := by
  cases overrides with
  | some v => exact ⟨v, .override v⟩
  | none =>
      have hunder := under_option? entries name
      cases hfound : option? entries name with
      | some v =>
          rw [hfound] at hunder
          exact ⟨v, .entry hunder⟩
      | none =>
          rw [hfound] at hunder
          exact ⟨fallback, .fallback hunder⟩

/-- **A mapping of options is settings given directly.** -/
theorem Overlaid.load_eq {o : Overrides} (h : Overlaid entries o s) :
    load (.mapping entries) o = make s := by
  have hmarker : (option? entries "PREFIX").getD .unset = s.marker := h.marker.eq_getD
  have hanswer := h.answerUnknown.eq_getD
  have hverbosity := h.verbosity.eq_getD
  show make { marker := _, answerUnknown := _, verbosity := _, bold := o.bold } = make s
  rw [hmarker, hanswer, hverbosity, ← h.bold]

/-- **Options can always be laid over a mapping.** -/
theorem exists_overlaid (entries : List (Value × Value)) (o : Overrides) :
    ∃ s, Overlaid entries o s := by
  obtain ⟨marker, hmarker⟩ := exists_chosen entries "PREFIX" .unset none
  obtain ⟨answer, hanswer⟩ :=
    exists_chosen entries "NOT_FOUND_MESSAGE" (.bool true) o.answerUnknown
  obtain ⟨verbosity, hverbosity⟩ :=
    exists_chosen entries "DEBUGLEVEL" (.verbosity .info) o.verbosity
  exact ⟨⟨marker, answer, verbosity, o.bold⟩, hmarker, hanswer, hverbosity, rfl⟩

/-- Only a mapping has options. -/
theorem load_of_not_mapping (h : ∀ entries, v ≠ .mapping entries) (o : Overrides) :
    load v o = .error .notMapping := by
  cases v with
  | mapping entries => exact absurd rfl (h entries)
  | _ => rfl

end Config

/-! ### Reading the marker -/

variable {σ : Type}

/-- What an accessor's answer shows as the marker: a text that is not empty shows itself, and for
all else the default marker stands in. -/
inductive Shows : Except Failure Value → String → Prop where
  | text {t : String} (h : t ≠ "") : Shows (.ok (.text t)) t
  | empty : Shows (.ok (.text "")) defaultMarker
  | other {v : Value} (h : ∀ t, v ≠ .text t) : Shows (.ok v) defaultMarker
  | failed (e : Failure) : Shows (.error e) defaultMarker

theorem Shows.ne_empty {answer : Except Failure Value} {marker : String}
    (h : Shows answer marker) : marker ≠ "" := by
  cases h with
  | text h => exact h
  | empty | other | failed => decide

/-- An answer shows one marker. -/
theorem Shows.unique {answer : Except Failure Value} {marker marker' : String}
    (h : Shows answer marker) (h' : Shows answer marker') : marker = marker' := by
  cases h with
  | text hne =>
      cases h' with
      | text => rfl
      | empty => exact absurd rfl hne
      | other hother => exact absurd rfl (hother _)
  | empty =>
      cases h' with
      | text hne => exact absurd rfl hne
      | empty => rfl
      | other => rfl
  | other hother =>
      cases h' with
      | text => exact absurd rfl (hother _)
      | empty | other => rfl
  | failed => cases h'; rfl

theorem shows_markerText (v : Value) : Shows (.ok v) (Setup.markerText v) := by
  cases v with
  | text t =>
      by_cases ht : t = ""
      · rw [ht]
        exact .empty
      · have hmarker : Setup.markerText (.text t) = t := by simp [Setup.markerText, ht]
        rw [hmarker]
        exact .text ht
  | _ => exact .other nofun

namespace Setup

variable (s : Setup σ)

/-- What is asked when the marker is needed: the host's accessor, if there is one. -/
def source : σ → Except Failure Value × σ :=
  match s.config.marker with
  | .unset => fun m => (.ok .unset, m)
  | .fixed t => fun m => (.ok (.text t), m)
  | .asked (.constant v) => fun m => (.ok v, m)
  | .asked (.host id) => s.host.readMarker id

/-- What the source answers when it is asked some times in a row. -/
def answers : Nat → σ → List (Except Failure Value)
  | 0, _ => []
  | n + 1, memory => (s.source memory).1 :: answers n (s.source memory).2

@[simp] theorem length_answers (n : Nat) (memory : σ) : (s.answers n memory).length = n := by
  induction n generalizing memory with
  | zero => rfl
  | succ n ih => simp [answers, ih]

/-- Reads the marker some times in a row. -/
def markers : Nat → Step σ (List String)
  | 0 => return []
  | n + 1 => do
    let marker ← s.marker
    return marker :: (← markers n)

/-- Asking a host's accessor gives what its answer shows, and leaves what the host remembers. -/
theorem marker_asked {id : Nat} (h : s.config.marker = .asked (.host id)) (w : World σ) :
    s.marker.result w =
        (match (s.host.readMarker id w.memory).1 with
          | .ok v => markerText v
          | .error _ => defaultMarker) ∧
      (s.marker.after w).memory = (s.host.readMarker id w.memory).2 := by
  have hask : (Run.ask (s.host.readMarker id)).result w = (s.host.readMarker id w.memory).1 := rfl
  simp only [marker, h, Step.result_bind, Step.after_bind, Run.step_result_run, hask]
  cases (s.host.readMarker id w.memory).1 <;> exact ⟨rfl, rfl⟩

/-- **One reading of the marker** asks the source once and shows what it answers. -/
theorem marker_shows (w : World σ) :
    Shows (s.source w.memory).1 (s.marker.result w) ∧
      (s.marker.after w).memory = (s.source w.memory).2 := by
  cases hmarker : s.config.marker with
  | unset =>
      simp only [source, marker, hmarker]
      exact ⟨shows_markerText .unset, rfl⟩
  | fixed t =>
      simp only [source, marker, hmarker]
      exact ⟨shows_markerText (.text t), rfl⟩
  | asked accessor =>
      cases accessor with
      | constant v =>
          simp only [source, marker, hmarker]
          exact ⟨shows_markerText v, rfl⟩
      | host id =>
          obtain ⟨hresult, hafter⟩ := s.marker_asked hmarker w
          rw [hresult, hafter]
          simp only [source, hmarker, and_true]
          cases (s.host.readMarker id w.memory).1 with
          | ok v => exact shows_markerText v
          | error e => exact .failed e

/-- **However often the marker is read, each reading shows one answer.** -/
theorem markers_show (n : Nat) (w : World σ) :
    List.Forall₂ Shows (s.answers n w.memory) ((s.markers n).result w) := by
  induction n generalizing w with
  | zero => exact .nil
  | succ n ih =>
      obtain ⟨hshows, hmemory⟩ := s.marker_shows w
      have hmore := ih (s.marker.after w)
      rw [hmemory] at hmore
      exact .cons hshows hmore

/-- **The marker is never empty.** -/
theorem markers_ne_empty (n : Nat) (w : World σ) {marker : String}
    (h : marker ∈ (s.markers n).result w) : marker ≠ "" := by
  induction n generalizing w with
  | zero => cases h
  | succ n ih =>
      rcases List.mem_cons.mp h with rfl | hmore
      · exact (s.marker_shows w).1.ne_empty
      · exact ih (s.marker.after w) hmore

end Setup

/-! ### Settings -/

open Config in
/-- **Settings are settled or refused.**  A config is made of settings that all mean something, and
it can be given again beside any others as it was read; else the first setting that means nothing is
blamed.  A degree can be spelled in every way.  A mapping of options is settings given directly,
with others laid over them.  Whatever an accessor answers, the marker is not empty. -/
theorem settings_settled (given : Settings) (options : Value) (overrides : Overrides) (s : Setup σ)
    (n : Nat) (w : World σ) :
    ((∃ c, make given = .ok c ∧ Meant given c ∧
        ∀ others c', make others = .ok c' →
          make { others with
            answerUnknown := .bool c.answerUnknown
            verbosity := .verbosity c.verbosity } =
          .ok { c' with answerUnknown := c.answerUnknown, verbosity := c.verbosity }) ∨
      ∃ e, make given = .error e ∧ Refused given e) ∧
    (∀ l v, Spells l v →
      make { given with verbosity := v } = make { given with verbosity := .verbosity l }) ∧
    ((∃ entries overlaid, options = .mapping entries ∧ Overlaid entries overrides overlaid ∧
        load options overrides = make overlaid) ∨
      (∀ entries, options ≠ .mapping entries) ∧ load options overrides = .error .notMapping) ∧
    List.Forall₂ Shows (s.answers n w.memory) ((s.markers n).result w) ∧
    ((s.markers n).result w).length = n ∧ ∀ marker ∈ (s.markers n).result w, marker ≠ "" := by
  refine ⟨?_, fun l v hv => make_verbosity hv.means given, ?_, s.markers_show n w, ?_, ?_⟩
  · rcases make_cases given with ⟨c, hc, hmeant⟩ | hrefused
    · exact .inl ⟨c, hc, hmeant, fun others c' h => (meant_of_make h).again c⟩
    · exact .inr hrefused
  · by_cases hmapping : ∃ entries, options = .mapping entries
    · obtain ⟨entries, rfl⟩ := hmapping
      obtain ⟨overlaid, h⟩ := exists_overlaid entries overrides
      exact .inl ⟨entries, overlaid, rfl, h, h.load_eq⟩
    · rw [not_exists] at hmapping
      exact .inr ⟨hmapping, load_of_not_mapping hmapping overrides⟩
  · rw [← (s.markers_show n w).length_eq, s.length_answers]
  · exact fun marker hmarker => s.markers_ne_empty n w hmarker

/-! ### A host that gives the answers it is told to give -/

/-- A host whose accessor has a list of answers to give, one after the other. -/
def scripted : Host (List (Except Failure Value)) where
  readMarker _ answers := (answers.headD (.ok .null), answers.tail)
  embolden _ text m := (.ok (.text text), m)
  permits _ _ m := (.ok (.bool true), m)
  deliver _ _ m := (.ok (), m)
  handle _ _ := .done .null

/-- Settings as they come from a list of choices: yes is the first choice, and the degree is spelled
in letters of either case. -/
def looseSettings : Settings where
  marker := .callback 0
  answerUnknown := .text "0"
  verbosity := .text "\tVerbose "

/-- The config that they come to. -/
def looseConfig : Config where
  marker := .asked (.host 0)
  verbosity := .verbose

/-- The switchboard of a host that has answers to give. -/
def scriptedSetup : Setup (List (Except Failure Value)) where
  host := scripted
  config := looseConfig

/-- Every sequence of answers can be given. -/
theorem answers_scripted (answers : List (Except Failure Value)) :
    scriptedSetup.answers answers.length answers = answers := by
  induction answers with
  | nil => rfl
  | cons answer answers ih => exact congrArg (answer :: ·) ih

/-- A world where a marker is given once, and no text and an empty text after it. -/
def scriptedWorld : World (List (Except Failure Value)) where
  memory := [.ok (.text "?"), .ok (.int 7), .ok (.text "")]

theorem spells_loose : Config.Spells .verbose looseSettings.verbosity :=
  .name ['\t'] "Verbose".toList [' '] (List.all_eq_true.mp rfl) (List.all_eq_true.mp rfl) (by
    unfold Text.EitherCase
    decide)

theorem settings_settled_rehearsed :
    Config.make looseSettings = .ok looseConfig ∧
      Config.make { looseSettings with
        answerUnknown := .bool true
        verbosity := .verbosity .verbose } = .ok looseConfig ∧
      Config.make { looseSettings with verbosity := .text "\tVerbose " } =
        Config.make { looseSettings with verbosity := .verbosity .verbose } ∧
      (scriptedSetup.markers 3).result scriptedWorld = ["?", "!", "!"] := by
  have hmake : Config.make looseSettings = .ok looseConfig :=
    Config.Meant.make_eq ⟨.accessor rfl, .yes (by decide), spells_loose.means, .none⟩
  obtain ⟨hsettled, hspelled, -, hshows, -⟩ :=
    settings_settled looseSettings .null {} scriptedSetup 3 scriptedWorld
  have hanswers : scriptedSetup.answers 3 scriptedWorld.memory = scriptedWorld.memory :=
    answers_scripted scriptedWorld.memory
  refine ⟨hmake, ?_, hspelled .verbose _ spells_loose, ?_⟩
  · rcases hsettled with ⟨c, hc, -, hagain⟩ | ⟨e, he, -⟩
    · rw [hmake] at hc
      cases hc
      exact hagain looseSettings looseConfig hmake
    · rw [hmake] at he
      cases he
  · rw [hanswers] at hshows
    have hexpected : List.Forall₂ Shows scriptedWorld.memory ["?", "!", "!"] :=
      .cons (.text (by decide)) (.cons (.other nofun) (.cons .empty .nil))
    have hunique : Relator.RightUnique Shows := fun _ _ _ => Shows.unique
    exact hunique.forall₂ hshows hexpected

end Switchboard
