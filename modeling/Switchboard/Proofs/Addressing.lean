import Switchboard.Proofs.Cutting
import Switchboard.Proofs.Letters
import Switchboard.Proofs.Names
import Switchboard.Proofs.Running
import Switchboard.Rehearsal

/-!
# Proofs — Addressing

Which lines reach a command by its names.  A line is taken apart after the first run of word
characters, while a name may be any text that is not empty.  So a name made of word characters is
reached by every line that gives it after the marker, and any other name is reached by no line at
all, though the command is listed, found under the name, and shown with it.

* `Line.split?_spaced`, `Line.split?_bare`: lines that give a name of word characters.
* `Line.isWord_of_split?`: what a line gives is made of word characters.
* `Gives`, `gives_name`: the lines that a command's usage promises, and when they reach it.
-/

namespace Switchboard

namespace Line

open Text

/-! ### Taking a line apart -/

section

variable {marker name : List Char}

/-- What a line gives after the marker is made of word characters. -/
theorem isWord_of_split? {line word text : List Char} (h : split? marker line = some (word, text)) :
    ∀ c ∈ word, isWord c = true := by
  obtain ⟨rest, -, hrest⟩ := Option.map_eq_some_iff.mp h
  cases hrest
  exact fun c hc => List.mem_takeWhile_imp hc

/-- No word character is a line end. -/
theorem isLineEnd_of_isWord {c : Char} (h : isWord c = true) : isLineEnd c = false := by
  cases hend : isLineEnd c with
  | false => rfl
  | true =>
      rcases (Bool.or_eq_true _ _).mp hend with hc | hc
      all_goals
        rw [eq_of_beq hc] at h
        cases h

/-- A name of word characters is the word before a space. -/
theorem split?_spaced (hname : ∀ c ∈ name, isWord c = true) (args : List Char) :
    split? marker (marker ++ name ++ ' ' :: args) =
      some (name, (dropEndWhile isLineEnd args).dropWhile (· == ' ')) := by
  have hspace : isWord ' ' = false := rfl
  -- The space is no line end, so only the arguments can lose any.
  have hcut : dropEndWhile isLineEnd (marker ++ name ++ ' ' :: args) =
      marker ++ (name ++ ' ' :: dropEndWhile isLineEnd args) := by
    have hlast : ∀ c ∈ (marker ++ name ++ [' ']).getLast?, isLineEnd c = false := by
      intro c hc
      rw [List.getLast?_concat] at hc
      cases hc
      rfl
    simpa using dropEndWhile_append_of_last hlast args
  rw [split?, hcut, dropSame?_append, Option.map_some, List.takeWhile_append_of_pos hname,
    List.dropWhile_append_of_pos hname]
  simp [hspace]

/-- A name of word characters is the word at the end. -/
theorem split?_bare (hname : ∀ c ∈ name, isWord c = true) (hne : name ≠ []) :
    split? marker (marker ++ name) = some (name, []) := by
  have hlast : ∀ c ∈ (marker ++ name).getLast?, isLineEnd c = false := by
    intro c hc
    rw [List.getLast?_append, List.getLast?_eq_some_getLast hne] at hc
    cases hc
    exact isLineEnd_of_isWord (hname _ (List.getLast_mem hne))
  have htake : name.takeWhile isWord = name := by simpa using hname
  have hdrop : name.dropWhile isWord = [] := by simpa using hname
  rw [split?, dropEndWhile_of_last hlast, dropSame?_append, Option.map_some, htake, hdrop]
  rfl

end

end Line

/-! ### Lines for a name -/

/-- The text is made of word characters. -/
def Text.Wordlike (text : String) : Prop := ∀ c ∈ text.toList, isWord c = true

namespace Setup

variable {σ : Type}

/-- The line is one for the switchboard, and gives this name. -/
def Gives (s : Setup σ) (w : World σ) (line name : String) : Prop :=
  ∃ text, (s.split? (.text line)).result w = some (name, text)

section

variable {s : Setup σ} {marker : String} (hmarker : s.marker = pure marker) {w : World σ}

include hmarker

/-- Under a fixed marker, what a line gives does not depend on the world. -/
theorem gives_iff {line name : String} :
    s.Gives w line name ↔
      ∃ text, Line.split? marker.toList line.toList = some (name.toList, text) := by
  have hsplit : (s.split? (.text line)).result w =
      (Line.split? marker.toList line.toList).map fun given =>
        (String.ofList given.1, given.2) := by
    rw [split?, hmarker, pure_bind]
    rfl
  rw [Gives, hsplit]
  constructor
  · rintro ⟨text, h⟩
    obtain ⟨⟨word, text⟩, hline, heq⟩ := Option.map_eq_some_iff.mp h
    cases heq
    exact ⟨text, by rw [hline, String.toList_ofList]⟩
  · rintro ⟨text, h⟩
    exact ⟨text, by simp [h, String.ofList_toList]⟩

theorem Gives.wordlike {line name : String} (h : s.Gives w line name) : Text.Wordlike name := by
  obtain ⟨text, hline⟩ := (gives_iff hmarker).mp h
  exact Line.isWord_of_split? hline

theorem gives_spaced {name : String} (hname : Text.Wordlike name) (args : String) :
    s.Gives w (marker ++ name ++ " " ++ args) name := by
  have htext : (marker ++ name ++ " " ++ args).toList =
      marker.toList ++ name.toList ++ ' ' :: args.toList := by simp
  refine (gives_iff hmarker).mpr
    ⟨(Text.dropEndWhile Line.isLineEnd args.toList).dropWhile (· == ' '), ?_⟩
  rw [htext]
  exact Line.split?_spaced hname args.toList

theorem gives_bare {name : String} (hname : Text.Wordlike name) (hne : name ≠ "") :
    s.Gives w (marker ++ name) name := by
  refine (gives_iff hmarker).mpr ⟨[], ?_⟩
  rw [String.toList_append]
  exact Line.split?_bare hname (by simpa using hne)

end

/-- **Which lines reach a command by its names.**  Let the marker be fixed, and let a command of a
registry whose names were all accepted be listed and enabled.  The command comes up for each of its
names.  A line that has the name after the marker, alone or with a space and any text after it,
gives the name exactly if the name is made of word characters; and for the name proper, this goes
for the usage line as well. -/
theorem gives_name (s : Setup σ) {marker : String} (hmarker : s.marker = pure marker)
    {w : World σ} (hnamed : w.registry.WellNamed) {id : CommandId} {c : Command}
    (hc : w.registry.command? id = some c) (hlisted : c.isListed = true)
    (henabled : c.enabled = true) {name : String} (hname : name ∈ c.names) :
    id ∈ w.registry.find name ∧
      (∀ args, s.Gives w (marker ++ name ++ " " ++ args) name ↔ Text.Wordlike name) ∧
      (s.Gives w (marker ++ name) name ↔ Text.Wordlike name) ∧
      (s.Gives w (w.registry.usage marker c) c.name ↔ Text.Wordlike c.name) := by
  have hne : name ≠ "" := (hnamed id c hc).nonempty name hname
  refine ⟨?_, fun args => ⟨Gives.wordlike hmarker, fun h => gives_spaced hmarker h args⟩,
    ⟨Gives.wordlike hmarker, fun h => gives_bare hmarker h hne⟩,
    ⟨Gives.wordlike hmarker, fun h => gives_spaced hmarker h _⟩⟩
  exact Registry.mem_find.mpr ⟨c, hc, hlisted, List.contains_iff_mem.mpr hname, henabled⟩

/-- A command under a name with a hyphen in it, which no line gives, and an alias of one letter,
which a line gives: it comes up for both. -/
theorem gives_name_rehearsed :
    let s : Setup Rehearsal.Cast := { host := Rehearsal.host fun _ => "" }
    let w : World Rehearsal.Cast := {
      registry := .applyAll {} [.create (.text "my-cmd") .unset,
        .declare 0 (.addAliases [.text "c"])]
      memory := {} }
    s.marker = pure "!" ∧ w.registry.WellNamed ∧ 0 ∈ w.registry.find "c" ∧
      0 ∈ w.registry.find "my-cmd" ∧ s.Gives w ("!" ++ "c" ++ " " ++ "now") "c" ∧
      ¬ s.Gives w ("!" ++ "my-cmd") "my-cmd" := by
  intro s w
  have hmarker : s.marker = pure "!" := rfl
  have hnamed : w.registry.WellNamed := Registry.wellNamed_applyAll Registry.wellNamed_empty _
  have hc : w.registry.command? 0 =
      some { name := "my-cmd", aliases := ["c"], standing := .listed } := rfl
  obtain ⟨halias, hgiven, -, -⟩ := gives_name s hmarker hnamed hc rfl rfl (.tail _ (.head _))
  obtain ⟨hname, -, hbare, -⟩ := gives_name s hmarker hnamed hc rfl rfl (.head _)
  have hwordlike : Text.Wordlike "c" := by
    intro x hx
    cases List.mem_singleton.mp hx
    rfl
  have hhyphen : ¬ Text.Wordlike "my-cmd" := by
    intro h
    have hword := h '-' (by decide)
    cases hword
  exact ⟨hmarker, hnamed, halias, hname, (hgiven "now").mpr hwordlike,
    fun h => hhyphen (hbare.mp h)⟩

/-- A name with a hyphen in it: the line that has it gives what stands before the hyphen, and for
this no command comes up. -/
theorem not_gives_hyphened_rehearsed :
    let s : Setup Rehearsal.Cast := { host := Rehearsal.host fun _ => "" }
    let w : World Rehearsal.Cast := {
      registry := .applyAll {} [.create (.text "my-cmd") .unset], memory := {} }
    s.marker = pure "!" ∧
      (∃ c, w.registry.command? 0 = some c ∧ c.isListed = true ∧ c.enabled = true ∧
        c.name = "my-cmd") ∧
      (s.split? (.text ("!" ++ "my-cmd" ++ " " ++ "a"))).result w =
        some ("my", "-cmd a".toList) ∧
      ¬ s.Gives w ("!" ++ "my-cmd" ++ " " ++ "a") "my-cmd" ∧ w.registry.find "my" = [] := by
  intro s w
  have hline : (s.split? (.text ("!" ++ "my-cmd" ++ " " ++ "a"))).result w =
      some ("my", "-cmd a".toList) := rfl
  refine ⟨rfl, ⟨_, rfl, rfl, rfl, rfl⟩, hline, ?_, rfl⟩
  rintro ⟨text, hgiven⟩
  rw [hline] at hgiven
  simp at hgiven

end Setup

end Switchboard
