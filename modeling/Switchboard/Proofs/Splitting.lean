import Switchboard.Proofs.Addressing

/-!
# Proofs — Splitting

What a line is taken apart into.  Nothing of a line is lost but its line ends and the spaces after
the word: before them stands the marker, in whatever case of its letters, then the longest word,
then the longest run of spaces, and the text is all that is left, as it stands.

* `Line.Parts`: the parts of a line.
* `Line.split?_eq_none`, `Line.split?_eq_some`: a line that does not begin with the marker is not
  taken apart, and any other one into its parts.
* `Line.split?_append`: line ends at the end make no difference.
* `split?_parts`: what a switchboard makes of a line.
-/

namespace Switchboard

namespace Line

open Text

/-- **The parts of a line** that begins with a marker. -/
structure Parts (marker : List Char) where
  /-- What the marker is written as. -/
  front : List Char
  word : List Char
  spaces : List Char
  text : List Char
  front_same : Same marker front
  word_chars : ∀ c ∈ word, isWord c = true
  /-- The word goes on as long as there are word characters. -/
  word_ends : ∀ c ∈ (spaces ++ text).head?, isWord c = false
  spaces_only : ∀ c ∈ spaces, c = ' '
  /-- The spaces go on as long as there are any. -/
  spaces_end : text.head? ≠ some ' '

/-- The line that has the parts. -/
def Parts.line {marker : List Char} (p : Parts marker) : List Char :=
  p.front ++ (p.word ++ (p.spaces ++ p.text))

section

variable {marker line word text : List Char}

/-- **A line is not taken apart exactly if it does not begin with the marker.** -/
theorem split?_eq_none :
    split? marker line = none ↔
      ¬ ∃ front rest, dropEndWhile isLineEnd line = front ++ rest ∧ Same marker front := by
  rw [split?, Option.map_eq_none_iff]
  constructor
  · rintro hnone ⟨front, rest, hline, hsame⟩
    cases hnone.symm.trans (dropSame?_eq_some.mpr ⟨front, hline, hsame⟩)
  · intro h
    cases hfront : dropSame? marker (dropEndWhile isLineEnd line) with
    | none => rfl
    | some rest =>
        obtain ⟨front, hline, hsame⟩ := dropSame?_eq_some.mp hfront
        exact absurd ⟨front, rest, hline, hsame⟩ h

/-- The word and the text of a line are those of its parts. -/
theorem split?_of_parts (p : Parts marker) (h : p.line = dropEndWhile isLineEnd line) :
    split? marker line = some (p.word, p.text) := by
  have hfront : dropSame? marker (dropEndWhile isLineEnd line) =
      some (p.word ++ (p.spaces ++ p.text)) :=
    dropSame?_eq_some.mpr ⟨p.front, h.symm, p.front_same⟩
  have hspaces : ∀ c ∈ p.spaces, (c == ' ') = true := by simpa using p.spaces_only
  have htext : ∀ c ∈ p.text.head?, (c == ' ') = false := by
    intro c hc
    have hne : c ≠ ' ' := by
      rintro rfl
      exact p.spaces_end hc
    simpa using hne
  obtain ⟨hdropWord, htakeWord⟩ := dropWhile_of_head p.word_ends
  rw [split?, hfront, Option.map_some, List.takeWhile_append_of_pos p.word_chars,
    List.dropWhile_append_of_pos p.word_chars, htakeWord, hdropWord,
    List.dropWhile_append_of_pos hspaces, (dropWhile_of_head htext).1, List.append_nil]

/-- **A line is taken apart into the word and the text of its parts.** -/
theorem split?_eq_some :
    split? marker line = some (word, text) ↔
      ∃ p : Parts marker, p.line = dropEndWhile isLineEnd line ∧ p.word = word ∧ p.text = text := by
  constructor
  · intro h
    obtain ⟨rest, hfront, hrest⟩ := Option.map_eq_some_iff.mp h
    obtain ⟨front, hline, hsame⟩ := dropSame?_eq_some.mp hfront
    cases hrest
    have hgap : (rest.dropWhile isWord).takeWhile (· == ' ') ++
        (rest.dropWhile isWord).dropWhile (· == ' ') = rest.dropWhile isWord :=
      List.takeWhile_append_dropWhile
    have hparts : front ++ (rest.takeWhile isWord ++
        ((rest.dropWhile isWord).takeWhile (· == ' ') ++
          (rest.dropWhile isWord).dropWhile (· == ' '))) = dropEndWhile isLineEnd line := by
      rw [hgap, List.takeWhile_append_dropWhile, hline]
    exact ⟨{
      front
      word := rest.takeWhile isWord
      spaces := (rest.dropWhile isWord).takeWhile (· == ' ')
      text := (rest.dropWhile isWord).dropWhile (· == ' ')
      front_same := hsame
      word_chars := fun c hc => List.mem_takeWhile_imp hc
      word_ends := fun c hc => of_mem_head?_dropWhile (hgap ▸ hc)
      spaces_only := fun c hc => by simpa using List.mem_takeWhile_imp hc
      spaces_end := fun hspace => by simpa using of_mem_head?_dropWhile hspace }, hparts, rfl, rfl⟩
  · rintro ⟨p, hline, rfl, rfl⟩
    exact split?_of_parts p hline

/-- **Line ends at the end of a line make no difference.** -/
theorem split?_append {ends : List Char} (h : ∀ c ∈ ends, isLineEnd c = true) :
    split? marker (line ++ ends) = split? marker line := by
  rw [split?, dropEndWhile_append h, split?]

end

end Line

namespace Setup

variable {σ : Type}

/-- A switchboard takes a line apart by the marker that it reads. -/
theorem result_split? (s : Setup σ) (w : World σ) (line : String) :
    (s.split? (.text line)).result w =
      (Line.split? (s.marker.result w).toList line.toList).map fun given =>
        (String.ofList given.1, given.2) :=
  rfl

/-- **What a switchboard makes of a line.**  Let a marker be read, whatever it is.  A line without
its line ends is not for the switchboard exactly if it does not begin with the marker, compared
letter by letter without regard to case.  Otherwise it is taken apart into a word and a text exactly
as its parts are, of which nothing is lost.  Line ends at the end of the line make no difference. -/
theorem split?_parts (s : Setup σ) (w : World σ) {marker : String}
    (hmarker : s.marker.result w = marker) (line : String) :
    let bare := Text.dropEndWhile Line.isLineEnd line.toList
    ((s.split? (.text line)).result w = none ↔
        ¬ ∃ front rest, bare = front ++ rest ∧ Text.Same marker.toList front) ∧
      (∀ word text, (s.split? (.text line)).result w = some (word, text) ↔
        ∃ p : Line.Parts marker.toList, p.line = bare ∧ p.word = word.toList ∧ p.text = text) ∧
      ∀ ends : String, (∀ c ∈ ends.toList, Line.isLineEnd c = true) →
        (s.split? (.text (line ++ ends))).result w = (s.split? (.text line)).result w := by
  subst hmarker
  intro bare
  refine ⟨?_, fun word text => ?_, fun ends hends => ?_⟩
  · rw [result_split?, Option.map_eq_none_iff, Line.split?_eq_none]
  · have hword (given : List Char) : String.ofList given = word ↔ given = word.toList :=
      ⟨fun h => by rw [← h, String.toList_ofList], fun h => by rw [h, String.ofList_toList]⟩
    rw [result_split?, ← Line.split?_eq_some, Option.map_eq_some_iff]
    simp [hword]
  · rw [result_split?, result_split?, String.toList_append, Line.split?_append hends]

/-- A marker of a letter and two signs, in a line that writes the letter as the sign for kelvins:
the text goes over a line end, and the line ends after it are cut off.  A line with half of the
marker is not for the switchboard. -/
theorem split?_parts_rehearsed :
    let s : Setup Rehearsal.Cast := {
      host := Rehearsal.host fun _ => "", config := { marker := .fixed "k.(" } }
    let w : World Rehearsal.Cast := { memory := {} }
    s.marker.result w = "k.(" ∧
      (s.split? (.text ("\u212A.(ale  5\n6" ++ "\r\n"))).result w = some ("ale", "5\n6".toList) ∧
      (s.split? (.text "k.ale")).result w = none := by
  intro s w
  have hmarker : s.marker.result w = "k.(" := rfl
  let parts : Line.Parts "k.(".toList := {
    front := ['\u212A', '.', '(']
    word := ['a', 'l', 'e']
    spaces := [' ', ' ']
    text := ['5', '\n', '6']
    front_same := .cons rfl (.cons rfl (.cons rfl .nil))
    word_chars := List.forall_mem_cons.mpr
      ⟨rfl, List.forall_mem_cons.mpr ⟨rfl, List.forall_mem_singleton.mpr rfl⟩⟩
    word_ends := by
      intro c hc
      cases hc
      rfl
    spaces_only := by simp
    spaces_end := by simp }
  have hlineEnds : ∀ c ∈ "\r\n".toList, Line.isLineEnd c = true := by simp [Line.isLineEnd]
  obtain ⟨-, hsome, hends⟩ := split?_parts s w hmarker "\u212A.(ale  5\n6"
  obtain ⟨hnone, -, -⟩ := split?_parts s w hmarker "k.ale"
  refine ⟨hmarker, ?_, hnone.mpr ?_⟩
  · rw [hends "\r\n" hlineEnds]
    exact (hsome "ale" "5\n6".toList).mpr ⟨parts, rfl, rfl, rfl⟩
  · rintro ⟨front, rest, hline, hsame⟩
    obtain _ | ⟨-, _ | ⟨-, _ | ⟨hletter, _ | _⟩⟩⟩ := hsame
    cases hline
    cases hletter

end Setup

end Switchboard
