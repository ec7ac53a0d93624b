import Switchboard.Proofs.Cutting
import Switchboard.Proofs.Linking
import Switchboard.Proofs.Resolution

/-!
# Proofs — Link rows

Links to clients one after the other, read by as many arguments for clients.  Since a link is left
behind together with everything up to the last closing tag of its line, two links in one line are
never read one by one: the second one is lost with the first.  So a row of links is read without a
loss exactly if a line ends between any two of them and no closing tag stands in what is left of the
line of the last one.

* `Text.ink`, `exists_of_split?`: reading a reference uses up something that is not white space.
* `trailing`, `row`: links with white space between them, and a text after them.
* `exists_beyond_trailing`: what is left of a row is a row of no more links.
* `ink_lt_of_reads`: more arguments than links use up some of the text after the links.
* `reads_links`: what an argument reads of a link, and when arguments read a row of links.
-/

namespace Switchboard

/-! ### How much is written -/

namespace Text

/-- The number of characters that are not white space. -/
def ink (cs : List Char) : Nat := cs.countP fun c => !isBlank c

theorem ink_append (front cs : List Char) : ink (front ++ cs) = ink front + ink cs :=
  List.countP_append

theorem ink_of_blank {cs : List Char} (h : ∀ c ∈ cs, isBlank c = true) : ink cs = 0 := by
  refine List.countP_eq_zero.mpr fun c hc => ?_
  simp [h c hc]

theorem ink_pos {cs : List Char} {c : Char} (hc : c ∈ cs) (h : isBlank c = false) : 0 < ink cs :=
  List.countP_pos_iff.mpr ⟨c, hc, by simp [h]⟩

theorem ink_trim (cs : List Char) : ink (trim cs) = ink cs := by
  obtain ⟨front, back, hcs, hfront, hback⟩ := exists_trimWhile isBlank cs
  conv_rhs => rw [hcs]
  rw [ink_append, ink_append, ink_of_blank hfront, ink_of_blank hback, trim]
  omega

theorem ink_dropEndWhile (cs : List Char) : ink (dropEndWhile isBlank cs) = ink cs := by
  obtain ⟨back, hcs, hback⟩ := exists_dropEndWhile isBlank cs
  conv_rhs => rw [hcs]
  rw [ink_append, ink_of_blank hback, Nat.add_zero]

end Text

namespace ClientLink

open Text

/-! ### What a reference uses up -/

section

variable {cs left id : List Char}

theorem Keyed.equals_mem {p : Char → Prop} (h : Keyed p id) : '=' ∈ id := by
  obtain ⟨key, rfl, -⟩ := h
  simp

/-- What is found is part of the text. -/
theorem suffix_of_afterClosing {closed : Bool} {found : Option (List Char)}
    (h : afterClosing closed found cs = some left) : left <:+ cs ∨ found = some left := by
  induction cs generalizing closed found with
  | nil => exact .inr h
  | cons c cs ih =>
      rw [afterClosing] at h
      split at h
      · exact .inr h
      · rcases ih h with hmore | hfound
        · exact .inl (hmore.trans (List.suffix_cons c cs))
        · split at hfound
          · rcases Option.or_eq_some_iff.mp hfound with hdrop | ⟨-, hfound⟩
            · obtain ⟨tag, htag, -⟩ := dropSame?_eq_some.mp hdrop
              exact .inl ⟨tag, htag.symm⟩
            · exact .inr hfound
          · exact .inr hfound

/-- **What is read of a link**: an opening tag, a number, the unique id, and what stands before the
text that is left. -/
theorem exists_of_splitLink? (h : splitLink? cs = some (id, left)) :
    ∃ start number between, Same opening start ∧ Keyed (fun c => isIdChar c = true) id ∧
      cs = start ++ (number ++ '/' :: (id ++ '~' :: (between ++ left))) := by
  obtain ⟨afterOpening, hopening, hmore⟩ := Option.bind_eq_some_iff.mp h
  obtain ⟨start, rfl, hstart⟩ := dropSame?_eq_some.mp hopening
  obtain ⟨number, hnumber, -⟩ := exists_dropWhile isDecimal afterOpening
  dsimp only at hmore
  split at hmore
  · rename_i afterSlash hslash
    rw [hslash] at hnumber
    obtain ⟨⟨id', afterId⟩, hid, hlink⟩ := Option.bind_eq_some_iff.mp hmore
    obtain ⟨rfl, hkeyed⟩ := splitId?_eq_some.mp hid
    dsimp only at hlink
    split at hlink
    · obtain ⟨rest, hrest, hpair⟩ := Option.bind_eq_some_iff.mp hlink
      cases hpair
      rcases suffix_of_afterClosing hrest with ⟨between, rfl⟩ | hnone
      · exact ⟨start, number, between, hstart, hkeyed, by rw [hnumber]⟩
      · cases hnone
    · cases hlink
  · cases hmore

/-- **Reading a reference uses up an equals sign.** -/
theorem exists_of_split? (h : split? cs = some (id, left)) :
    ∃ front, cs = front ++ left ∧ '=' ∈ front := by
  obtain ⟨⟨id', rest⟩, hread, h⟩ := Option.bind_eq_some_iff.mp h
  cases h
  have hrest : ∃ front, cs = front ++ rest ∧ '=' ∈ front := by
    rcases Option.or_eq_some_iff.mp hread with hlink | ⟨-, hid⟩
    · obtain ⟨start, number, between, -, hkeyed, rfl⟩ := exists_of_splitLink? hlink
      exact ⟨start ++ (number ++ '/' :: (id ++ '~' :: between)), by simp, by simp [hkeyed.equals_mem]⟩
    · obtain ⟨rfl, hkeyed⟩ := splitId?_eq_some.mp hid
      exact ⟨id, rfl, hkeyed.equals_mem⟩
  obtain ⟨front, rfl, hequals⟩ := hrest
  obtain ⟨spaces, hspaces, -⟩ := exists_dropWhile (· == ' ') rest
  refine ⟨front ++ spaces, ?_, by simp [hequals]⟩
  rw [List.append_assoc, ← hspaces]

theorem ink_lt_of_validate {label : Label} {value : Value}
    (h : (Argument.client label).validate cs = .ok (value, left)) : ink left < ink cs := by
  rw [Argument.validate] at h
  split at h
  · cases h
  · rename_i id rest hsplit
    cases h
    obtain ⟨front, rfl, hequals⟩ := exists_of_split? hsplit
    have hpos : 0 < ink front := ink_pos hequals rfl
    rw [ink_append]
    omega

theorem beyond_of_not_closes (h : ¬ Closes cs) : beyond cs = cs := by
  rw [beyond, pastClosing?_eq_none.mpr h]
  rfl

/-- **A closing tag in the line is lost**, and what stands before it. -/
theorem ink_beyond_lt (h : Closes cs) : ink (beyond cs) < ink cs := by
  cases hfound : pastClosing? cs with
  | none => exact absurd h (pastClosing?_eq_none.mp hfound)
  | some rest =>
      obtain ⟨before, tag, rfl, -, htag, -⟩ := exists_of_pastClosing? hfound
      obtain ⟨word, rfl, -⟩ := exists_of_same_closing htag
      have hpos : 0 < ink (before ++ '[' :: (word ++ [']'])) :=
        ink_pos (List.mem_append_right _ (.head _)) rfl
      rw [beyond, hfound, Option.getD_some, ink_append _ rest]
      omega

theorem ink_beyond_le (cs : List Char) : ink (beyond cs) ≤ ink cs := by
  by_cases h : Closes cs
  · exact Nat.le_of_lt (ink_beyond_lt h)
  · rw [beyond_of_not_closes h]

/-- Arguments for clients use up what they read. -/
theorem ink_le_of_reads {labels : List Label}
    (h : Reads (labels.map .client) cs [] left) : ink left ≤ ink cs := by
  induction labels generalizing cs with
  | nil =>
      cases h
      exact Nat.le_refl _
  | cons label labels ih =>
      cases h with
      | accepted hread hmore =>
          have hless := ink_lt_of_validate hread
          have hrest := ih hmore
          rw [ink_trim] at hrest
          omega

end

/-! ### Rows of links -/

/-- A link with white space in front of it. -/
structure Spaced where
  gap : List Char
  link : Link
  gap_blank : ∀ c ∈ gap, isBlank c = true

/-- Links with white space in front of each, and a text after them. -/
def trailing : List Spaced → List Char → List Char
  | [], r => r
  | x :: more, r => x.gap ++ (x.link.text ++ trailing more r)

/-- A link, more links with white space in front of each, and a text after them. -/
def row (l : Link) (more : List Spaced) (r : List Char) : List Char := l.text ++ trailing more r

section

variable (l : Link) (x : Spaced) (more : List Spaced) (r : List Char)

/-- A link begins with a bracket. -/
theorem text_append (cs : List Char) : ∃ cs', l.text ++ cs = '[' :: cs' := ⟨_, rfl⟩

/-- A link is a closing tag with a part of a line before it. -/
theorem exists_text_eq : ∃ front, l.text = front ++ closing ∧ '\n' ∉ front := by
  refine ⟨opening ++ (l.number ++ '/' :: (l.id ++ '~' :: (l.target ++ ']' :: l.shown))),
    by simp [Link.text], ?_⟩
  have hopening : '\n' ∉ opening := by decide
  have hnumber : '\n' ∉ l.number := fun hmem => by cases l.number_decimal _ hmem
  have hid : '\n' ∉ l.id := by
    intro hmem
    rcases List.mem_append.mp hmem with hmem | hmem
    · cases l.key_chars _ hmem
    · cases List.mem_singleton.mp hmem
  have htarget : '\n' ∉ l.target := fun hmem => (l.target_plain _ hmem).2.2 rfl
  have hshown : '\n' ∉ l.shown := fun hmem => (l.shown_plain _ hmem).2.2 rfl
  simp [hopening, hnumber, hid, htarget, hshown]

/-- Behind a link, the search goes on, and ends there if nothing more is found. -/
theorem pastClosing?_text (cs : List Char) : pastClosing? (l.text ++ cs) = some (beyond cs) := by
  obtain ⟨front, hfront, hline⟩ := exists_text_eq l
  rw [hfront, List.append_assoc]
  exact pastClosing?_of_append (pastClosing?_tag (.refl closing) cs) hline

/-- A line that ends before any bracket has no closing tag in it. -/
theorem pastClosing?_gap (h : '\n' ∈ x.gap) (cs : List Char) :
    pastClosing? (x.gap ++ cs) = none := by
  obtain ⟨front, back, hgap, hline⟩ := List.eq_append_cons_of_mem h
  have hfront : ∀ c ∈ front, c ≠ '[' ∧ c ≠ '\n' := by
    intro c hc
    have hblank : isBlank c = true := x.gap_blank c (by simp [hgap, hc])
    constructor
    · rintro rfl
      cases hblank
    · rintro rfl
      exact hline hc
  rw [hgap, List.append_assoc, pastClosing?_append hfront]
  exact pastClosing?_newline (back ++ cs)

/-- If a line ends in front of a link, the link is left. -/
theorem beyond_trailing_of_line (h : '\n' ∈ x.gap) :
    beyond (trailing (x :: more) r) = trailing (x :: more) r := by
  rw [beyond, trailing, pastClosing?_gap x h]
  rfl

/-- If no line ends in front of a link, the link is lost. -/
theorem beyond_trailing_of_not_line (h : '\n' ∉ x.gap) :
    beyond (trailing (x :: more) r) = beyond (trailing more r) := by
  rw [beyond, trailing, pastClosing?_of_append (pastClosing?_text x.link _) h]
  rfl

/-- **Of a row of links, a row of no more links is left**, with all or some of the text after
them. -/
theorem exists_beyond_trailing :
    ∃ more' r', beyond (trailing more r) = trailing more' r' ∧ more'.length ≤ more.length ∧
      ink r' ≤ ink r := by
  induction more with
  | nil => exact ⟨[], beyond r, rfl, Nat.le_refl _, ink_beyond_le r⟩
  | cons x more ih =>
      by_cases hline : '\n' ∈ x.gap
      · exact ⟨x :: more, r, beyond_trailing_of_line x more r hline, Nat.le_refl _, Nat.le_refl _⟩
      · obtain ⟨more', r', hrest, hlength, hink⟩ := ih
        rw [beyond_trailing_of_not_line x more r hline]
        exact ⟨more', r', hrest, Nat.le_succ_of_le hlength, hink⟩

/-- **Cutting the end off a row of links** cuts it off the text after them. -/
theorem dropEndWhile_trailing :
    dropEndWhile isBlank (trailing more r) = trailing more (dropEndWhile isBlank r) := by
  induction more with
  | nil => rfl
  | cons x more ih =>
      have hlast : ∀ c ∈ (x.gap ++ x.link.text).getLast?, isBlank c = false := by
        intro c hc
        obtain ⟨front, hfront, -⟩ := exists_text_eq x.link
        have hclosing : closing = ['[', '/', 'U', 'R', 'L'] ++ [']'] := rfl
        rw [hfront, hclosing, ← List.append_assoc, ← List.append_assoc, List.getLast?_concat] at hc
        cases hc
        rfl
      have hcut := dropEndWhile_append_of_last hlast (trailing more r)
      rw [ih] at hcut
      rw [trailing, trailing, ← List.append_assoc, ← List.append_assoc]
      exact hcut

/-- **Trimming a row of links** takes the white space in front of it away. -/
theorem trim_trailing :
    trim (trailing (x :: more) r) = row x.link more (dropEndWhile isBlank r) := by
  have hfront : (trailing (x :: more) r).dropWhile isBlank = row x.link more r := by
    rw [trailing, List.dropWhile_append_of_pos x.gap_blank]
    obtain ⟨cs, hcs⟩ := text_append x.link (trailing more r)
    rw [row, hcs]
    rfl
  rw [trim, trimWhile, hfront]
  exact dropEndWhile_trailing (⟨[], x.link, List.forall_mem_nil _⟩ :: more) r

/-- A closing tag stands in a text exactly if it stands there without the white space at the end. -/
theorem closes_dropEndWhile : Closes (dropEndWhile isBlank r) ↔ Closes r := by
  constructor
  · rintro ⟨before, tag, after, hr, hbefore, htag⟩
    obtain ⟨back, hback, -⟩ := exists_dropEndWhile isBlank r
    exact ⟨before, tag, after ++ back, by rw [hback, hr, List.append_assoc], hbefore, htag⟩
  · rintro ⟨before, tag, after, rfl, hbefore, htag⟩
    refine ⟨before, tag, dropEndWhile isBlank after, ?_, hbefore, htag⟩
    refine dropEndWhile_append_of_last (fun c hc => ?_) after
    obtain ⟨word, rfl, -⟩ := exists_of_same_closing htag
    rw [← List.cons_append, ← List.append_assoc, List.getLast?_concat] at hc
    cases hc
    rfl

end

/-! ### Reading rows of links -/

section

variable {label : Label} {labels : List Label} {l : Link} {more : List Spaced} {r left : List Char}

theorem validate_row (label : Label) (l : Link) (more : List Spaced) (r : List Char) :
    (Argument.client label).validate (row l more r) =
      .ok (.text (String.ofList l.id), (beyond (trailing more r)).dropWhile (· == ' ')) := by
  rw [Argument.validate, row, split?_link]

/-- An argument reads the first link of a row, and the others read what is left. -/
theorem reads_cons_row (h : Reads ((label :: labels).map .client) (row l more r) [] left) :
    Reads (labels.map .client) (trim (beyond (trailing more r))) [] left := by
  cases h with
  | accepted hread hmore =>
      cases (validate_row label l more r).symm.trans hread
      rwa [trim, trimWhile_dropWhile isBlank_of_space] at hmore

/-- **More arguments than links** use up some of the text after the links. -/
theorem ink_lt_of_reads (h : Reads (labels.map .client) (trim (trailing more r)) [] left)
    (hless : more.length < labels.length) : ink left < ink r := by
  induction labels generalizing more r with
  | nil => cases hless
  | cons label labels ih =>
      rw [List.length_cons] at hless
      cases more with
      | nil =>
          cases h with
          | accepted hread hmore =>
              have hused := ink_lt_of_validate hread
              have hrest := ink_le_of_reads hmore
              rw [ink_trim] at hused hrest
              change ink _ < ink r at hused
              omega
      | cons x more =>
          rw [List.length_cons] at hless
          rw [trim_trailing] at h
          have hrest := reads_cons_row h
          obtain ⟨more', r', hmore', hlength, hr'⟩ :=
            exists_beyond_trailing more (dropEndWhile isBlank r)
          rw [hmore'] at hrest
          have hlt := ih hrest (by omega)
          rw [ink_dropEndWhile] at hr'
          omega

/-- **Arguments that read a row of links without a loss** are given a line for each. -/
theorem apart_of_reads (h : Reads (labels.map .client) (row l more r) [] (trim r))
    (hlabels : labels.length = more.length + 1) : (∀ x ∈ more, '\n' ∈ x.gap) ∧ ¬ Closes r := by
  induction more generalizing labels l r with
  | nil =>
      obtain ⟨label, rfl⟩ := List.length_eq_one_iff.mp hlabels
      have hleft : trim r = trim (beyond r) := (reads_cons_row h).left_of_nil
      refine ⟨nofun, fun hcloses => ?_⟩
      have hlost := ink_beyond_lt hcloses
      rw [← ink_trim r, hleft, ink_trim] at hlost
      exact Nat.lt_irrefl _ hlost
  | cons x more ih =>
      obtain ⟨label, labels, rfl⟩ := List.exists_cons_of_length_eq_add_one hlabels
      have hlabels' : labels.length = more.length + 1 := by simpa using hlabels
      have hmore := reads_cons_row h
      by_cases hline : '\n' ∈ x.gap
      · have htrim : trim r = trim (dropEndWhile isBlank r) :=
          (trimWhile_dropEndWhile (fun _ hc => hc) r).symm
        rw [beyond_trailing_of_line x more r hline, trim_trailing, htrim] at hmore
        obtain ⟨hgaps, hcloses⟩ := ih hmore hlabels'
        rw [closes_dropEndWhile] at hcloses
        exact ⟨List.forall_mem_cons.mpr ⟨hline, hgaps⟩, hcloses⟩
      · -- The next link is lost as well, so the arguments get into the text after the links.
        obtain ⟨more', r', hmore', hlength, hr'⟩ := exists_beyond_trailing more r
        rw [beyond_trailing_of_not_line x more r hline, hmore'] at hmore
        have hlt := ink_lt_of_reads hmore (by omega)
        rw [ink_trim] at hlt
        omega

/-! ### What is read of links -/

/-- The record with the unique ids of links put under the names of labels. -/
def named (record : Record) (labels : List Label) (links : List Link) : Record :=
  (labels.zip links).foldl
    (fun record (label, l) => record.put label.name (.text (String.ofList l.id))) record

/-- **One link of a row** puts its unique id under the name of the label. -/
theorem step_row {w : Walk} (hw : w.hard = none) (hleft : w.left = row l more r) (label : Label) :
    w.step (.client label) = .ok { w with
      record := w.record.put label.name (.text (String.ofList l.id))
      left := trim (beyond (trailing more r)) } := by
  have hread := validate_row label l more r
  rw [← hleft] at hread
  rw [Walk.step_of_accepts hw hread, trim, trimWhile_dropWhile isBlank_of_space]
  rfl

/-- **Links that are given a line each** are read one by one. -/
theorem steps_row {w : Walk} (hw : w.hard = none) (hleft : w.left = row l more r)
    (hlabels : labels.length = more.length + 1) (hgaps : ∀ x ∈ more, '\n' ∈ x.gap)
    (hr : ¬ Closes r) :
    w.steps (labels.map .client) = .ok { w with
      record := named w.record labels (l :: more.map Spaced.link)
      left := trim r } := by
  induction more generalizing w l labels r with
  | nil =>
      obtain ⟨label, rfl⟩ := List.length_eq_one_iff.mp hlabels
      rw [List.map_singleton, Walk.steps, step_row hw hleft, trailing, beyond_of_not_closes hr]
      rfl
  | cons x more ih =>
      obtain ⟨label, labels, rfl⟩ := List.exists_cons_of_length_eq_add_one hlabels
      have hbeyond := beyond_trailing_of_line x more r (hgaps x (.head _))
      have hmore := ih (w := { w with
          record := w.record.put label.name (.text (String.ofList l.id))
          left := row x.link more (dropEndWhile isBlank r) }) hw rfl (by simpa using hlabels)
        (fun y hy => hgaps y (.tail _ hy)) (by rwa [closes_dropEndWhile])
      rw [List.map_cons, Walk.steps, step_row hw hleft, hbeyond, trim_trailing]
      refine hmore.trans ?_
      rw [trim, trimWhile_dropEndWhile fun _ hc => hc]
      rfl

/-- Spaces behind a link make no difference. -/
theorem validate_spaced (label : Label) (l : Link) (spaces : Nat) (r : List Char) :
    (Argument.client label).validate (l.text ++ List.replicate spaces ' ' ++ r) =
      .ok (.text (String.ofList l.id), (beyond r).dropWhile (· == ' ')) := by
  have hspaces : ∀ c ∈ List.replicate spaces ' ', c = ' ' := fun c hc => List.eq_of_mem_replicate hc
  have hpast : pastClosing? (List.replicate spaces ' ' ++ r) = pastClosing? r := by
    refine pastClosing?_append (fun c hc => ?_) r
    rw [hspaces c hc]
    decide
  have hbeyond : (beyond (List.replicate spaces ' ' ++ r)).dropWhile (· == ' ') =
      (beyond r).dropWhile (· == ' ') := by
    rw [beyond, hpast, beyond]
    cases pastClosing? r with
    | none => exact List.dropWhile_append_of_pos fun c hc => by simpa using hspaces c hc
    | some rest => rfl
  rw [Argument.validate, List.append_assoc, split?_link, hbeyond]

end

/-- **What is read of links to clients.**  Of a link with spaces and a text after it, an argument
reads the unique id.  It leaves the text exactly if no closing tag stands in the first line of the
text; if one does, it leaves what follows the last one.  Arguments read a row of as many links, each
its own unique id, and leave the text after the links exactly if a line ends between any two links,
and no closing tag stands in the first line of the text. -/
theorem reads_links (l : Link) (r : List Char) :
    (∀ (label : Label) (spaces : Nat), r.head? ≠ some ' ' →
      ∃ left, (Argument.client label).validate (l.text ++ List.replicate spaces ' ' ++ r) =
          .ok (.text (String.ofList l.id), left) ∧
        (left = r ↔ ¬ Closes r) ∧
        ∀ before tag after, r = before ++ tag ++ after → '\n' ∉ before → Same closing tag →
          ¬ Closes after → left = after.dropWhile (· == ' ')) ∧
    ∀ (labels : List Label) (more : List Spaced), labels.length = more.length + 1 →
      (Walk.along (labels.map .client) (row l more r) =
          .ok { record := named [] labels (l :: more.map Spaced.link), left := trim r } ↔
        (∀ x ∈ more, '\n' ∈ x.gap) ∧ ¬ Closes r) := by
  refine ⟨fun label spaces hr => ?_, fun labels more hlabels => ⟨fun h => ?_, ?_⟩⟩
  · refine ⟨_, validate_spaced label l spaces r, ⟨fun h hcloses => ?_, fun h => ?_⟩, ?_⟩
    · have hlost := ink_beyond_lt hcloses
      rw [← ink_trim (beyond r), trim, ← trimWhile_dropWhile isBlank_of_space, h, ← trim,
        ink_trim] at hlost
      exact Nat.lt_irrefl _ hlost
    · rw [beyond_of_not_closes h]
      cases r with
      | nil => rfl
      | cons c r => exact List.dropWhile_cons_of_neg (by simpa using hr)
    · rintro before tag after rfl hbefore htag hafter
      rw [beyond, pastClosing?_of_last hbefore htag (pastClosing?_eq_none.mpr hafter)]
      rfl
  · rcases Walk.through_or_stopped h with hw | ⟨before, a, after, rejection, -, hw⟩
    · exact apart_of_reads hw.reads hlabels
    · cases hw.hard
  · rintro ⟨hgaps, hr⟩
    exact steps_row rfl rfl hlabels hgaps hr

/-- A link that goes by a name and shows it. -/
def Link.called (name : List Char) (h : Plain name) : Link where
  number := ['5']
  key := "abcdefghijklmnopqrstuvwxyz0".toList
  target := name
  shown := name
  number_decimal := List.all_eq_true.mp rfl
  key_length := rfl
  key_chars := List.all_eq_true.mp rfl
  target_plain := h
  shown_plain := h

theorem plain_bob : Plain ['b', 'o', 'b'] := by
  intro c hc
  simp only [List.mem_cons, List.not_mem_nil, or_false] at hc
  rcases hc with rfl | rfl | rfl <;> decide

/-- Two links with a line end between them are read one by one, and with a space between them they
are not. -/
theorem reads_links_rehearsed :
    let bob := Link.called ['b', 'o', 'b'] plain_bob
    let who : Label := { name := "who" }
    let whom : Label := { name := "whom" }
    let apart : Spaced := { gap := ['\n'], link := bob, gap_blank := List.all_eq_true.mp rfl }
    let beside : Spaced := { gap := [' '], link := bob, gap_blank := List.all_eq_true.mp rfl }
    let r := "no spam".toList
    r.head? ≠ some ' ' ∧ [who, whom].length = [apart].length + 1 ∧
      [who, whom].length = [beside].length + 1 ∧
      (Argument.client who).validate (bob.text ++ List.replicate 2 ' ' ++ r) =
        .ok (.text (String.ofList bob.id), r) ∧
      Walk.along ([who, whom].map .client) (row bob [apart] r) =
        .ok { record := named [] [who, whom] [bob, bob], left := r } ∧
      Walk.along ([who, whom].map .client) (row bob [beside] r) ≠
        .ok { record := named [] [who, whom] [bob, bob], left := r } := by
  intro bob who whom apart beside r
  have hopen : ¬ Closes r := pastClosing?_eq_none.mp rfl
  have hr : r.head? ≠ some ' ' := by decide
  obtain ⟨hone, hrow⟩ := reads_links bob r
  obtain ⟨left, hread, hleft, -⟩ := hone who 2 hr
  rw [hleft.mpr hopen] at hread
  have happart := hrow [who, whom] [apart] rfl
  have hbeside := hrow [who, whom] [beside] rfl
  refine ⟨hr, rfl, rfl, hread, happart.mpr ⟨?_, hopen⟩, fun h => ?_⟩
  · intro x hx
    rw [List.mem_singleton.mp hx]
    exact .head _
  · have hgap := (hbeside.mp h).1 beside (.head _)
    cases List.mem_singleton.mp hgap

/-- A link with a text after it that has a link of another kind in it: the text is lost up to the
end of this link.  Of two links with a space between them, the second one is lost. -/
theorem not_reads_links_rehearsed :
    let bob := Link.called ['b', 'o', 'b'] plain_bob
    let who : Label := { name := "who" }
    let r := "see [URL=http://x]y[/URL] now".toList
    r.head? ≠ some ' ' ∧
      (Argument.client who).validate (bob.text ++ List.replicate 1 ' ' ++ r) =
        .ok (.text (String.ofList bob.id), "now".toList) ∧
      (Argument.client who).validate (bob.text ++ List.replicate 1 ' ' ++ r) ≠
        .ok (.text (String.ofList bob.id), r) ∧
      (Argument.client who).validate (bob.text ++ List.replicate 1 ' ' ++ bob.text) =
        .ok (.text (String.ofList bob.id), []) := by
  intro bob who r
  have hread : (Argument.client who).validate (bob.text ++ List.replicate 1 ' ' ++ r) =
      .ok (.text (String.ofList bob.id), "now".toList) := validate_spaced who bob 1 r
  refine ⟨by decide, hread, fun h => ?_, validate_spaced who bob 1 bob.text⟩
  have hlost : "now".toList ≠ r := by decide
  rw [hread] at h
  exact hlost (Prod.mk.inj (Except.ok.inj h)).2

end ClientLink

end Switchboard
