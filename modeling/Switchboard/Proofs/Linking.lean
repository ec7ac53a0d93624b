import Switchboard.Argument.ClientLink
import Switchboard.Proofs.Letters

/-!
# Proofs — Linking

What is read of a link to a client, and what is left after it.  The search for the end of a link
does not stop at the closing tag of the link: it goes on to the last closing tag of the line, of
whatever the tag is.  So a link is left behind alone exactly if no other closing tag stands in what
is left of its line.

* `Closes`: a closing tag stands in the first line of a text.
* `pastClosing?_eq_none`, `pastClosing?_of_last`, `exists_of_pastClosing?`: what follows the last
  closing tag of the line.
* `Keyed`, `splitId?_eq_some`: the unique ids that are read.
* `Link`, `split?_link`: a link, and what is read of it.
-/

namespace Switchboard.ClientLink

open Text

variable {before tag cs rest : List Char}

/-! ### Closing tags -/

/-- A closing tag, in whatever case of its letters, stands in the first line of the text. -/
def Closes (cs : List Char) : Prop :=
  ∃ before tag after, cs = before ++ tag ++ after ∧ '\n' ∉ before ∧ Same closing tag

/-- What follows the last closing tag of the line. -/
def pastClosing? (cs : List Char) : Option (List Char) := afterClosing true none cs

/-- What follows the last closing tag of the line, or the whole text if there is none. -/
def beyond (cs : List Char) : List Char := (pastClosing? cs).getD cs

/-- A closing tag is a word in brackets. -/
theorem exists_of_same_closing (h : Same closing tag) :
    ∃ word, tag = '[' :: (word ++ [']']) ∧ ∀ c ∈ word, c ≠ '[' ∧ c ≠ '\n' := by
  have hclosing : closing = ['[', '/', 'U', 'R', 'L', ']'] := rfl
  rw [Same, hclosing] at h
  obtain _ | ⟨hopen, _ | ⟨hslash, _ | ⟨hu, _ | ⟨hr, _ | ⟨hl, _ | ⟨hclose, _ | _⟩⟩⟩⟩⟩⟩ := h
  obtain rfl := eq_of_sameLetter rfl rfl (by decide) hopen
  obtain rfl := eq_of_sameLetter rfl rfl (by decide) hclose
  refine ⟨[_, _, _, _], rfl, fun c hc => ⟨?_, ?_⟩⟩
  all_goals
    rintro rfl
    simp only [List.mem_cons, List.not_mem_nil, or_false] at hc
    rcases hc with rfl | rfl | rfl | rfl
    · cases hslash
    · cases hu
    · cases hr
    · cases hl

theorem dropSame?_closing_of_ne {c : Char} (h : c ≠ '[') (cs : List Char) :
    dropSame? closing (c :: cs) = none := by
  cases hdrop : dropSame? closing (c :: cs) with
  | none => rfl
  | some rest =>
      obtain ⟨tag, htag, hsame⟩ := dropSame?_eq_some.mp hdrop
      obtain ⟨word, rfl, -⟩ := exists_of_same_closing hsame
      cases htag
      exact absurd rfl h

/-- What was found before the line counts if nothing is found in it. -/
theorem afterClosing_true (found : Option (List Char)) (cs : List Char) :
    afterClosing true found cs = (pastClosing? cs).or found := by
  induction cs generalizing found with
  | nil => rfl
  | cons c cs ih =>
      rw [pastClosing?, afterClosing, afterClosing]
      split
      · rfl
      · simp only [if_true, Bool.true_or]
        rw [ih, ih ((dropSame? closing (c :: cs)).or none), Option.or_none, Option.or_assoc]

/-- The search ends with the line. -/
theorem pastClosing?_newline (cs : List Char) : pastClosing? ('\n' :: cs) = none := rfl

/-- A later tag goes before an earlier one. -/
theorem pastClosing?_cons {c : Char} (h : c ≠ '\n') (cs : List Char) :
    pastClosing? (c :: cs) = (pastClosing? cs).or (dropSame? closing (c :: cs)) := by
  have hc : ¬ (c == '\n') = true := by simpa using h
  rw [pastClosing?, afterClosing, if_neg hc]
  simp only [if_true, Bool.true_or]
  rw [afterClosing_true, Option.or_none]

/-- Text without a bracket makes no difference. -/
theorem pastClosing?_append {front : List Char} (h : ∀ c ∈ front, c ≠ '[' ∧ c ≠ '\n')
    (cs : List Char) : pastClosing? (front ++ cs) = pastClosing? cs := by
  induction front with
  | nil => rfl
  | cons c front ih =>
      obtain ⟨hbracket, hline⟩ := h c (.head _)
      rw [List.cons_append, pastClosing?_cons hline, dropSame?_closing_of_ne hbracket,
        Option.or_none, ih fun d hd => h d (.tail _ hd)]

/-- Behind a closing tag, the search goes on, and it comes back if there is no other one. -/
theorem pastClosing?_tag (h : Same closing tag) (cs : List Char) :
    pastClosing? (tag ++ cs) = some (beyond cs) := by
  have hdrop : dropSame? closing (tag ++ cs) = some cs := dropSame?_eq_some.mpr ⟨tag, rfl, h⟩
  obtain ⟨word, rfl, hword⟩ := exists_of_same_closing h
  have hinside : ∀ c ∈ word ++ [']'], c ≠ '[' ∧ c ≠ '\n' := by
    intro c hc
    rcases List.mem_append.mp hc with hc | hc
    · exact hword c hc
    · rw [List.mem_singleton.mp hc]
      decide
  rw [List.cons_append] at hdrop ⊢
  rw [pastClosing?_cons (by decide), hdrop, pastClosing?_append hinside, beyond]
  cases pastClosing? cs <;> rfl

/-- What is found in the line is found whatever stands before it in the line. -/
theorem pastClosing?_of_append (h : pastClosing? cs = some rest) (hbefore : '\n' ∉ before) :
    pastClosing? (before ++ cs) = some rest := by
  induction before with
  | nil => exact h
  | cons c before ih =>
      have hc : c ≠ '\n' := fun heq => hbefore (heq ▸ .head _)
      rw [List.cons_append, pastClosing?_cons hc, ih fun hmem => hbefore (.tail _ hmem)]
      rfl

/-- **What follows the last closing tag of the line**: no other one stands in the rest of it. -/
theorem exists_of_pastClosing? (h : pastClosing? cs = some rest) :
    ∃ before tag, cs = before ++ tag ++ rest ∧ '\n' ∉ before ∧ Same closing tag ∧
      pastClosing? rest = none := by
  induction cs with
  | nil => cases h
  | cons c cs ih =>
      by_cases hc : c = '\n'
      · subst hc
        cases h
      · rw [pastClosing?_cons hc] at h
        cases hmore : pastClosing? cs with
        | some rest' =>
            rw [hmore] at h
            cases h
            obtain ⟨before, tag, rfl, hbefore, htag, hrest⟩ := ih hmore
            refine ⟨c :: before, tag, rfl, fun hmem => ?_, htag, hrest⟩
            rcases List.mem_cons.mp hmem with heq | hmem
            · exact hc heq.symm
            · exact hbefore hmem
        | none =>
            rw [hmore, Option.none_or] at h
            obtain ⟨tag, htag, hsame⟩ := dropSame?_eq_some.mp h
            refine ⟨[], tag, htag, nofun, hsame, ?_⟩
            -- Another tag in the rest would be found behind the bracket as well.
            obtain ⟨word, rfl, hword⟩ := exists_of_same_closing hsame
            cases htag
            cases hrest : pastClosing? rest with
            | none => rfl
            | some rest' =>
                have hline : '\n' ∉ word ++ [']'] := by
                  intro hmem
                  rcases List.mem_append.mp hmem with hmem | hmem
                  · exact (hword _ hmem).2 rfl
                  · cases List.mem_singleton.mp hmem
                cases (pastClosing?_of_append hrest hline).symm.trans hmore

theorem pastClosing?_of_last (hbefore : '\n' ∉ before) (htag : Same closing tag)
    (hrest : pastClosing? rest = none) : pastClosing? (before ++ tag ++ rest) = some rest := by
  rw [List.append_assoc]
  refine pastClosing?_of_append ?_ hbefore
  rw [pastClosing?_tag htag, beyond, hrest]
  rfl

/-- **Nothing is found exactly if no closing tag stands in the line.** -/
theorem pastClosing?_eq_none : pastClosing? cs = none ↔ ¬ Closes cs := by
  constructor
  · rintro h ⟨before, tag, after, rfl, hbefore, htag⟩
    rw [List.append_assoc, pastClosing?_of_append (pastClosing?_tag htag after) hbefore] at h
    cases h
  · intro h
    cases hfound : pastClosing? cs with
    | none => rfl
    | some rest =>
        obtain ⟨before, tag, hcs, hbefore, htag, -⟩ := exists_of_pastClosing? hfound
        exact absurd ⟨before, tag, rest, hcs, hbefore, htag⟩ h

/-! ### Links -/

/-- The text is part of one line and has no bracket in it. -/
def Plain (cs : List Char) : Prop := ∀ c ∈ cs, c ≠ '[' ∧ c ≠ ']' ∧ c ≠ '\n'

/-- Whether the character is one of base 64. -/
def isKeyChar (c : Char) : Bool :=
  ('A' ≤ c && c ≤ 'Z') || ('a' ≤ c && c ≤ 'z') || ('0' ≤ c && c ≤ '9') || c == '+' || c == '/'

/-- A link to a client: its number and its unique id, the name that the link goes by, and the name
that is shown. -/
structure Link where
  number : List Char
  /-- The unique id without the equals sign. -/
  key : List Char
  target : List Char
  shown : List Char
  number_decimal : ∀ c ∈ number, isDecimal c = true
  key_length : key.length = 27
  key_chars : ∀ c ∈ key, isKeyChar c = true
  target_plain : Plain target
  shown_plain : Plain shown

namespace Link

/-- The unique id. -/
def id (l : Link) : List Char := l.key ++ ['=']

/-- The link as it is written. -/
def text (l : Link) : List Char :=
  opening ++ (l.number ++ '/' :: (l.id ++ '~' :: (l.target ++ ']' :: (l.shown ++ closing))))

end Link

/-- Every character of base 64 may stand in a unique id. -/
theorem isIdChar_of_isKeyChar {c : Char} (h : isKeyChar c = true) : isIdChar c = true := by
  have hletter (n : Nat) (hlower : plainLower c.toNat = n) (hge : 97 ≤ n) (hle : n ≤ 122) :
      isIdChar c = true := by
    have hkin : (kin (plainLower c.toNat)).any (fun n => 97 ≤ n && n ≤ 122) = true :=
      List.any_eq_true.mpr ⟨n, hlower ▸ mem_kin n, by simp [hge, hle]⟩
    rw [isIdChar, hkin, Bool.or_true]
  simp only [isKeyChar, Bool.or_eq_true, Bool.and_eq_true, decide_eq_true_eq, beq_iff_eq] at h
  change ((((65 ≤ c.toNat ∧ c.toNat ≤ 90) ∨ (97 ≤ c.toNat ∧ c.toNat ≤ 122)) ∨
    (48 ≤ c.toNat ∧ c.toNat ≤ 57)) ∨ c = '+') ∨ c = '/' at h
  rcases h with (((⟨hge, hle⟩ | ⟨hge, hle⟩) | ⟨hge, hle⟩) | rfl) | rfl
  · have hlower : plainLower c.toNat = c.toNat + 32 := by
      have hascii : c.toNat < 128 := by omega
      simp [plainLower, lowerCode, hascii, hge, hle]
    exact hletter _ hlower (by omega) (by omega)
  · have hlower : plainLower c.toNat = c.toNat := by
      have hascii : c.toNat < 128 := by omega
      have hupper : ¬ c.toNat ≤ 90 := by omega
      simp [plainLower, lowerCode, hascii, hupper]
    exact hletter _ hlower hge hle
  · have hdigit : ('0' ≤ c && c ≤ '9') = true := by
      simp only [Bool.and_eq_true, decide_eq_true_eq]
      exact ⟨hge, hle⟩
    rw [isIdChar, hdigit, Bool.or_true, Bool.true_or]
  · rfl
  · rfl

/-- Twenty-seven characters of a kind and an equals sign. -/
def Keyed (p : Char → Prop) (id : List Char) : Prop :=
  ∃ key, id = key ++ ['='] ∧ key.length = 27 ∧ ∀ c ∈ key, p c

/-- **The unique ids that are read off the front of a text.** -/
theorem splitId?_eq_some {id left : List Char} :
    splitId? cs = some (id, left) ↔ cs = id ++ left ∧ Keyed (fun c => isIdChar c = true) id := by
  constructor
  · intro h
    rw [splitId?] at h
    split at h
    · rename_i hkey
      simp only [Bool.and_eq_true, beq_iff_eq, List.all_eq_true] at hkey
      split at h
      · rename_i rest hdrop
        cases h
        refine ⟨?_, _, rfl, hkey.1, hkey.2⟩
        rw [List.append_assoc, List.singleton_append, ← hdrop, List.take_append_drop]
      · cases h
    · cases h
  · rintro ⟨rfl, key, rfl, hlength, hkey⟩
    have htake : (key ++ ['='] ++ left).take 27 = key := by
      rw [List.append_assoc, ← hlength, List.take_left]
    have hdrop : (key ++ ['='] ++ left).drop 27 = '=' :: left := by
      rw [List.append_assoc, ← hlength, List.drop_left]
      rfl
    have hpass : (key.length == 27 && key.all isIdChar) = true := by
      rw [hlength]
      simpa using hkey
    rw [splitId?, htake, hdrop]
    simp only [hpass, if_true]

theorem splitId?_id (l : Link) (cs : List Char) : splitId? (l.id ++ cs) = some (l.id, cs) :=
  splitId?_eq_some.mpr
    ⟨rfl, l.key, rfl, l.key_length, fun c hc => isIdChar_of_isKeyChar (l.key_chars c hc)⟩

/-- The first bracket closes the opening tag. -/
theorem afterClosing_false {front : List Char} (h : Plain front) (cs : List Char) :
    afterClosing false none (front ++ ']' :: cs) = pastClosing? cs := by
  induction front with
  | nil => rfl
  | cons c front ih =>
      obtain ⟨-, hclose, hline⟩ := h c (.head _)
      have hc : ¬ (c == '\n') = true := by simpa using hline
      have hc' : (c == ']') = false := by simpa using hclose
      rw [List.cons_append, afterClosing, if_neg hc]
      simp only [Bool.false_eq_true, if_false, hc', Bool.or_false]
      exact ih fun d hd => h d (.tail _ hd)

/-- **What is read of a link** is its unique id, and what is left of the text follows the last
closing tag of the line. -/
theorem split?_link (l : Link) (cs : List Char) :
    split? (l.text ++ cs) = some (l.id, (beyond cs).dropWhile (· == ' ')) := by
  have htext : l.text ++ cs =
      opening ++ (l.number ++
        '/' :: (l.id ++ '~' :: (l.target ++ ']' :: (l.shown ++ (closing ++ cs))))) := by
    simp [Link.text]
  have hend : pastClosing? (l.shown ++ (closing ++ cs)) = some (beyond cs) := by
    rw [pastClosing?_append fun c hc => ⟨(l.shown_plain c hc).1, (l.shown_plain c hc).2.2⟩,
      pastClosing?_tag (.refl closing)]
  have hlink : splitLink? (l.text ++ cs) = some (l.id, beyond cs) := by
    have hslash : ¬ isDecimal '/' = true := by decide
    rw [splitLink?, htext, dropSame?_append]
    simp only [Option.bind_eq_bind, Option.bind_some,
      List.dropWhile_append_of_pos l.number_decimal, List.dropWhile_cons_of_neg hslash,
      splitId?_id, afterClosing_false l.target_plain, hend]
    rfl
  rw [split?, hlink]
  rfl

end Switchboard.ClientLink
