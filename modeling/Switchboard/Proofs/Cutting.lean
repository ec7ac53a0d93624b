import Mathlib.Data.List.DropRight
import Switchboard.Text.Blank
import Switchboard.Text.Token

/-!
# Proofs — Cutting

Cutting off the ends of a text, and cutting off its first token.  What is left of a trimmed text is
known by what it is cut out of: it stands between two ends whose characters all pass, and neither of
its own ends passes.

* `exists_trimWhile`, `trimWhile_trimmed`: trimming gives a text of this kind.
* `trimWhile_append`: a text of this kind is what trimming gives.
* `trimWhile_of_append`, `trimWhile_dropEndWhile`, `trimWhile_dropWhile`: it makes no difference if
  some of what passes is cut off before.
* `exists_token`, `splitToken_token`, `splitToken_append`: a text is a token, or a token with a
  space after it and a rest, and is split there.
-/

namespace Switchboard.Text

variable {p q : Char → Bool} {cs front back : List Char}

/-- Neither end of the text passes. -/
structure Trimmed (p : Char → Bool) (cs : List Char) : Prop where
  head : ∀ c ∈ cs.head?, p c = false
  last : ∀ c ∈ cs.getLast?, p c = false

/-- Cutting off the end is dropping from the right. -/
theorem dropEndWhile_eq (p : Char → Bool) (cs : List Char) :
    dropEndWhile p cs = cs.rdropWhile p :=
  rfl

/-- Dropping stops at a character that does not pass. -/
theorem of_mem_head?_dropWhile {c : Char} (h : c ∈ (cs.dropWhile p).head?) : p c = false := by
  rw [← List.find?_not_eq_head?_dropWhile] at h
  simpa using List.find?_some h

/-- What does not begin with a character that passes is not cut. -/
theorem dropWhile_of_head (h : ∀ c ∈ cs.head?, p c = false) :
    cs.dropWhile p = cs ∧ cs.takeWhile p = [] := by
  cases cs with
  | nil => exact ⟨rfl, rfl⟩
  | cons c cs => simp [h c rfl]

/-- Cutting off the end stops at a character that does not pass. -/
theorem of_mem_getLast?_dropEndWhile {c : Char} (h : c ∈ (dropEndWhile p cs).getLast?) :
    p c = false := by
  rw [dropEndWhile, List.getLast?_reverse] at h
  exact of_mem_head?_dropWhile h

/-- A text whose last character does not pass keeps its end. -/
theorem dropEndWhile_of_last (h : ∀ c ∈ cs.getLast?, p c = false) : dropEndWhile p cs = cs := by
  rw [dropEndWhile_eq, List.rdropWhile_eq_self_iff]
  intro hne hlast
  rw [h _ (List.getLast_mem_getLast? hne)] at hlast
  cases hlast

/-- An end that passes is cut off. -/
theorem dropEndWhile_append (hback : ∀ c ∈ back, p c = true) :
    dropEndWhile p (cs ++ back) = dropEndWhile p cs := by
  rw [dropEndWhile, dropEndWhile, List.reverse_append,
    List.dropWhile_append_of_pos fun c hc => hback c (List.mem_reverse.mp hc)]

/-- What is cut off the end all passes. -/
theorem exists_dropEndWhile (p : Char → Bool) (cs : List Char) :
    ∃ back, cs = dropEndWhile p cs ++ back ∧ ∀ c ∈ back, p c = true :=
  ⟨cs.rtakeWhile p, List.rdropWhile_append_rtakeWhile.symm,
    fun _ hc => List.mem_rtakeWhile_imp hc⟩

/-- A front whose last character does not pass is kept. -/
theorem dropEndWhile_append_of_last (hfront : ∀ c ∈ front.getLast?, p c = false) (cs : List Char) :
    dropEndWhile p (front ++ cs) = front ++ dropEndWhile p cs := by
  obtain ⟨back, hcs, hback⟩ := exists_dropEndWhile p cs
  have hlast : ∀ c ∈ (front ++ dropEndWhile p cs).getLast?, p c = false := by
    intro c hc
    rw [List.getLast?_append] at hc
    cases hend : (dropEndWhile p cs).getLast? with
    | some d =>
        rw [hend] at hc
        cases hc
        exact of_mem_getLast?_dropEndWhile hend
    | none =>
        rw [hend] at hc
        exact hfront c hc
  conv_lhs => rw [hcs]
  rw [← List.append_assoc, dropEndWhile_append hback, dropEndWhile_of_last hlast]

/-- What is cut off the front all passes. -/
theorem exists_dropWhile (p : Char → Bool) (cs : List Char) :
    ∃ front, cs = front ++ cs.dropWhile p ∧ ∀ c ∈ front, p c = true :=
  ⟨cs.takeWhile p, List.takeWhile_append_dropWhile.symm, fun _ hc => List.mem_takeWhile_imp hc⟩

/-- **What is cut off both ends all passes.** -/
theorem exists_trimWhile (p : Char → Bool) (cs : List Char) :
    ∃ front back, cs = front ++ trimWhile p cs ++ back ∧
      (∀ c ∈ front, p c = true) ∧ ∀ c ∈ back, p c = true := by
  obtain ⟨front, hfront, hpf⟩ := exists_dropWhile p cs
  obtain ⟨back, hback, hpb⟩ := exists_dropEndWhile p (cs.dropWhile p)
  refine ⟨front, back, ?_, hpf, hpb⟩
  rw [List.append_assoc, trimWhile, ← hback]
  exact hfront

/-- **Neither end of what trimming gives passes.** -/
theorem trimWhile_trimmed (p : Char → Bool) (cs : List Char) : Trimmed p (trimWhile p cs) := by
  constructor
  · intro c hc
    -- What is left begins as the text without its front does.
    obtain ⟨back, hback, -⟩ := exists_dropEndWhile p (cs.dropWhile p)
    have hhead : c ∈ (cs.dropWhile p).head? := by
      rw [hback, List.head?_append, ← trimWhile, Option.mem_def.mp hc]
      rfl
    exact of_mem_head?_dropWhile hhead
  · exact fun c hc => of_mem_getLast?_dropEndWhile hc

/-- **A text between two ends that pass is what trimming gives**, if its own ends do not pass. -/
theorem trimWhile_append (hfront : ∀ c ∈ front, p c = true) (hback : ∀ c ∈ back, p c = true)
    (h : Trimmed p cs) : trimWhile p (front ++ cs ++ back) = cs := by
  rw [trimWhile, List.append_assoc, List.dropWhile_append_of_pos hfront]
  cases cs with
  | nil =>
      rw [List.nil_append, List.dropWhile_eq_nil_iff.mpr hback]
      rfl
  | cons c cs =>
      have hc : ¬ p c = true := by simp [h.head c rfl]
      rw [List.cons_append, List.dropWhile_cons_of_neg hc, ← List.cons_append,
        dropEndWhile_append hback, dropEndWhile_of_last h.last]

/-- Trimming twice is trimming once. -/
theorem trim_trim (cs : List Char) : trim (trim cs) = trim cs := by
  have h : trimWhile isBlank ([] ++ trim cs ++ []) = trim cs :=
    trimWhile_append nofun nofun (trimWhile_trimmed isBlank cs)
  rwa [List.nil_append, List.append_nil] at h

section

variable (hqp : ∀ c, q c = true → p c = true)

include hqp

/-- What passes may be cut off before, all of it or some. -/
theorem trimWhile_of_append (hfront : ∀ c ∈ front, q c = true) (hback : ∀ c ∈ back, q c = true)
    (cs : List Char) : trimWhile p (front ++ cs ++ back) = trimWhile p cs := by
  obtain ⟨front', back', hcs, hfront', hback'⟩ := exists_trimWhile p cs
  have hends : front ++ cs ++ back = (front ++ front') ++ trimWhile p cs ++ (back' ++ back) := by
    conv_lhs => rw [hcs]
    simp only [List.append_assoc]
  rw [hends]
  refine trimWhile_append (fun c hc => ?_) (fun c hc => ?_) (trimWhile_trimmed p cs)
  · exact (List.mem_append.mp hc).elim (fun h => hqp c (hfront c h)) (hfront' c)
  · exact (List.mem_append.mp hc).elim (hback' c) (fun h => hqp c (hback c h))

theorem trimWhile_dropWhile (cs : List Char) : trimWhile p (cs.dropWhile q) = trimWhile p cs := by
  obtain ⟨front, hcs, hfront⟩ := exists_dropWhile q cs
  have h := trimWhile_of_append hqp hfront (List.forall_mem_nil _) (cs.dropWhile q)
  rw [List.append_nil, ← hcs] at h
  exact h.symm

theorem trimWhile_dropEndWhile (cs : List Char) :
    trimWhile p (dropEndWhile q cs) = trimWhile p cs := by
  obtain ⟨back, hcs, hback⟩ := exists_dropEndWhile q cs
  have h := trimWhile_of_append hqp (List.forall_mem_nil _) hback (dropEndWhile q cs)
  rw [List.nil_append, ← hcs] at h
  exact h.symm

end

/-- A space is white space. -/
theorem isBlank_of_space (c : Char) (h : (c == ' ') = true) : isBlank c = true := by
  rw [eq_of_beq h]
  rfl

/-! ### The first token -/

/-- A token is its own first token, and nothing follows it. -/
theorem splitToken_token {token : List Char} (h : ∀ c ∈ token, c ≠ ' ') :
    splitToken token = (token, []) := by
  have htake : token.takeWhile (· != ' ') = token := by simpa using h
  have hdrop : token.dropWhile (· != ' ') = [] := by simpa using h
  rw [splitToken, htake, hdrop]
  rfl

/-- A token with a space after it is the first token, and the rest is what follows the space. -/
theorem splitToken_append {token : List Char} (h : ∀ c ∈ token, c ≠ ' ') (rest : List Char) :
    splitToken (token ++ ' ' :: rest) = (token, rest) := by
  have hpass : ∀ c ∈ token, (c != ' ') = true := by simpa using h
  rw [splitToken, List.takeWhile_append_of_pos hpass, List.dropWhile_append_of_pos hpass]
  simp

/-- A text is a token, or a token with a space after it and a rest. -/
theorem exists_token (cs : List Char) :
    ∃ token, (∀ c ∈ token, c ≠ ' ') ∧ (cs = token ∨ ∃ rest, cs = token ++ ' ' :: rest) := by
  refine ⟨cs.takeWhile (· != ' '), fun c hc => by simpa using List.mem_takeWhile_imp hc, ?_⟩
  have hcs : cs.takeWhile (· != ' ') ++ cs.dropWhile (· != ' ') = cs :=
    List.takeWhile_append_dropWhile
  cases hdrop : cs.dropWhile (· != ' ') with
  | nil =>
      rw [hdrop, List.append_nil] at hcs
      exact .inl hcs.symm
  | cons c rest =>
      have hhead : c ∈ (cs.dropWhile (· != ' ')).head? := by
        rw [hdrop]
        rfl
      obtain rfl : c = ' ' := by simpa using of_mem_head?_dropWhile hhead
      rw [hdrop] at hcs
      exact .inr ⟨rest, hcs.symm⟩

end Switchboard.Text
