import Switchboard.Proofs.LinkRows
import Switchboard.Proofs.Primitives

/-!
# Proofs — Keys

The unique ids that arguments for clients resolve to.  An id is taken from the text as it is written
there, in a link or bare: twenty-seven characters and an equals sign.  The characters are to be
those of base 64, but case does not count, and so four letters beyond ASCII pass for letters of
ASCII.  An id is well-formed exactly if none of them stands in it.

* `strays`, `isIdChar_iff`: the letters that pass besides the characters of base 64.
* `Keyed`, `splitId?_eq_some`: the ids that are read.
* `validate_id`: what an argument for clients resolves to.
-/

namespace Switchboard.ClientLink

open Text

/-! ### The characters of an id -/

/-- The letters that pass for letters of ASCII: the capital i with a dot and the small i without
one, the long s, and the sign of the kelvin. -/
def strays : List Char := ['\u0130', '\u0131', '\u017f', '\u212a']

section

variable {code n : Nat} {c : Char}

theorem eq_of_mem_family : ∀ family ∈ letterFamilies, ∀ code ∈ family, ∀ n ∈ family, n ≤ 122 →
    code = n ∨ code = 0x131 ∨ code = 0x17F := by decide

/-- The small letters of ASCII have the dotless i and the long s for kin, and no other letter. -/
theorem eq_of_mem_kin (h : n ∈ kin code) (hle : n ≤ 122) :
    code = n ∨ code = 0x131 ∨ code = 0x17F := by
  unfold kin at h
  cases hfamily : letterFamilies.find? (·.contains code) with
  | none =>
      rw [hfamily, Option.getD_none, List.mem_singleton] at h
      exact .inl h.symm
  | some family =>
      rw [hfamily, Option.getD_some] at h
      have hcode : code ∈ family := by simpa using List.find?_some hfamily
      exact eq_of_mem_family family (List.mem_of_find?_eq_some hfamily) code hcode n h hle

/-- Of the runs of lower cases, only the one of the kelvin sign gets to a small letter of ASCII, and
none gets to the dotless i or the long s. -/
theorem image_of_mem_lowerRuns : ∀ r ∈ lowerRuns,
    (r.first = 0x212A ∧ r.last = 0x212A ∧ r.image = 107) ∨
      (122 < r.image ∧ (0x131 < r.image ∨ r.image + (r.last - r.first) < 0x131) ∧
        (0x17F < r.image ∨ r.image + (r.last - r.first) < 0x17F)) := by decide +kernel

/-- What is lowered to a small letter of ASCII is a letter of ASCII, the dotted i or the kelvin
sign. -/
theorem of_plainLower_letter (hge : 97 ≤ plainLower code) (hle : plainLower code ≤ 122) :
    (65 ≤ code ∧ code ≤ 90) ∨ (97 ≤ code ∧ code ≤ 122) ∨ code = 0x130 ∨ code = 0x212A := by
  rcases plainLower_cases code with heq | ⟨hge, hle, -⟩ | ⟨hcode, -⟩ | ⟨r, hr, hfirst, hlast, heq⟩
  · omega
  · omega
  · omega
  · rcases image_of_mem_lowerRuns r hr with ⟨hkelvin, hend, -⟩ | ⟨himage, -, -⟩ <;> omega

/-- The dotless i and the long s are the lower case of nothing else. -/
theorem eq_of_plainLower (hn : n = 0x131 ∨ n = 0x17F) (h : plainLower code = n) : code = n := by
  rcases plainLower_cases code with heq | ⟨-, hle, heq⟩ | ⟨-, heq⟩ | ⟨r, hr, hfirst, hlast, heq⟩
  · omega
  · omega
  · omega
  · rcases image_of_mem_lowerRuns r hr with ⟨hkelvin, hend, himage⟩ | ⟨-, hdotless, hlong⟩ <;> omega

theorem isIdChar_of_mem_strays : ∀ c ∈ strays, isIdChar c = true :=
  List.all_eq_true.mp rfl

theorem not_isKeyChar_of_mem_strays : ∀ c ∈ strays, isKeyChar c = false := by
  simp only [strays, List.forall_mem_cons]
  exact ⟨rfl, rfl, rfl, rfl, nofun⟩

theorem isKeyChar_of_range (h : (65 ≤ c.toNat ∧ c.toNat ≤ 90) ∨ (97 ≤ c.toNat ∧ c.toNat ≤ 122)) :
    isKeyChar c = true := by
  have hletter : (('A' ≤ c && c ≤ 'Z') || ('a' ≤ c && c ≤ 'z')) = true := by
    simp only [Bool.or_eq_true, Bool.and_eq_true, decide_eq_true_eq]
    exact h
  simp only [isKeyChar, hletter, Bool.true_or]

theorem mem_strays_of_toNat (h : c.toNat ∈ strays.map Char.toNat) : c ∈ strays := by
  obtain ⟨d, hd, hcode⟩ := List.mem_map.mp h
  rwa [← Char.toNat_inj.mp hcode]

/-- **The characters that may stand in a unique id** are those of base 64 and the four strays. -/
theorem isIdChar_iff : isIdChar c = true ↔ isKeyChar c = true ∨ c ∈ strays := by
  constructor
  · intro h
    simp only [isIdChar, Bool.or_eq_true] at h
    rcases h with ((hslash | hplus) | hdigit) | hletter
    · exact .inl (by simp [isKeyChar, hslash])
    · exact .inl (by simp [isKeyChar, hplus])
    · exact .inl (by simp [isKeyChar, hdigit])
    · obtain ⟨n, hn, hbounds⟩ := List.any_eq_true.mp hletter
      simp only [Bool.and_eq_true, decide_eq_true_eq] at hbounds
      have hstray (hcode : plainLower c.toNat = 0x131 ∨ plainLower c.toNat = 0x17F) :
          c ∈ strays := by
        have hself := eq_of_plainLower hcode rfl
        refine mem_strays_of_toNat ?_
        rw [hself]
        rcases hcode with hcode | hcode <;> rw [hcode] <;> decide
      rcases eq_of_mem_kin hn hbounds.2 with hplain | hcode
      · rw [← hplain] at hbounds
        rcases of_plainLower_letter hbounds.1 hbounds.2 with h | h | h | h
        · exact .inl (isKeyChar_of_range (.inl h))
        · exact .inl (isKeyChar_of_range (.inr h))
        · exact .inr (mem_strays_of_toNat (by rw [h]; decide))
        · exact .inr (mem_strays_of_toNat (by rw [h]; decide))
      · exact .inr (hstray hcode)
  · rintro (hkey | hstray)
    · exact isIdChar_of_isKeyChar hkey
    · exact isIdChar_of_mem_strays c hstray

end

/-! ### The ids that are read -/

/-- **A unique id is well-formed** if its characters are those of base 64, up to the equals sign. -/
def WellFormed (id : List Char) : Prop := Keyed (fun c => isKeyChar c = true) id

section

variable {id cs left : List Char}

/-- **An id that is read is well-formed exactly if no stray stands in it.** -/
theorem wellFormed_iff (h : Keyed (fun c => isIdChar c = true) id) :
    WellFormed id ↔ ∀ c ∈ strays, c ∉ id := by
  obtain ⟨key, rfl, hlength, hkey⟩ := h
  constructor
  · rintro ⟨key', hid, -, hkey'⟩ c hstray hc
    rw [hid] at hc
    rcases List.mem_append.mp hc with hc | hc
    · cases (not_isKeyChar_of_mem_strays c hstray).symm.trans (hkey' c hc)
    · rw [List.mem_singleton.mp hc] at hstray
      revert hstray
      decide
  · intro hclean
    refine ⟨key, rfl, hlength, fun c hc => ?_⟩
    rcases isIdChar_iff.mp (hkey c hc) with h | hstray
    · exact h
    · exact absurd (List.mem_append_left _ hc) (hclean c hstray)

/-- **An id stands in the text as it is read**, in a link or bare. -/
theorem keyed_of_split? (h : split? cs = some (id, left)) :
    id <:+: cs ∧ Keyed (fun c => isIdChar c = true) id := by
  obtain ⟨⟨id', rest⟩, hread, hpair⟩ := Option.bind_eq_some_iff.mp h
  cases hpair
  rcases Option.or_eq_some_iff.mp hread with hlink | ⟨-, hbare⟩
  · obtain ⟨start, number, between, -, hkeyed, rfl⟩ := exists_of_splitLink? hlink
    exact ⟨⟨start ++ (number ++ ['/']), '~' :: (between ++ rest), by simp⟩, hkeyed⟩
  · obtain ⟨rfl, hkeyed⟩ := splitId?_eq_some.mp hbare
    exact ⟨⟨[], rest, rfl⟩, hkeyed⟩

/-- What begins with an id does not begin with a link: no bracket may stand in an id. -/
theorem splitLink?_of_keyed (h : Keyed (fun c => isIdChar c = true) id) (rest : List Char) :
    splitLink? (id ++ rest) = none := by
  cases hlink : splitLink? (id ++ rest) with
  | none => rfl
  | some read =>
      obtain ⟨start, number, between, hstart, -, hid⟩ := exists_of_splitLink? hlink
      obtain ⟨key, rfl, hlength, hkey⟩ := h
      obtain ⟨c, key, rfl⟩ := List.exists_cons_of_length_eq_add_one hlength
      have hopening : opening = '[' :: "URL=client://".toList := rfl
      rw [hopening] at hstart
      cases hstart with
      | cons hletter _ =>
          obtain rfl := eq_of_sameLetter rfl rfl (by decide) hletter
          obtain rfl : c = '[' := by simpa using congrArg List.head? hid
          cases hkey '[' (.head _)

/-- **Every id that may be read is read** where it stands bare. -/
theorem split?_of_keyed (h : Keyed (fun c => isIdChar c = true) id) (rest : List Char) :
    split? (id ++ rest) = some (id, rest.dropWhile (· == ' ')) := by
  rw [split?, splitLink?_of_keyed h, Option.none_or, splitId?_eq_some.mpr ⟨rfl, h⟩]
  rfl

end

/-! ### What an argument for clients resolves to -/

/-- **What an argument for clients resolves to** is twenty-seven characters and an equals sign that
stand in the text as they are.  The characters are those of base 64 or strays, so that the id is
well-formed exactly if there is no stray in it; and any id of these characters is resolved, if it
stands bare. -/
theorem validate_id (label : Label) :
    (∀ cs value left, (Argument.client label).validate cs = .ok (value, left) →
      ∃ id, value = .text (String.ofList id) ∧ id <:+: cs ∧
        Keyed (fun c => isKeyChar c = true ∨ c ∈ strays) id ∧
        (WellFormed id ↔ ∀ c ∈ strays, c ∉ id)) ∧
    ∀ id rest, Keyed (fun c => isKeyChar c = true ∨ c ∈ strays) id →
      (Argument.client label).validate (id ++ rest) =
        .ok (.text (String.ofList id), rest.dropWhile (· == ' ')) := by
  simp only [← isIdChar_iff]
  refine ⟨fun cs value left h => ?_, fun id rest h => ?_⟩
  · obtain ⟨id, hsplit, rfl⟩ := Argument.client_accepts.mp h
    obtain ⟨hpart, hkeyed⟩ := keyed_of_split? hsplit
    exact ⟨id, rfl, hpart, hkeyed, wellFormed_iff hkeyed⟩
  · exact Argument.client_accepts.mpr ⟨id, split?_of_keyed h rest, rfl⟩

/-- The id of a link in a text, and one that stands bare. -/
theorem validate_id_rehearsed :
    let id := "abcdefghijklmnopqrstuvwxyz0=".toList
    let cs := "[url=Client://5/abcdefghijklmnopqrstuvwxyz0=~bob]bob[/url] no spam".toList
    (Argument.client {}).validate cs = .ok (.text (String.ofList id), "no spam".toList) ∧
      id <:+: cs ∧ WellFormed id ∧
      (Argument.client {}).validate (id ++ "  spam".toList) =
        .ok (.text (String.ofList id), "spam".toList) := by
  intro id cs
  have hread : (Argument.client {}).validate cs =
      .ok (.text (String.ofList id), "no spam".toList) :=
    Argument.client_accepts.mpr ⟨id, by decide +kernel, rfl⟩
  have hkeyed : Keyed (fun c => isKeyChar c = true ∨ c ∈ strays) id :=
    ⟨"abcdefghijklmnopqrstuvwxyz0".toList, rfl, rfl,
      fun c hc => .inl (List.all_eq_true.mp rfl c hc)⟩
  have hall : (strays.all fun c => !id.contains c) = true := rfl
  have hclear : ∀ c ∈ strays, c ∉ id := fun c hc => by simpa using List.all_eq_true.mp hall c hc
  obtain ⟨hsound, hcomplete⟩ := validate_id {}
  obtain ⟨id', hid, hpart, -, hclean⟩ := hsound cs _ _ hread
  obtain rfl : id = id' := String.ofList_injective (Value.text.inj hid)
  exact ⟨hread, hpart, hclean.mpr hclear, hcomplete id _ hkeyed⟩

/-- With a long s for its last character an id is resolved, bare and in a link, although it is not
one of base 64. -/
theorem not_validate_id_rehearsed :
    let id := "abcdefghijklmnopqrstuvwxyz\u017f=".toList
    let cs := "[URL=client://5/abcdefghijklmnopqrstuvwxyz\u017f=~bob]bob[/URL]".toList
    (Argument.client {}).validate id = .ok (.text (String.ofList id), []) ∧
      (Argument.client {}).validate cs = .ok (.text (String.ofList id), []) ∧ ¬WellFormed id ∧
      ¬∀ cs value left, (Argument.client {}).validate cs = .ok (value, left) →
        ∃ id, value = .text (String.ofList id) ∧ WellFormed id ∧ id <:+: cs := by
  intro id cs
  have hkeyed : Keyed (fun c => isIdChar c = true) id :=
    ⟨"abcdefghijklmnopqrstuvwxyz\u017f".toList, rfl, rfl, List.all_eq_true.mp rfl⟩
  have hbare : (Argument.client {}).validate id = .ok (.text (String.ofList id), []) :=
    Argument.client_accepts.mpr ⟨id, split?_of_keyed hkeyed [], rfl⟩
  have hlink : (Argument.client {}).validate cs = .ok (.text (String.ofList id), []) :=
    Argument.client_accepts.mpr ⟨id, by decide +kernel, rfl⟩
  have hstray : ¬WellFormed id := fun h =>
    (wellFormed_iff hkeyed).mp h '\u017f' (by decide) (by decide)
  refine ⟨hbare, hlink, hstray, fun hall => ?_⟩
  obtain ⟨id', hid, hformed, -⟩ := hall _ _ _ hbare
  obtain rfl : id = id' := String.ofList_injective (Value.text.inj hid)
  exact hstray hformed

end Switchboard.ClientLink
