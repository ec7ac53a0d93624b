import Switchboard.Config
import Switchboard.Proofs.Casing
import Switchboard.Proofs.Cutting

/-!
# Proofs — Settings

What the settings of a switchboard come to.  A setting can be given in many ways, and each way has
one meaning, which is stated here without the readers.  What has no meaning is refused, either for
its kind or for its spelling, and the first such setting is the one that is blamed.  A setting that
was read can be given again as it was read.

* `MarkerFrom`, `SwitchFrom`, `VerbosityFrom`, `BoldFrom`: what a value means as a setting.
* `readMarker_eq_ok`, `readSwitch_eq_ok`, `readVerbosity_eq_ok`, `readBold_eq_ok`: that is what is
  read.
* `Refused`: what is refused, and why.
* `Meant`, `make_cases`: a config is what its settings mean, or the first that means nothing is
  blamed.
* `Meant.again`: a config can be given again.
* `Spells`, `Spells.means`: the ways to spell a degree.
-/

namespace Switchboard

namespace Config

/-! ### What a value means as a setting -/

/-- What a value means as the marker of command lines: nothing is given, a text, or an accessor that
is asked for it. -/
inductive MarkerFrom : Value → Marker → Prop where
  | unset : MarkerFrom .unset .unset
  | text (t : String) : MarkerFrom (.text t) (.fixed t)
  | accessor {v : Value} {a : Callback} (h : v.callback? = some a) : MarkerFrom v (.asked a)

/-- **What a value means as a switch**: a truth value means itself, one of two words what it says,
and a number which of the two words comes first and which second. -/
inductive SwitchFrom : Value → Bool → Prop where
  | itself (b : Bool) : SwitchFrom (.bool b) b
  | yes {t : String} (h : t = "YES" ∨ t = "yes" ∨ t = "0") : SwitchFrom (.text t) true
  | no {t : String} (h : t = "NO" ∨ t = "no" ∨ t = "1") : SwitchFrom (.text t) false
  | first {v : Value} (hv : ∀ b, v ≠ .bool b) (h : v.isNumber 0 = true) : SwitchFrom v true
  | second {v : Value} (hv : ∀ b, v ≠ .bool b) (h : v.isNumber 1 = true) : SwitchFrom v false

/-- **What a value means as a verbosity**: itself, its name in any case of letters, or its index as
a number or as a row of digits of any script.  White space may stand around a text. -/
inductive VerbosityFrom : Value → Verbosity → Prop where
  | itself (l : Verbosity) : VerbosityFrom (.verbosity l) l
  | index (l : Verbosity) : VerbosityFrom (.int l.index) l
  | name {l : Verbosity} (front word back : List Char) (hfront : ∀ c ∈ front, Text.isBlank c = true)
      (hback : ∀ c ∈ back, Text.isBlank c = true) (hname : Text.upper word = l.name.toList) :
      VerbosityFrom (.text (String.ofList (front ++ word ++ back))) l
  | digits {l : Verbosity} (front digits back : List Char)
      (hfront : ∀ c ∈ front, isIndexBlank c = true) (hback : ∀ c ∈ back, isIndexBlank c = true)
      (hdigits : digits ≠ []) (hshort : digits.length ≤ Reading.maxDigits)
      (hindex : Text.decimalNumber? digits = some l.index) :
      VerbosityFrom (.text (String.ofList (front ++ digits ++ back))) l

/-- What a value means as the emphasis of texts: nothing is given, or a callback. -/
inductive BoldFrom : Option Value → Option Callback → Prop where
  | none : BoldFrom none none
  | callback {v : Value} {a : Callback} (h : v.callback? = some a) : BoldFrom (some v) (some a)

/-! ### What is read -/

variable {v : Value}

theorem readMarker_eq_ok {m : Marker} : readMarker v = .ok m ↔ MarkerFrom v m := by
  constructor
  · intro h
    unfold readMarker at h
    split at h
    · cases h
      exact .unset
    · cases h
      exact .text _
    · split at h
      · rename_i a ha
        cases h
        exact .accessor ha
      · cases h
  · intro h
    cases h with
    | unset | text => rfl
    | accessor ha => cases v <;> cases ha <;> rfl

/-- A value that is neither a truth value nor a text is read as a number. -/
theorem readSwitch_of_number (hbool : ∀ b, v ≠ .bool b) (htext : ∀ t, v ≠ .text t) :
    readSwitch v =
      if v.isNumber 0 then .ok true
      else if v.isNumber 1 then .ok false
      else match v with
        | .int _ | .verbosity _ => .error (.switchUnknown v)
        | _ => .error .switchNotText := by
  cases v with
  | bool b => exact absurd rfl (hbool b)
  | text t => exact absurd rfl (htext t)
  | _ => rfl

/-- A text equals no number. -/
theorem ne_text_of_isNumber {n : Int} (h : v.isNumber n = true) (t : String) : v ≠ .text t := by
  rintro rfl
  cases h

/-- A value equals one whole number at most. -/
theorem isNumber_unique {m n : Int} (hm : v.isNumber m = true) (hn : v.isNumber n = true) :
    m = n := by
  unfold Value.isNumber at hm hn
  cases hnumber : v.number? with
  | none =>
      rw [hnumber] at hm
      cases hm
  | some x =>
      rw [hnumber] at hm hn
      have hm' : x.ratio.1 = m * Nat.pow 2 x.ratio.2 := by
        simpa [Number.same, Number.ratio] using hm
      have hn' : x.ratio.1 = n * Nat.pow 2 x.ratio.2 := by
        simpa [Number.same, Number.ratio] using hn
      have hpos : (Nat.pow 2 x.ratio.2 : Int) ≠ 0 := by
        exact_mod_cast (Nat.two_pow_pos x.ratio.2).ne'
      exact Int.eq_of_mul_eq_mul_right hpos (hm'.symm.trans hn')

theorem readSwitch_eq_ok {b : Bool} : readSwitch v = .ok b ↔ SwitchFrom v b := by
  constructor
  · intro h
    unfold readSwitch at h
    split at h
    · cases h
      exact .itself _
    · split at h
      · rename_i hyes
        cases h
        exact .yes (by simpa [or_assoc] using hyes)
      · split at h
        · rename_i hno
          cases h
          exact .no (by simpa [or_assoc] using hno)
        · cases h
    · rename_i hbool _
      split at h
      · rename_i hzero
        cases h
        exact .first hbool hzero
      · split at h
        · rename_i hone
          cases h
          exact .second hbool hone
        · split at h <;> cases h
  · intro h
    cases h with
    | itself => rfl
    | yes ht => rcases ht with rfl | rfl | rfl <;> rfl
    | no ht => rcases ht with rfl | rfl | rfl <;> rfl
    | first hv hzero => rw [readSwitch_of_number hv (ne_text_of_isNumber hzero), if_pos hzero]
    | second hv hone =>
        have hzero : ¬ v.isNumber 0 = true := fun hzero =>
          absurd (isNumber_unique hzero hone) (by decide)
        rw [readSwitch_of_number hv (ne_text_of_isNumber hone), if_neg hzero, if_pos hone]

theorem isBlank_of_isIndexBlank (c : Char) (h : isIndexBlank c = true) :
    Text.isBlank c = true := by
  rcases Bool.or_eq_true_iff.mp h with hlow | hwide
  · simp only [Text.isAsciiBlank, Bool.or_eq_true, Bool.and_eq_true, beq_iff_eq,
      decide_eq_true_eq] at hlow
    have hascii : c.toNat < 128 := by omega
    simp only [Text.isBlank, hascii, if_true, Bool.or_eq_true, Bool.and_eq_true, beq_iff_eq,
      decide_eq_true_eq]
    omega
  · exact (Bool.and_eq_true_iff.mp hwide).2

theorem ofIndex?_eq_some {i : Int} {l : Verbosity} :
    Verbosity.ofIndex? i = some l ↔ i = l.index := by
  constructor
  · intro h
    have hl := List.find?_some h
    exact (by simpa using hl : (l.index : Int) = i).symm
  · rintro rfl
    cases l <;> rfl

theorem ofName?_eq_some {name : String} {l : Verbosity} :
    Verbosity.ofName? name = some l ↔ name = l.name := by
  constructor
  · intro h
    have hl := List.find?_some h
    exact (by simpa using hl : l.name = name).symm
  · rintro rfl
    cases l <;> rfl

/-- The names of the degrees are of capital letters. -/
theorem name_letters (l : Verbosity) : ∀ c ∈ l.name.toList, 65 ≤ c.toNat ∧ c.toNat ≤ 90 := by
  have hall : (l.name.toList.all fun c => 65 ≤ c.toNat ∧ c.toNat ≤ 90) = true := by
    cases l <;> rfl
  exact fun c hc => of_decide_eq_true (List.all_eq_true.mp hall c hc)

theorem name_ne_nil (l : Verbosity) : l.name.toList ≠ [] := by
  cases l <;> decide

/-- No character of a name is a digit or white space, in whatever case it stands. -/
theorem letters_of_upper {l : Verbosity} {word : List Char} (h : Text.upper word = l.name.toList) :
    ∀ c ∈ word, Text.isDigit c = false ∧ Text.isBlank c = false := by
  intro c hc
  have hcapitals : ∀ x ∈ Text.upper word, 65 ≤ x.toNat ∧ x.toNat ≤ 90 := h ▸ name_letters l
  exact Bool.or_eq_false_iff.mp (Text.not_isLetterless_of_upper hcapitals hc)

/-- What has no white space is not cut. -/
theorem trim_between {front cs back : List Char} (hfront : ∀ c ∈ front, Text.isBlank c = true)
    (hback : ∀ c ∈ back, Text.isBlank c = true) (h : ∀ c ∈ cs, Text.isBlank c = false) :
    Text.trim (front ++ cs ++ back) = cs :=
  Text.trimWhile_append hfront hback
    ⟨fun c hc => h c (List.mem_of_mem_head? hc), fun c hc => h c (List.mem_of_mem_getLast? hc)⟩

theorem readIndex?_eq_some {cs : List Char} {n : Nat} (hne : Text.trim cs ≠ [])
    (h : readIndex? cs = some n) : ∃ front digits back, cs = front ++ digits ++ back ∧
      (∀ c ∈ front, isIndexBlank c = true) ∧ (∀ c ∈ back, isIndexBlank c = true) ∧
      digits ≠ [] ∧ digits.length ≤ Reading.maxDigits ∧ Text.decimalNumber? digits = some n := by
  obtain ⟨front, back, hcs, hfront, hback⟩ := Text.exists_trimWhile isIndexBlank cs
  obtain ⟨hshort, hnumber⟩ := Option.ite_none_right_eq_some.mp h
  refine ⟨front, _, back, hcs, hfront, hback, ?_, hshort, hnumber⟩
  intro hnil
  rw [hnil] at hcs
  exact hne (hcs ▸ trim_between (fun c hc => isBlank_of_isIndexBlank c (hfront c hc))
    (fun c hc => isBlank_of_isIndexBlank c (hback c hc)) (List.forall_mem_nil _))

/-- A text whose trimmed form is a row of digits is read as an index, and every other as a name. -/
theorem readVerbosity_text (t : String) : readVerbosity (.text t) =
    match (if !(Text.trim t.toList).isEmpty && (Text.trim t.toList).all Text.isDigit then
        (readIndex? t.toList).bind fun n => Verbosity.ofIndex? n
      else Verbosity.ofName? (String.ofList (Text.upper (Text.trim t.toList)))) with
    | some verbosity => .ok verbosity
    | none => .error (.verbosityUnknown (.text t)) := by
  simp only [readVerbosity]
  cases !(Text.trim t.toList).isEmpty && (Text.trim t.toList).all Text.isDigit with
  | true =>
      generalize (readIndex? t.toList).bind _ = found
      cases found <;> rfl
  | false =>
      generalize Verbosity.ofName? _ = found
      cases found <;> rfl

theorem readVerbosity_eq_ok {l : Verbosity} : readVerbosity v = .ok l ↔ VerbosityFrom v l := by
  constructor
  · intro h
    cases v with
    | verbosity l' =>
        cases h
        exact .itself l
    | int i =>
        simp only [readVerbosity] at h
        cases hindex : Verbosity.ofIndex? i with
        | none =>
            rw [hindex] at h
            cases h
        | some l' =>
            rw [hindex] at h
            cases h
            rw [ofIndex?_eq_some.mp hindex]
            exact .index l
    | text t =>
        rw [readVerbosity_text] at h
        split at h
        · rename_i l' hfound
          cases h
          split at hfound
          · rename_i hdigits
            have hne : Text.trim t.toList ≠ [] := by
              intro hnil
              simp [hnil] at hdigits
            obtain ⟨n, hn, hl⟩ := Option.bind_eq_some_iff.mp hfound
            obtain ⟨front, digits, back, ht, hfront, hback, hdigits, hshort, hnumber⟩ :=
              readIndex?_eq_some hne hn
            have hnl : n = l.index := by exact_mod_cast ofIndex?_eq_some.mp hl
            rw [← t.ofList_toList, ht]
            exact .digits front digits back hfront hback hdigits hshort (hnl ▸ hnumber)
          · obtain ⟨front, back, ht, hfront, hback⟩ :=
              Text.exists_trimWhile Text.isBlank t.toList
            have hname := congrArg String.toList (ofName?_eq_some.mp hfound)
            rw [String.toList_ofList] at hname
            rw [← t.ofList_toList, ht]
            exact .name front _ back hfront hback hname
        · cases h
    | _ => cases h
  · intro h
    cases h with
    | itself => rfl
    | index => simp only [readVerbosity, ofIndex?_eq_some.mpr rfl]
    | name front word back hfront hback hname =>
        have hletters := letters_of_upper hname
        have hword : Text.trim (front ++ word ++ back) = word :=
          trim_between hfront hback fun c hc => (hletters c hc).2
        have hnot : ¬ (!word.isEmpty && word.all Text.isDigit) = true := by
          intro hdigits
          cases word with
          | nil => exact name_ne_nil l hname.symm
          | cons c word =>
              have hc := (hletters c List.mem_cons_self).1
              simp [hc] at hdigits
        rw [readVerbosity_text, String.toList_ofList, hword, if_neg hnot, hname,
          String.ofList_toList, ofName?_eq_some.mpr rfl]
    | digits front digits back hfront hback hne hshort hindex =>
        have hdigits := Text.isDigit_of_decimalNumber hindex
        have hblank : ∀ c ∈ digits, Text.isBlank c = false := by
          intro c hc
          by_contra hc'
          rw [Bool.not_eq_false] at hc'
          exact absurd (hdigits c hc) (by simp [Text.not_isDigit_of_isBlank hc'])
        have hindexBlank : ∀ c ∈ digits, isIndexBlank c = false := by
          intro c hc
          by_contra hc'
          rw [Bool.not_eq_false] at hc'
          exact absurd (isBlank_of_isIndexBlank c hc') (by simp [hblank c hc])
        have hword : Text.trim (front ++ digits ++ back) = digits :=
          trim_between (fun c hc => isBlank_of_isIndexBlank c (hfront c hc))
            (fun c hc => isBlank_of_isIndexBlank c (hback c hc)) hblank
        have hcut : Text.trimWhile isIndexBlank (front ++ digits ++ back) = digits :=
          Text.trimWhile_append hfront hback
            ⟨fun c hc => hindexBlank c (List.mem_of_mem_head? hc),
              fun c hc => hindexBlank c (List.mem_of_mem_getLast? hc)⟩
        have hall : (!digits.isEmpty && digits.all Text.isDigit) = true := by
          simpa [hne] using hdigits
        have hread : readIndex? (front ++ digits ++ back) = some l.index := by
          simp only [readIndex?, hcut, hshort, if_true, hindex]
        rw [readVerbosity_text, String.toList_ofList, hword, if_pos hall, hread,
          Option.bind_some, ofIndex?_eq_some.mpr rfl]

theorem readBold_eq_ok {given : Option Value} {b : Option Callback} :
    readBold given = .ok b ↔ BoldFrom given b := by
  constructor
  · intro h
    unfold readBold at h
    split at h
    · cases h
      exact .none
    · split at h
      · rename_i a ha
        cases h
        exact .callback ha
      · cases h
  · intro h
    cases h with
    | none => rfl
    | callback ha => simp only [readBold, ha]

/-! ### What is refused -/

/-- The value is of a kind in which words and indices are given. -/
def isWord : Value → Bool
  | .text _ | .int _ | .verbosity _ => true
  | _ => false

/-- **What is refused.**  The first setting that means nothing is blamed: for its spelling, if it is
of a kind in which the setting can be given, and else for its kind. -/
inductive Refused (s : Settings) : ConfigError → Prop where
  | marker (h : ∀ m, ¬ MarkerFrom s.marker m) : Refused s .markerNotText
  | switchSpelling {m} (hm : MarkerFrom s.marker m) (h : ∀ b, ¬ SwitchFrom s.answerUnknown b)
      (hword : isWord s.answerUnknown = true) : Refused s (.switchUnknown s.answerUnknown)
  | switchKind {m} (hm : MarkerFrom s.marker m) (h : ∀ b, ¬ SwitchFrom s.answerUnknown b)
      (hword : isWord s.answerUnknown = false) : Refused s .switchNotText
  | verbositySpelling {m b} (hm : MarkerFrom s.marker m) (hb : SwitchFrom s.answerUnknown b)
      (h : ∀ l, ¬ VerbosityFrom s.verbosity l) (hword : isWord s.verbosity = true) :
      Refused s (.verbosityUnknown s.verbosity)
  | verbosityKind {m b} (hm : MarkerFrom s.marker m) (hb : SwitchFrom s.answerUnknown b)
      (h : ∀ l, ¬ VerbosityFrom s.verbosity l) (hword : isWord s.verbosity = false) :
      Refused s .verbosityNotName
  | bold {m b l} (hm : MarkerFrom s.marker m) (hb : SwitchFrom s.answerUnknown b)
      (hl : VerbosityFrom s.verbosity l) (h : ∀ a, ¬ BoldFrom s.bold a) :
      Refused s .boldNotCallable

theorem readMarker_eq_error {e : ConfigError} (h : readMarker v = .error e) :
    (∀ m, ¬ MarkerFrom v m) ∧ e = .markerNotText := by
  refine ⟨fun m hm => ?_, ?_⟩
  · rw [readMarker_eq_ok.mpr hm] at h
    cases h
  · unfold readMarker at h
    split at h
    · cases h
    · cases h
    · split at h <;> cases h
      rfl

theorem readSwitch_eq_error {e : ConfigError} (h : readSwitch v = .error e) :
    (∀ b, ¬ SwitchFrom v b) ∧ e = if isWord v then .switchUnknown v else .switchNotText := by
  refine ⟨fun b hb => ?_, ?_⟩
  · rw [readSwitch_eq_ok.mpr hb] at h
    cases h
  · unfold readSwitch at h
    split at h
    · cases h
    · split at h
      · cases h
      · split at h <;> cases h
        rfl
    · rename_i hbool htext
      split at h
      · cases h
      · split at h
        · cases h
        · split at h <;> cases h
          · rfl
          · rfl
          · rename_i hint hverbosity
            cases v with
            | text t => exact absurd rfl (htext t)
            | int i => exact absurd rfl (hint i)
            | verbosity l => exact absurd rfl (hverbosity l)
            | _ => rfl

theorem readVerbosity_eq_error {e : ConfigError} (h : readVerbosity v = .error e) :
    (∀ l, ¬ VerbosityFrom v l) ∧
      e = if isWord v then .verbosityUnknown v else .verbosityNotName := by
  refine ⟨fun l hl => ?_, ?_⟩
  · rw [readVerbosity_eq_ok.mpr hl] at h
    cases h
  · cases v with
    | verbosity l => cases h
    | int i =>
        simp only [readVerbosity] at h
        split at h <;> cases h
        rfl
    | text t =>
        rw [readVerbosity_text] at h
        split at h <;> cases h
        rfl
    | _ =>
        cases h
        rfl

theorem readBold_eq_error {given : Option Value} {e : ConfigError}
    (h : readBold given = .error e) : (∀ a, ¬ BoldFrom given a) ∧ e = .boldNotCallable := by
  refine ⟨fun a ha => ?_, ?_⟩
  · rw [readBold_eq_ok.mpr ha] at h
    cases h
  · unfold readBold at h
    split at h
    · cases h
    · split at h <;> cases h
      rfl

/-! ### Configs -/

variable {s : Settings} {c : Config}

/-- A config is what its settings mean. -/
structure Meant (s : Settings) (c : Config) : Prop where
  marker : MarkerFrom s.marker c.marker
  answerUnknown : SwitchFrom s.answerUnknown c.answerUnknown
  verbosity : VerbosityFrom s.verbosity c.verbosity
  bold : BoldFrom s.bold c.bold

/-- **A config is made if every setting means something.** -/
theorem Meant.make_eq (h : Meant s c) : make s = .ok c := by
  simp only [make, readMarker_eq_ok.mpr h.marker, readSwitch_eq_ok.mpr h.answerUnknown,
    readVerbosity_eq_ok.mpr h.verbosity, readBold_eq_ok.mpr h.bold]
  rfl

/-- **A config is made of settings that mean it, or the first one that means nothing is blamed.** -/
theorem make_cases (s : Settings) :
    (∃ c, make s = .ok c ∧ Meant s c) ∨ ∃ e, make s = .error e ∧ Refused s e := by
  cases hm : readMarker s.marker with
  | error e =>
      obtain ⟨hno, rfl⟩ := readMarker_eq_error hm
      exact .inr ⟨_, by simp only [make, hm]; rfl, .marker hno⟩
  | ok m =>
  have hm' := readMarker_eq_ok.mp hm
  cases hb : readSwitch s.answerUnknown with
  | error e =>
      obtain ⟨hno, rfl⟩ := readSwitch_eq_error hb
      refine .inr ⟨_, by simp only [make, hm, hb]; rfl, ?_⟩
      cases hword : isWord s.answerUnknown with
      | true => exact .switchSpelling hm' hno hword
      | false => exact .switchKind hm' hno hword
  | ok b =>
  have hb' := readSwitch_eq_ok.mp hb
  cases hl : readVerbosity s.verbosity with
  | error e =>
      obtain ⟨hno, rfl⟩ := readVerbosity_eq_error hl
      refine .inr ⟨_, by simp only [make, hm, hb, hl]; rfl, ?_⟩
      cases hword : isWord s.verbosity with
      | true => exact .verbositySpelling hm' hb' hno hword
      | false => exact .verbosityKind hm' hb' hno hword
  | ok l =>
  have hl' := readVerbosity_eq_ok.mp hl
  cases ha : readBold s.bold with
  | error e =>
      obtain ⟨hno, rfl⟩ := readBold_eq_error ha
      exact .inr ⟨_, by simp only [make, hm, hb, hl, ha]; rfl, .bold hm' hb' hl' hno⟩
  | ok a =>
      have h : Meant s { marker := m, answerUnknown := b, verbosity := l, bold := a } :=
        ⟨hm', hb', hl', readBold_eq_ok.mp ha⟩
      exact .inl ⟨_, h.make_eq, h⟩

/-- **Settings that were read can be given again as they were read**, beside any others. -/
theorem Meant.again {s' : Settings} {c' : Config} (h : Meant s' c') (c : Config) :
    make { s' with
      answerUnknown := .bool c.answerUnknown
      verbosity := .verbosity c.verbosity } =
    .ok { c' with answerUnknown := c.answerUnknown, verbosity := c.verbosity } :=
  Meant.make_eq ⟨h.marker, .itself _, .itself _, h.bold⟩

theorem meant_of_make (h : make s = .ok c) : Meant s c := by
  rcases make_cases s with ⟨c', hc', hmeant⟩ | ⟨e, he, -⟩
  · rw [h] at hc'
    cases hc'
    exact hmeant
  · rw [h] at he
    cases he

/-- A value that means a degree stands for it beside any other settings. -/
theorem make_verbosity {l : Verbosity} (h : VerbosityFrom v l) (s : Settings) :
    make { s with verbosity := v } = make { s with verbosity := .verbosity l } := by
  simp only [make, readVerbosity_eq_ok.mpr h, readVerbosity_eq_ok.mpr (.itself l)]

/-- The ways to give a degree: its name in any case of letters and with white space around it, its
index, and the digits of its index. -/
inductive Spells (l : Verbosity) : Value → Prop where
  | name (front word back : List Char) (hfront : ∀ c ∈ front, Text.isBlank c = true)
      (hback : ∀ c ∈ back, Text.isBlank c = true)
      (hname : Text.EitherCase word l.name.toList) :
      Spells l (.text (String.ofList (front ++ word ++ back)))
  | index : Spells l (.int l.index)
  | digits : Spells l (.text (decimalText l.index))

/-- However a degree is spelled, it is meant. -/
theorem Spells.means {l : Verbosity} (h : Spells l v) : VerbosityFrom v l := by
  cases h with
  | name front word back hfront hback hname =>
      exact .name front word back hfront hback (hname.upper_eq (name_letters l))
  | index => exact .index l
  | digits =>
      have hne : (decimalText l.index).toList ≠ [] := by cases l <;> decide
      have hshort : (decimalText l.index).toList.length ≤ Reading.maxDigits := by
        cases l <;> decide
      have hindex : Text.decimalNumber? (decimalText l.index).toList = some l.index := by
        cases l <;> decide
      have hdigits : VerbosityFrom
          (.text (String.ofList ([] ++ (decimalText l.index).toList ++ []))) l :=
        .digits [] _ [] nofun nofun hne hshort hindex
      rwa [List.nil_append, List.append_nil, String.ofList_toList] at hdigits

end Config

end Switchboard
