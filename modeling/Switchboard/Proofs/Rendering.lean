import Switchboard.Command
import Switchboard.Proofs.Cutting
import Switchboard.Proofs.Parsing

/-!
# Proofs — Rendering

What the text of a JSON value tells.  The tokens of the text are those of the value: a token ends
where the next one begins, since behind a number stands no digit.  So every value is read back from
its text, and values with the same text are equal.  The text is ASCII.  The text of a command gives
back its name, its aliases, its help text and its manual lines.

* `scalar?_intChars`, `scalar?_stringChars`: a number and a string in front of another text.
* `tokens?_chars`: the tokens of a written value.
* `read?_render`, `render_injective`: **a written value is read back**, so no other has its text.
* `chars_ascii`: a written value is ASCII.
* `Command.read?_serialize`: what the text of a command tells.
-/

namespace Switchboard

namespace Json

/-! ### The tokens of a written value -/

theorem isDigit_of_mem_decimal {n : Nat} : ∀ c ∈ Nat.toDigits 10 n, c.isDigit = true :=
  fun _ => Nat.isDigit_of_mem_toDigits (by decide) (by decide)

theorem toDigits_ne_zero_cons (n : Nat) (d : Char) (ds : List Char) :
    Nat.toDigits 10 n ≠ '0' :: d :: ds := by
  -- a zero before the digits of `n` stands before those of `n / 10`, and in the end alone
  induction n using Nat.strongRecOn generalizing d ds with
  | ind n ih =>
      intro h
      rw [Nat.toDigits_eq_if (by decide)] at h
      split at h
      · simp at h
      · rename_i hlarge
        cases hfront : Nat.toDigits 10 (n / 10) with
        | nil => exact Nat.toDigits_ne_nil hfront
        | cons first front =>
            rw [hfront] at h
            obtain ⟨rfl, -⟩ := List.cons.inj h
            cases front with
            | nil =>
                have hzero := Nat.ofDigitChars_toDigits (b := 10) (n := n / 10) (by decide)
                  (by decide)
                rw [hfront] at hzero
                have : n / 10 = 0 := hzero.symm
                omega
            | cons e es => exact ih (n / 10) (by omega) e es hfront

/-- The text does not go on with a digit. -/
def Apart (rest : List Char) : Prop := ∀ c ∈ rest.head?, c.isDigit = false

theorem natural?_toDigits (n : Nat) {rest : List Char} (h : Apart rest) :
    natural? (Nat.toDigits 10 n ++ rest) = some (n, rest) := by
  obtain ⟨hdrop, htake⟩ := Text.dropWhile_of_head h
  unfold natural?
  rw [List.takeWhile_append_of_pos isDigit_of_mem_decimal,
    List.dropWhile_append_of_pos isDigit_of_mem_decimal, htake, hdrop, List.append_nil]
  split
  · rename_i hnil
    exact absurd hnil Nat.toDigits_ne_nil
  · rename_i hzero
    exact absurd hzero (toDigits_ne_zero_cons n _ _)
  · rw [Nat.ofDigitChars_toDigits (by decide) (by decide)]

theorem scalar?_of_isDigit {d : Char} (h : d.isDigit = true) (cs : List Char) :
    scalar? (d :: cs) = (natural? (d :: cs)).map fun (n, left) => (.int n, left) := by
  rw [scalar?]
  -- no digit begins one of the other values
  all_goals
    intro _ heq
    cases heq
    exact absurd h (by decide)

theorem scalar?_intChars (i : Int) {rest : List Char} (h : Apart rest) :
    scalar? (intChars i ++ rest) = some (.int i, rest) := by
  cases i with
  | ofNat n =>
      show scalar? (Nat.toDigits 10 n ++ rest) = _
      have hread := natural?_toDigits n h
      cases hdigits : Nat.toDigits 10 n with
      | nil => exact absurd hdigits Nat.toDigits_ne_nil
      | cons d ds =>
          have hd : d.isDigit = true :=
            isDigit_of_mem_decimal d (hdigits ▸ List.mem_cons_self ..)
          rw [hdigits] at hread
          rw [List.cons_append, scalar?_of_isDigit hd, ← List.cons_append, hread]
          rfl
  | negSucc n =>
      show (natural? (Nat.toDigits 10 (n + 1) ++ rest)).map _ = _
      rw [natural?_toDigits (n + 1) h]
      rfl

theorem scalar?_stringChars (s : String) (rest : List Char) :
    scalar? (stringChars s.toList ++ rest) = some (.string s, rest) := by
  show (text? (s.toList.flatMap escapeChar ++ ['"'] ++ rest)).map _ = _
  rw [List.append_assoc, List.singleton_append, text?_escaped]
  show some (Json.string (String.ofList s.toList), rest) = _
  rw [String.ofList_toList]

theorem tokens?_mark {c : Char} (hspace : isSpace c = false) (hmark : isMark c = true)
    (cs : List Char) : tokens? (c :: cs) = (tokens? cs).map (.mark c :: ·) := by
  simp [tokens?, hspace, hmark]

theorem tokens?_space (cs : List Char) : tokens? (' ' :: cs) = tokens? cs := by
  simp [tokens?, isSpace]

theorem isDigit_of_natural? {c : Char} {cs : List Char} {r : Nat × List Char}
    (h : natural? (c :: cs) = some r) : c.isDigit = true := by
  by_contra hno
  rw [natural?, List.takeWhile_cons_of_neg hno] at h
  cases h

/-- No value without parts begins with white space or a mark. -/
theorem head_of_scalar? {c : Char} {cs : List Char} {r : Json × List Char}
    (h : scalar? (c :: cs) = some r) : isSpace c = false ∧ isMark c = false := by
  unfold scalar? at h
  split at h
  iterate 5
    rename_i heq
    cases heq
    decide
  · obtain ⟨read, hread, -⟩ := Option.map_eq_some_iff.mp h
    have hdigit := isDigit_of_natural? hread
    simp only [isSpace, isMark, ← Bool.not_eq_true, Bool.or_eq_true, beq_iff_eq]
    constructor
    · rintro (((rfl | rfl) | rfl) | rfl) <;> exact absurd hdigit (by decide)
    · rintro (((((rfl | rfl) | rfl) | rfl) | rfl) | rfl) <;> exact absurd hdigit (by decide)

theorem tokens?_scalar {cs left : List Char} {j : Json} (h : scalar? cs = some (j, left)) :
    tokens? cs = (tokens? left).map (.value j :: ·) := by
  cases cs with
  | nil => cases h
  | cons c cs =>
      obtain ⟨hspace, hmark⟩ := head_of_scalar? h
      rw [tokens?, hspace, hmark]
      simp only [Bool.false_eq_true, if_false]
      split
      · rename_i hnone
        rw [h] at hnone
        cases hnone
      · rename_i hsome
        rw [h] at hsome
        cases hsome
        rfl

theorem apart_mark {c : Char} (h : isMark c = true) (rest : List Char) : Apart (c :: rest) := by
  rintro _ ⟨⟩
  simp only [isMark, Bool.or_eq_true, beq_iff_eq] at h
  rcases h with ((((rfl | rfl) | rfl) | rfl) | rfl) | rfl <;> rfl

theorem tokens?_string (s : String) (rest : List Char) :
    tokens? (stringChars s.toList ++ rest) = (tokens? rest).map (.value (.string s) :: ·) :=
  tokens?_scalar (scalar?_stringChars s rest)

mutual
/-- **The tokens of a written value.** -/
theorem tokens?_chars : ∀ (j : Json) {rest : List Char}, Apart rest →
    tokens? (chars j ++ rest) = (tokens? rest).map (tokens j ++ ·)
  | .null, rest, _ => tokens?_scalar rfl
  | .bool true, rest, _ => tokens?_scalar rfl
  | .bool false, rest, _ => tokens?_scalar rfl
  | .int i, rest, h => tokens?_scalar (scalar?_intChars i h)
  | .string s, rest, _ => tokens?_string s rest
  | .array items, rest, _ => by
      have hitems := tokens?_itemChars items (apart_mark (c := ']') rfl rest)
      rw [chars, tokens, List.cons_append, List.cons_append, List.append_assoc,
        tokens?_mark rfl rfl, List.singleton_append, hitems, tokens?_mark rfl rfl]
      simp [Function.comp_def]
  | .object fields, rest, _ => by
      have hfields := tokens?_fieldChars fields (apart_mark (c := '}') rfl rest)
      rw [chars, tokens, List.cons_append, List.cons_append, List.append_assoc,
        tokens?_mark rfl rfl, List.singleton_append, hfields, tokens?_mark rfl rfl]
      simp [Function.comp_def]

theorem tokens?_itemChars : ∀ (items : List Json) {rest : List Char}, Apart rest →
    tokens? (itemChars items ++ rest) = (tokens? rest).map (itemTokens items ++ ·)
  | [], rest, _ => by simp [itemChars, itemTokens]
  | [item], rest, h => by
      rw [itemChars, itemTokens]
      exact tokens?_chars item h
  | item :: next :: items, rest, h => by
      have hitem := tokens?_chars item (apart_mark (c := ',') rfl
        (' ' :: itemChars (next :: items) ++ rest))
      have hitems := tokens?_itemChars (next :: items) h
      simp only [itemChars, itemTokens, List.append_assoc, List.cons_append] at hitem ⊢
      rw [hitem, tokens?_mark rfl rfl, tokens?_space, hitems]
      simp [Function.comp_def]

theorem tokens?_fieldChars : ∀ (fields : List (String × Json)) {rest : List Char}, Apart rest →
    tokens? (fieldChars fields ++ rest) = (tokens? rest).map (fieldTokens fields ++ ·)
  | [], rest, _ => by simp [fieldChars, fieldTokens]
  | [(name, j)], rest, h => by
      rw [fieldChars, fieldTokens]
      simp only [List.append_assoc, List.cons_append]
      rw [tokens?_string, tokens?_mark rfl rfl, tokens?_space, tokens?_chars j h]
      simp [Function.comp_def]
  | (name, j) :: next :: fields, rest, h => by
      have hvalue := tokens?_chars j (apart_mark (c := ',') rfl
        (' ' :: fieldChars (next :: fields) ++ rest))
      have hfields := tokens?_fieldChars (next :: fields) h
      simp only [fieldChars, fieldTokens, List.append_assoc, List.cons_append] at hvalue ⊢
      rw [tokens?_string, tokens?_mark rfl rfl, tokens?_space, hvalue, tokens?_mark rfl rfl,
        tokens?_space, hfields]
      simp [Function.comp_def]
end

/-! ### Reading a written value -/

/-- **A written value is read back.** -/
theorem read?_render (j : Json) : read? j.render = some j := by
  have htokens := tokens?_chars j (show Apart [] from nofun)
  rw [List.append_nil, tokens?, Option.map_some, List.append_nil] at htokens
  rw [read?_eq_some, render, String.toList_ofList, htokens]

/-- Values with the same text are equal. -/
theorem render_injective : Function.Injective render := fun j k h =>
  Option.some.inj ((read?_render j).symm.trans ((congrArg read? h).trans (read?_render k)))

/-! ### Written values are ASCII -/

theorem stringChars_ascii (cs : List Char) : ∀ x ∈ stringChars cs, x.toNat < 128 := by
  have hquote : ('"').toNat < 128 := by decide
  refine List.forall_mem_append.mpr ⟨List.forall_mem_cons.mpr ⟨hquote, ?_⟩, ?_⟩
  · exact List.forall_mem_flatMap.mpr fun c _ => escapeChar_ascii c
  · exact List.forall_mem_singleton.mpr hquote

theorem intChars_ascii (i : Int) : ∀ x ∈ intChars i, x.toNat < 128 := by
  have hdigits (n : Nat) : ∀ x ∈ Nat.toDigits 10 n, x.toNat < 128 := by
    intro x hx
    have hdigit := isDigit_of_mem_decimal x hx
    rw [Char.isDigit, Bool.and_eq_true, decide_eq_true_eq, decide_eq_true_eq] at hdigit
    exact Nat.lt_of_le_of_lt (UInt32.le_iff_toNat_le.mp hdigit.2) (by decide)
  cases i with
  | ofNat n => exact hdigits n
  | negSucc n => exact List.forall_mem_cons.mpr ⟨by decide, hdigits (n + 1)⟩

mutual
/-- A written value is ASCII. -/
theorem chars_ascii : ∀ (j : Json), ∀ x ∈ chars j, x.toNat < 128
  | .null => by simp [chars]
  | .bool true => by simp [chars]
  | .bool false => by simp [chars]
  | .int i => intChars_ascii i
  | .string s => stringChars_ascii s.toList
  | .array items => by
      have hitems := itemChars_ascii items
      simpa [chars, or_imp, forall_and] using hitems
  | .object fields => by
      have hfields := fieldChars_ascii fields
      simpa [chars, or_imp, forall_and] using hfields

theorem itemChars_ascii : ∀ (items : List Json), ∀ x ∈ itemChars items, x.toNat < 128
  | [] => List.forall_mem_nil _
  | [item] => chars_ascii item
  | item :: next :: items => by
      have hitem := chars_ascii item
      have hitems := itemChars_ascii (next :: items)
      simpa [itemChars, or_imp, forall_and] using ⟨hitem, hitems⟩

theorem fieldChars_ascii :
    ∀ (fields : List (String × Json)), ∀ x ∈ fieldChars fields, x.toNat < 128
  | [] => List.forall_mem_nil _
  | [(name, j)] => by
      have hname := stringChars_ascii name.toList
      have hvalue := chars_ascii j
      simpa [fieldChars, or_imp, forall_and] using ⟨hname, hvalue⟩
  | (name, j) :: next :: fields => by
      have hname := stringChars_ascii name.toList
      have hvalue := chars_ascii j
      have hfields := fieldChars_ascii (next :: fields)
      simpa [fieldChars, or_imp, forall_and] using ⟨hname, hvalue, hfields⟩
end

end Json

namespace Command

/-- Commands with the same views, and only these, have the same value. -/
theorem toJson_eq_iff (c d : Command) :
    c.toJson = d.toJson ↔ c.name = d.name ∧ c.aliases = d.aliases ∧ c.helpText = d.helpText ∧
      c.manualLines = d.manualLines := by
  have hstring : Function.Injective Json.string := fun _ _ => Json.string.inj
  simp [toJson, List.map_inj_right hstring]

/-- **What the text of a command tells.**  The text is ASCII.  Read as JSON it is an object with
four keys, which hold the name, the aliases, the help text and the manual lines.  So it is the text
of the commands in which these four are the same, and of no other. -/
theorem read?_serialize (c : Command) :
    Json.read? c.serialize = some (.object [
        ("cmd", .string c.name),
        ("alias", .array (c.aliases.map .string)),
        ("help", .string c.helpText),
        ("manual", .array (c.manualLines.map .string))]) ∧
      (∀ x ∈ c.serialize.toList, x.toNat < 128) ∧
      ∀ d : Command, d.serialize = c.serialize ↔ d.name = c.name ∧ d.aliases = c.aliases ∧
        d.helpText = c.helpText ∧ d.manualLines = c.manualLines := by
  refine ⟨Json.read?_render c.toJson, ?_, fun d => ?_⟩
  · rw [serialize, Json.render, String.toList_ofList]
    exact Json.chars_ascii c.toJson
  · exact Json.render_injective.eq_iff.trans (toJson_eq_iff d c)

/-- A command with a quote, a backslash, a control character and characters of every plane. -/
theorem read?_serialize_rehearsed :
    let c : Command :=
      { name := "sa\"y", aliases := ["\\", "é"], helpText := "\x01\n", manualLines := ["😀", ""] }
    c.serialize = "\x7b\"cmd\": \"sa\\\"y\", \"alias\": [\"\\\\\", \"\\u00e9\"], " ++
        "\"help\": \"\\u0001\\n\", \"manual\": [\"\\ud83d\\ude00\", \"\"]\x7d" ∧
      Json.read? c.serialize = some (.object [
        ("cmd", .string "sa\"y"),
        ("alias", .array [.string "\\", .string "é"]),
        ("help", .string "\x01\n"),
        ("manual", .array [.string "😀", .string ""])]) :=
  ⟨by decide, (read?_serialize _).1⟩

end Command

end Switchboard
