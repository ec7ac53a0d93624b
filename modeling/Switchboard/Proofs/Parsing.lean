import Switchboard.Proofs.Escapes

/-!
# Proofs — Parsing

Reading JSON texts.  A text is cut into tokens, which are marks and values without parts, with white
space between them as one likes; then the values are put together, going through the tokens once
and keeping what is open around them.  A number that is not whole is not read.  A text is read as a
value exactly if its tokens are those of the value, so nothing but white space is passed over.

* `tokens`, `tokens?`: the tokens of a value, and of a text.
* `Frame`, `value?`, `name?`, `after?`, `read?`: the value of tokens, and of a text.
* `value?_tokens`, `opened_append`: the tokens of a value have that value, and no others have it.
* `read?_eq_some`: **a text is read as a value exactly if its tokens are those of the value.**
-/

namespace Switchboard

namespace Json

/-! ### Tokens -/

/-- A mark, or a value without parts. -/
inductive Token where
  | mark (c : Char)
  | value (j : Json)

mutual
/-- The tokens of a value. -/
def tokens : Json → List Token
  | .array items => .mark '[' :: itemTokens items ++ [.mark ']']
  | .object fields => .mark '{' :: fieldTokens fields ++ [.mark '}']
  | j => [.value j]

/-- The tokens of a row of values. -/
def itemTokens : List Json → List Token
  | [] => []
  | [item] => tokens item
  | item :: items => tokens item ++ .mark ',' :: itemTokens items

/-- The tokens of a row of fields. -/
def fieldTokens : List (String × Json) → List Token
  | [] => []
  | [(name, j)] => .value (.string name) :: .mark ':' :: tokens j
  | (name, j) :: fields =>
      .value (.string name) :: .mark ':' :: tokens j ++ .mark ',' :: fieldTokens fields
end

/-- White space between tokens. -/
def isSpace (c : Char) : Bool :=
  c == ' ' || c == '\t' || c == '\n' || c == '\r'

/-- The characters that are tokens. -/
def isMark (c : Char) : Bool :=
  c == '[' || c == ']' || c == '{' || c == '}' || c == ',' || c == ':'

/-- A number at the front of a text: all digits that there are, without a zero before others. -/
def natural? (cs : List Char) : Option (Nat × List Char) :=
  match cs.takeWhile Char.isDigit with
  | [] => none
  | '0' :: _ :: _ => none
  | digits => some (Nat.ofDigitChars 10 digits 0, cs.dropWhile Char.isDigit)

/-- A value without parts at the front of a text. -/
def scalar? : List Char → Option (Json × List Char)
  | '"' :: cs => (text? cs).map fun (text, left) => (.string (String.ofList text), left)
  | 'n' :: 'u' :: 'l' :: 'l' :: left => some (.null, left)
  | 't' :: 'r' :: 'u' :: 'e' :: left => some (.bool true, left)
  | 'f' :: 'a' :: 'l' :: 's' :: 'e' :: left => some (.bool false, left)
  | '-' :: cs => (natural? cs).map fun (n, left) => (.int (-n), left)
  | cs => (natural? cs).map fun (n, left) => (.int n, left)

theorem length_of_natural? {cs left : List Char} {n : Nat} (h : natural? cs = some (n, left)) :
    left.length < cs.length := by
  unfold natural? at h
  have hsplit := congrArg List.length
    (List.takeWhile_append_dropWhile (p := Char.isDigit) (l := cs))
  rw [List.length_append] at hsplit
  split at h
  · cases h
  · cases h
  · rename_i hne _
    cases h
    have hpos := List.length_pos_iff.mpr hne
    omega

/-- What is read at the front of a text is a token, and takes something off the text. -/
theorem scalar?_takes {cs left : List Char} {j : Json} (h : scalar? cs = some (j, left)) :
    tokens j = [.value j] ∧ left.length < cs.length := by
  unfold scalar? at h
  split at h
  · obtain ⟨⟨text, left'⟩, hread, heq⟩ := Option.map_eq_some_iff.mp h
    cases heq
    exact ⟨rfl, Nat.lt_succ_of_lt (length_of_text? hread)⟩
  · cases h
    exact ⟨rfl, Nat.lt_add_of_pos_right (by decide : 0 < 4)⟩
  · cases h
    exact ⟨rfl, Nat.lt_add_of_pos_right (by decide : 0 < 4)⟩
  · cases h
    exact ⟨rfl, Nat.lt_add_of_pos_right (by decide : 0 < 5)⟩
  · obtain ⟨⟨n, left'⟩, hread, heq⟩ := Option.map_eq_some_iff.mp h
    cases heq
    exact ⟨rfl, Nat.lt_succ_of_lt (length_of_natural? hread)⟩
  · obtain ⟨⟨n, left'⟩, hread, heq⟩ := Option.map_eq_some_iff.mp h
    cases heq
    exact ⟨rfl, length_of_natural? hread⟩

/-- The tokens of a text. -/
def tokens? : List Char → Option (List Token)
  | [] => some []
  | c :: cs =>
    if isSpace c then tokens? cs
    else if isMark c then (tokens? cs).map (.mark c :: ·)
    else
      match h : scalar? (c :: cs) with
      | none => none
      | some (j, left) =>
        have : left.length ≤ cs.length := Nat.le_of_lt_succ (scalar?_takes h).2
        (tokens? left).map (.value j :: ·)
  termination_by cs => cs.length

/-! ### Values -/

/-- What is open around a value: an array with the items before it, or an object with the fields
before it and its name. -/
inductive Frame where
  | item (before : List Json)
  | field (before : List (String × Json)) (name : String)

mutual
/-- Reads tokens where a value is due. -/
def value? : List Token → List Frame → Option Json
  | .value j :: tokens, frames => after? tokens j frames
  | .mark '[' :: .mark ']' :: tokens, frames => after? tokens (.array []) frames
  | .mark '[' :: tokens, frames => value? tokens (.item [] :: frames)
  | .mark '{' :: .mark '}' :: tokens, frames => after? tokens (.object []) frames
  | .mark '{' :: tokens, frames => name? tokens [] frames
  | _, _ => none

/-- Reads tokens where the name of a field is due. -/
def name? : List Token → List (String × Json) → List Frame → Option Json
  | .value (.string name) :: .mark ':' :: tokens, before, frames =>
      value? tokens (.field before name :: frames)
  | _, _, _ => none

/-- Reads tokens behind a value. -/
def after? : List Token → Json → List Frame → Option Json
  | [], j, [] => some j
  | .mark ',' :: tokens, j, .item before :: frames =>
      value? tokens (.item (before ++ [j]) :: frames)
  | .mark ']' :: tokens, j, .item before :: frames =>
      after? tokens (.array (before ++ [j])) frames
  | .mark ',' :: tokens, j, .field before name :: frames =>
      name? tokens (before ++ [(name, j)]) frames
  | .mark '}' :: tokens, j, .field before name :: frames =>
      after? tokens (.object (before ++ [(name, j)])) frames
  | _, _, _ => none
end

/-- The value of a JSON text. -/
def read? (text : String) : Option Json :=
  (tokens? text.toList).bind (value? · [])

example : read? " [\"\\ud83d\\uDE00\\/\", -12 ,\x7b\"a\":null\x7d]" =
    some (.array [.string "😀/", .int (-12), .object [("a", .null)]]) := by
  cbv

/-! ### The value of the tokens -/

/-- The tokens of a value do not begin with the end of an array. -/
theorem value?_bracket {t : Token} (h : t ≠ .mark ']') (ts : List Token) (frames : List Frame) :
    value? (.mark '[' :: t :: ts) frames = value? (t :: ts) (.item [] :: frames) := by
  rw [value?]
  rintro ts ⟨⟩
  exact h rfl

theorem exists_head_tokens (j : Json) : ∃ t ts, tokens j = t :: ts ∧ t ≠ .mark ']' := by
  cases j with
  | array items => exact ⟨_, _, rfl, nofun⟩
  | object fields => exact ⟨_, _, rfl, nofun⟩
  | _ => exact ⟨_, _, rfl, nofun⟩

theorem exists_head_itemTokens (item : Json) (items : List Json) :
    ∃ t ts, itemTokens (item :: items) = t :: ts ∧ t ≠ .mark ']' := by
  obtain ⟨t, ts, hhead, ht⟩ := exists_head_tokens item
  cases items with
  | nil => exact ⟨t, ts, hhead, ht⟩
  | cons next items =>
      rw [itemTokens, hhead]
      · exact ⟨t, _, rfl, ht⟩
      · nofun

theorem exists_head_fieldTokens (field : String × Json) (fields : List (String × Json)) :
    ∃ ts, fieldTokens (field :: fields) = .value (.string field.1) :: ts := by
  cases fields with
  | nil => exact ⟨_, rfl⟩
  | cons next fields => exact ⟨_, rfl⟩

mutual
/-- **The value of the tokens of a value.** -/
theorem value?_tokens : ∀ (j : Json) (ts : List Token) (frames : List Frame),
    value? (tokens j ++ ts) frames = after? ts j frames
  | .null, _, _ => rfl
  | .bool _, _, _ => rfl
  | .int _, _, _ => rfl
  | .string _, _, _ => rfl
  | .array items, ts, frames => by
      rw [tokens, List.cons_append, List.cons_append, List.append_assoc, List.singleton_append]
      cases items with
      | nil => rfl
      | cons item items =>
          -- an array with items is opened, since their tokens do not begin with its end
          obtain ⟨t, more, hhead, ht⟩ := exists_head_itemTokens item items
          have hitems := value?_itemTokens (item :: items) [] ts frames nofun
          rw [hhead, List.cons_append] at hitems ⊢
          rw [value?_bracket ht, hitems, List.nil_append]
  | .object fields, ts, frames => by
      rw [tokens, List.cons_append, List.cons_append, List.append_assoc, List.singleton_append]
      cases fields with
      | nil => rfl
      | cons field fields =>
          have hfields := name?_fieldTokens (field :: fields) [] ts frames nofun
          obtain ⟨more, hhead⟩ := exists_head_fieldTokens field fields
          rw [hhead, List.cons_append] at hfields ⊢
          exact hfields

theorem value?_itemTokens : ∀ (items before : List Json) (ts : List Token) (frames : List Frame),
    items ≠ [] → value? (itemTokens items ++ .mark ']' :: ts) (.item before :: frames) =
      after? ts (.array (before ++ items)) frames
  | [], _, _, _, h => absurd rfl h
  | [item], before, ts, frames, _ => by
      rw [itemTokens, value?_tokens item]
      rfl
  | item :: next :: items, before, ts, frames, _ => by
      have hitems := value?_itemTokens (next :: items) (before ++ [item]) ts frames nofun
      rw [itemTokens, List.append_assoc, List.cons_append, value?_tokens item]
      · show value? (itemTokens (next :: items) ++ .mark ']' :: ts) _ = _
        rw [hitems, List.append_assoc, List.singleton_append]
      · nofun

theorem name?_fieldTokens : ∀ (fields before : List (String × Json)) (ts : List Token)
    (frames : List Frame),
    fields ≠ [] → name? (fieldTokens fields ++ .mark '}' :: ts) before frames =
      after? ts (.object (before ++ fields)) frames
  | [], _, _, _, h => absurd rfl h
  | [(name, j)], before, ts, frames, _ => by
      show value? (tokens j ++ .mark '}' :: ts) (.field before name :: frames) = _
      rw [value?_tokens j]
      rfl
  | (name, j) :: next :: fields, before, ts, frames, _ => by
      have hfields := name?_fieldTokens (next :: fields) (before ++ [(name, j)]) ts frames nofun
      rw [fieldTokens, List.append_assoc, List.cons_append, List.cons_append]
      · show value? (tokens j ++ _) (.field before name :: frames) = _
        rw [value?_tokens j]
        show name? (fieldTokens (next :: fields) ++ .mark '}' :: ts) _ _ = _
        rw [hfields, List.append_assoc, List.singleton_append]
      · nofun
end

/-! ### The tokens of a read value -/

/-- The tokens that a token stands for. -/
def Token.parts : Token → List Token
  | .mark c => [.mark c]
  | .value j => tokens j

/-- The tokens of items that others follow. -/
def itemsBefore (items : List Json) : List Token :=
  items.flatMap fun item => tokens item ++ [.mark ',']

/-- The tokens of fields that others follow. -/
def fieldsBefore (fields : List (String × Json)) : List Token :=
  fields.flatMap fun (name, j) =>
    .value (.string name) :: .mark ':' :: tokens j ++ [.mark ',']

theorem itemTokens_concat (before : List Json) (item : Json) :
    itemTokens (before ++ [item]) = itemsBefore before ++ tokens item := by
  induction before with
  | nil => rfl
  | cons first before ih =>
      rw [List.cons_append, itemTokens, ih]
      · simp [itemsBefore]
      · simp

theorem fieldTokens_concat (before : List (String × Json)) (name : String) (j : Json) :
    fieldTokens (before ++ [(name, j)]) =
      fieldsBefore before ++ .value (.string name) :: .mark ':' :: tokens j := by
  induction before with
  | nil => rfl
  | cons first before ih =>
      rw [List.cons_append, fieldTokens, ih]
      · simp [fieldsBefore]
      · simp

/-- The tokens that have been read since a frame was opened, up to the value that is due. -/
def Frame.opened : Frame → List Token
  | .item before => .mark '[' :: itemsBefore before
  | .field before name => .mark '{' :: fieldsBefore before ++ [.value (.string name), .mark ':']

/-- The tokens that have been read while frames were opened, the inmost one first. -/
def opened : List Frame → List Token
  | [] => []
  | frame :: frames => opened frames ++ frame.opened

/-- **Nothing is passed over and nothing made up.**  What has been read and what is left make the
tokens of the value that comes out. -/
theorem opened_append (j : Json) :
    (∀ ts frames, value? ts frames = some j →
      opened frames ++ ts.flatMap Token.parts = tokens j) ∧
    (∀ ts before frames, name? ts before frames = some j →
      opened frames ++ .mark '{' :: fieldsBefore before ++ ts.flatMap Token.parts = tokens j) ∧
    (∀ ts v frames, after? ts v frames = some j →
      opened frames ++ tokens v ++ ts.flatMap Token.parts = tokens j) := by
  refine value?.mutual_induct
    (fun ts frames => value? ts frames = some j → _)
    (fun ts before frames => name? ts before frames = some j → _)
    (fun ts v frames => after? ts v frames = some j → _)
    ?_ ?_ ?_ ?_ ?_ ?_ ?_ ?_ ?_ ?_ ?_ ?_ ?_ ?_
  -- a value is due
  · intro v ts frames ih h
    simpa [Token.parts] using ih h
  · intro ts frames ih h
    simpa [Token.parts, tokens, itemTokens] using ih h
  · intro ts frames hopen ih h
    rw [value?] at h
    · simpa [Token.parts, opened, Frame.opened, itemsBefore] using ih h
    · exact hopen
  · intro ts frames ih h
    simpa [Token.parts, tokens, fieldTokens] using ih h
  · intro ts frames hopen ih h
    rw [value?] at h
    · simpa [Token.parts, fieldsBefore] using ih h
    · exact hopen
  · intro ts frames hvalue hempty hopen hnone hname h
    rw [value?] at h
    · cases h
    all_goals assumption
  -- the name of a field is due
  · intro name ts before frames ih h
    simpa [Token.parts, tokens, opened, Frame.opened] using ih h
  · intro ts before frames hname h
    rw [name?] at h
    · cases h
    · exact hname
  -- a value has been read
  · rintro v ⟨⟩
    simp [opened]
  · intro ts v before frames ih h
    simpa [Token.parts, opened, Frame.opened, itemsBefore] using ih h
  · intro ts v before frames ih h
    simpa [Token.parts, opened, Frame.opened, tokens, itemTokens_concat] using ih h
  · intro ts v before name frames ih h
    simpa [Token.parts, opened, Frame.opened, fieldsBefore] using ih h
  · intro ts v before name frames ih h
    simpa [Token.parts, opened, Frame.opened, tokens, fieldTokens_concat] using ih h
  · intro ts v frames hend hcomma hbracket hnext hbrace h
    rw [after?] at h
    · cases h
    all_goals assumption

theorem parts_of_tokens? {cs : List Char} {ts : List Token} (h : tokens? cs = some ts) :
    ts.flatMap Token.parts = ts := by
  fun_induction tokens? cs generalizing ts with
  | case1 =>
      cases h
      rfl
  | case2 c cs hspace ih => exact ih h
  | case3 c cs hspace hmark ih =>
      obtain ⟨more, hmore, rfl⟩ := Option.map_eq_some_iff.mp h
      rw [List.flatMap_cons, ih hmore]
      rfl
  | case4 => cases h
  | case5 c cs hspace hmark j left hscalar _ ih =>
      obtain ⟨more, hmore, rfl⟩ := Option.map_eq_some_iff.mp h
      rw [List.flatMap_cons, ih hmore, Token.parts, (scalar?_takes hscalar).1]
      rfl

/-- **A text is read as a value exactly if its tokens are the tokens of the value.** -/
theorem read?_eq_some {text : String} {j : Json} :
    read? text = some j ↔ tokens? text.toList = some (tokens j) := by
  rw [read?, Option.bind_eq_some_iff]
  constructor
  · rintro ⟨ts, hts, hvalue⟩
    have hwhole := (opened_append j).1 ts [] hvalue
    rw [opened, List.nil_append, parts_of_tokens? hts] at hwhole
    rw [hts, hwhole]
  · intro hts
    refine ⟨tokens j, hts, ?_⟩
    have hvalue := value?_tokens j [] []
    rwa [List.append_nil, after?] at hvalue

end Json

end Switchboard
