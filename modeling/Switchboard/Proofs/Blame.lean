import Switchboard.Proofs.Bounds
import Switchboard.Proofs.Conjunction
import Switchboard.Proofs.Snags

/-!
# Proofs — Blame

What a rejection says: the argument of the tree that it blames, and a wording that can be written.
A host refuses to write a whole number of more digits than it reads.  A wording writes out bounds
and numbers that are read from tokens, and neither have more digits than that; so every wording can
be written.  What is neither accepted nor rejected comes to a pattern for bytes.

* `Argument.Node`, `Argument.Blames`: the arguments of a tree, and those that a rejection may blame.
* `Reason.message?`, `Reason.message?_eq`: the wording of a reason by a host that may refuse to
  write a number.
* `Argument.Founded`, `founded_of_rejected`: whom a rejection blames, and where its numbers come
  from.
* `Argument.obstacle?`, `exists_obstacle`: the argument of a tree that keeps it from reading.
* `validate_accepts_or_blames`: a tree accepts a text or rejects it on behalf of one of its
  arguments, unless the text comes to a pattern for bytes, and nothing else can go wrong.
-/

namespace Switchboard

/-! ### The arguments of a tree -/

namespace Argument

/-- The arguments of a tree: the argument itself and those of its members. -/
inductive Node : Argument → Argument → Prop where
  | self (a : Argument) : Node a a
  | member {a m b : Argument} (hm : m ∈ a.members) (h : Node m b) : Node a b

/-- **The arguments that a rejection may blame.**  A group of members in a row passes on the
rejection of a member, and rejects for itself only if it has none.  Every other argument rejects for
itself. -/
inductive Blames : Argument → Argument → Prop where
  | own {a : Argument} (h : ∀ label m members, a ≠ .group label .and (m :: members)) : Blames a a
  | member {label : Label} {members : List Argument} {m b : Argument} (hm : m ∈ members)
      (h : Blames m b) : Blames (.group label .and members) b

/-- What holds of an argument and of all trees below it holds of all arguments of the tree. -/
theorem forall_node {a : Argument} {P : Argument → Prop} (h : P a)
    (hmembers : ∀ m ∈ a.members, ∀ b, m.Node b → P b) (b : Argument) (hb : a.Node b) : P b := by
  cases hb with
  | self => exact h
  | member hm hb => exact hmembers _ hm b hb

theorem Node.trans {a b c : Argument} (h : a.Node b) (h' : b.Node c) : a.Node c := by
  induction h with
  | self => exact h'
  | member hm _ ih => exact .member hm (ih h')

theorem Blames.node {a b : Argument} (h : a.Blames b) : a.Node b := by
  induction h with
  | own => exact .self _
  | member hm _ ih => exact .member hm ih

/-- A rejection by a group of alternatives blames the group itself. -/
theorem blames_or {label : Label} {members : List Argument} {b : Argument} :
    (Argument.group label .or members).Blames b ↔ b = .group label .or members := by
  constructor
  · intro h
    cases h with
    | own => rfl
  · rintro rfl
    exact .own nofun

end Argument

/-! ### Writing a reason -/

/-- The digits of a whole number, by a host that refuses to write more digits than it reads. -/
def decimalText? (i : Int) : Option String :=
  if (Nat.toDigits 10 i.natAbs).length ≤ Reading.maxDigits then some (decimalText i) else none

/-- The text of a number as people write it, by such a host. -/
def Number.plainText? (n : Number) : Option String :=
  match n.toInt? with
  | some i => decimalText? i
  | none => some n.text

namespace Reason

/-- The wording of a reason, by such a host.  The length of a text is always written: no host holds
a text whose length has so many digits. -/
def message? : Reason → Option String
  | .tooShort minimum length => do
      return "String length not greater or equal! Expected at least " ++ (← decimalText? minimum) ++
        ", but got " ++ decimalText length
  | .tooLong maximum length => do
      return "String length not less or equal! Maximum " ++ (← decimalText? maximum) ++
        " chars allowed, but got " ++ decimalText length
  | .belowMinimum minimum number => do
      return "Number not greater or equal! Expected at least " ++ (← minimum.plainText?) ++
        ", but got " ++ (← number.plainText?)
  | .aboveMaximum maximum number => do
      return "Number not less or equal! Expected at most " ++ (← maximum.plainText?) ++
        ", but got " ++ (← number.plainText?)
  | .notWhole number => do
      return "Given Number is not an Integer! (" ++ (← number.plainText?) ++ ")"
  | .notPositive number => do
      return "Given Number is not Positive! (" ++ (← number.plainText?) ++ ")"
  | .notNegative number => do
      return "Given Number is not Negative! (" ++ (← number.plainText?) ++ ")"
  | r => some r.message

/-- The bounds and the numbers from tokens that the wording of a reason writes out. -/
def numbers : Reason → List Number
  | .tooShort n _ | .tooLong n _ => [.int n]
  | .belowMinimum bound number | .aboveMaximum bound number => [bound, number]
  | .notWhole number | .notPositive number | .notNegative number => [number]
  | _ => []

end Reason

/-- A number that can be read can be written. -/
theorem Number.Valid.plainText? {n : Number} (h : n.Valid) : n.plainText? = some n.plainText := by
  unfold Number.plainText?
  cases hi : n.toInt? with
  | some i =>
      have hwritten : decimalText? i = some (decimalText i) := if_pos (h.length_toDigits hi)
      cases n with
      | int i' =>
          cases hi
          exact hwritten
      | float x =>
          have hx : x.toInt? = some i := hi
          simp only [hwritten, Number.plainText, hx]
  | none =>
      cases n with
      | int i' => cases hi
      | float x =>
          have hx : x.toInt? = none := hi
          simp only [Number.text, Number.plainText, hx]

/-- **A reason is written as it is worded** if its numbers can be read. -/
theorem Reason.message?_eq {r : Reason} (h : ∀ n ∈ r.numbers, n.Valid) :
    r.message? = some r.message := by
  have hplain : ∀ n ∈ r.numbers, n.plainText? = some n.plainText := fun n hn => (h n hn).plainText?
  have hint : ∀ n : Nat, Number.int n ∈ r.numbers →
      decimalText? n = some (decimalText n) := fun n hn => (h _ hn).plainText?
  cases r with
  | tooShort minimum length =>
      rw [message?, hint minimum (.head _)]
      rfl
  | tooLong maximum length =>
      rw [message?, hint maximum (.head _)]
      rfl
  | belowMinimum minimum number =>
      rw [message?, hplain minimum (.head _), hplain number (.tail _ (.head _))]
      rfl
  | aboveMaximum maximum number =>
      rw [message?, hplain maximum (.head _), hplain number (.tail _ (.head _))]
      rfl
  | notWhole number | notPositive number | notNegative number =>
      rw [message?, hplain number (.head _)]
      rfl
  | _ => rfl

/-! ### Whom a rejection blames -/

/-- A text rule finds fault with nothing but its own bounds. -/
theorem TextRule.numbers_of_fault? {rule : TextRule} {cs : List Char} {reason : Reason}
    (h : rule.fault? cs = some reason) : ∀ n ∈ reason.numbers, n ∈ rule.bounds := by
  cases TextRule.fault?_eq_some.mp h with
  | short hm | long _ hm => simp [Reason.numbers, bounds, Option.mem_def.mp hm]
  | unlisted | mismatch => exact nofun

/-- A number rule finds fault with a number, by its own bounds. -/
theorem NumberRule.numbers_of_fault? {rule : NumberRule} {number : Number} {reason : Reason}
    (h : rule.fault? number = some reason) :
    ∀ n ∈ reason.numbers, n ∈ rule.bounds ∨ n = number := by
  cases NumberRule.fault?_eq_some.mp h with
  | below hm | above _ hm => simp [Reason.numbers, bounds, Option.mem_def.mp hm]
  | fractional => simp [Reason.numbers]
  | @sign s => cases s <;> simp [Sign.reason, Reason.numbers]

namespace Argument

/-- **A rejection by a tree**: it blames an argument that it may blame, and the numbers that it
writes out are bounds of that argument or read from a token. -/
structure Founded (a : Argument) (r : Rejection) : Prop where
  blames : a.Blames r.argument
  numbers : ∀ n ∈ r.reason.numbers,
    n ∈ r.argument.bounds ∨ ∃ token, Number.read? token = some n

/-- Alternatives are tried until one accepts, whatever the others reject. -/
theorem validateAny_ne_rejected (arguments : List Argument) (cs : List Char) (r : Rejection) :
    validateAny arguments cs ≠ .error (.rejected r) := by
  induction arguments with
  | nil => simp [validateAny]
  | cons a arguments ih =>
      rw [validateAny]
      cases a.validate cs with
      | ok read => simp
      | error e =>
          cases e with
          | unusable => simp
          | rejected _ => exact ih

/-- **Whom a rejection blames, and where its numbers come from.** -/
theorem founded_of_rejected (a : Argument) {cs : List Char} {r : Rejection}
    (h : a.validate cs = .error (.rejected r)) : a.Founded r := by
  induction a using memberInduction generalizing cs with
  | bare label =>
      rw [validate_bare] at h
      cases h
  | string =>
      obtain ⟨reason, hfault, rfl⟩ := string_rejects.mp h
      exact ⟨.own nofun, fun n hn => .inl (TextRule.numbers_of_fault? hfault n hn)⟩
  | rest =>
      obtain ⟨reason, hfault, rfl⟩ := rest_rejects.mp h
      exact ⟨.own nofun, fun n hn => .inl (TextRule.numbers_of_fault? hfault n hn)⟩
  | number =>
      rcases number_rejects.mp h with ⟨-, rfl⟩ | ⟨number, reason, hread, hfault, rfl⟩
      · exact ⟨.own nofun, nofun⟩
      · refine ⟨.own nofun, fun n hn => ?_⟩
        rcases NumberRule.numbers_of_fault? hfault n hn with hbound | rfl
        · exact .inl hbound
        · exact .inr ⟨_, hread⟩
  | client =>
      obtain ⟨-, rfl⟩ := client_rejects.mp h
      exact ⟨.own nofun, nofun⟩
  | group label combinator members ih =>
      by_cases hne : members = []
      · subst hne
        rw [validate_group_nil] at h
        cases h
        exact ⟨.own nofun, nofun⟩
      cases combinator with
      | and =>
          obtain ⟨front, m, after, left, rfl, -, hm⟩ :=
            leaveAll_eq_error.mp ((validate_and_refuses hne).mp h)
          have hfounded := ih m (by simp) hm
          cases front <;> exact ⟨.member (by simp) hfounded.blames, hfounded.numbers⟩
      | or =>
          rw [validate_or hne] at h
          cases hread : validateAny members cs with
          | error e =>
              rw [hread] at h
              cases h
              exact absurd hread (validateAny_ne_rejected members cs _)
          | ok found =>
              rw [hread] at h
              cases found with
              | some read => cases h
              | none =>
                  cases h
                  exact ⟨.own nofun, nofun⟩

/-! ### What keeps a tree from reading -/

/-- What keeps the argument itself from reading texts. -/
def obstacle? : Argument → Option Obstacle
  | .bare _ => some .noKind
  | .string _ rule | .rest _ rule => if rule.ofBytes then some .bytesPattern else none
  | _ => none

section

variable {obstacle : Obstacle}

/-- What keeps a tree from reading a text is in one of its arguments. -/
theorem exists_obstacle (a : Argument) {cs : List Char}
    (h : a.validate cs = .error (.unusable obstacle)) :
    ∃ b, a.Node b ∧ b.obstacle? = some obstacle := by
  induction a using memberInduction generalizing cs with
  | bare label =>
      rw [validate_bare] at h
      cases h
      exact ⟨.bare label, .self _, rfl⟩
  | string label rule =>
      obtain ⟨⟨-, hbytes⟩, rfl⟩ := string_unusable.mp h
      exact ⟨.string label rule, .self _, if_pos hbytes⟩
  | rest label rule =>
      obtain ⟨⟨-, hbytes⟩, rfl⟩ := rest_unusable.mp h
      exact ⟨.rest label rule, .self _, if_pos hbytes⟩
  | number => exact absurd h number_usable
  | client => exact absurd h client_usable
  | group label combinator members ih =>
      obtain ⟨m, hm, cs, hunusable⟩ := exists_of_group_unusable h
      obtain ⟨b, hb, hobstacle⟩ := ih m hm hunusable
      exact ⟨b, .member hm hb, hobstacle⟩

/-- Nothing but a pattern for bytes keeps a tree of kinds that read from reading. -/
theorem eq_bytesPattern {a : Argument} (hkinds : ∀ b, a.Node b → b.kind ≠ .bare) {cs : List Char}
    (h : a.validate cs = .error (.unusable obstacle)) : obstacle = .bytesPattern := by
  cases obstacle with
  | bytesPattern => rfl
  | noKind =>
      obtain ⟨b, hb, hobstacle⟩ := exists_obstacle a h
      cases b with
      | bare label => exact absurd rfl (hkinds _ hb)
      | string label rule | rest label rule =>
          simp only [obstacle?] at hobstacle
          split at hobstacle <;> cases hobstacle
      | number | client | group => cases hobstacle

end

/-! ### The whole tree -/

theorem Made.node {a b : Argument} (h : a.Made) (hb : a.Node b) : b.Made := by
  induction hb with
  | self => exact h
  | member hm _ ih => exact ih (h.parts.1 _ hm)

/-- **A tree accepts a text or rejects it, unless the text comes to a pattern for bytes, and nothing
else can go wrong.**  A tree that can be made of the kinds that read accepts a text and leaves a
text, or rejects it on behalf of one of its arguments; it does one of the two exactly if the text
does not come to a pattern for bytes, which one of the arguments must have then.  Wherever in the
tree a text is rejected, the rejection blames the argument that is at fault, and its wording can be
written, also if the rejection is discarded later. -/
theorem validate_accepts_or_blames {a : Argument} (hmade : a.Made)
    (hkinds : ∀ b, a.Node b → b.kind ≠ .bare)
    (hfloats : ∀ b, a.Node b → ∀ x, Number.float x ∈ b.bounds → x.Valid) (cs : List Char) :
    (((∃ value left, a.validate cs = .ok (value, left)) ∨
        ∃ r, a.validate cs = .error (.rejected r) ∧ a.Node r.argument) ↔ ¬a.Snags cs) ∧
      (a.Snags cs → a.validate cs = .error (.unusable .bytesPattern) ∧
        ∃ b, a.Node b ∧ b.obstacle? = some .bytesPattern) ∧
      ∀ b, a.Node b → ∀ text r, b.validate text = .error (.rejected r) →
        b.Blames r.argument ∧ (∀ label members, b = .group label .or members → r.argument = b) ∧
          r.reason.message? = some r.message := by
  refine ⟨⟨?_, fun hclear => ?_⟩, fun hsnags => ⟨hsnags.unusable, exists_obstacle a hsnags.unusable⟩,
    fun b hb text r hread => ?_⟩
  · rintro (⟨value, left, haccepts⟩ | ⟨r, hrejects, -⟩) hsnags
    · cases hsnags.unusable.symm.trans haccepts
    · cases hsnags.unusable.symm.trans hrejects
  · cases hread : a.validate cs with
    | ok read => exact .inl ⟨read.1, read.2, rfl⟩
    | error e =>
        cases e with
        | rejected r => exact .inr ⟨r, rfl, (founded_of_rejected a hread).blames.node⟩
        | unusable obstacle =>
            obtain rfl := eq_bytesPattern hkinds hread
            exact absurd (snags_of_unusable a hread) hclear
  · have hfounded := founded_of_rejected b hread
    have hnode := hb.trans hfounded.blames.node
    refine ⟨hfounded.blames, ?_, Reason.message?_eq fun n hn => ?_⟩
    · rintro label members rfl
      exact blames_or.mp hfounded.blames
    rcases hfounded.numbers n hn with hbound | ⟨token, htoken⟩
    · exact (hmade.node hnode).bounds_valid (hfloats _ hnode) n hbound
    · exact Number.valid_of_read? htoken

/-- A number of at least 2.5, or a word out of a list.  A lower number is rejected by both, so the
rejection blames the group of the two; the wording by the first of them can be written though it is
discarded. -/
theorem validate_accepts_or_blames_rehearsed :
    let half : Binary64 := ⟨false, 5, -1⟩
    let count : Argument :=
      .number { name := "n", display := "n" } { minimum := some (.float half) }
    let word : Argument := .string { name := "w", display := "w" } { words := some ["days"] }
    let either : Argument := .group {} .or [count, word]
    let tree : Argument := .group {} .and [either]
    tree.Made ∧ (∀ b, tree.Node b → b.kind ≠ .bare) ∧
      (∀ b, tree.Node b → ∀ x, Number.float x ∈ b.bounds → x.Valid) ∧
      (∃ r, tree.validate "1".toList = .error (.rejected r) ∧ tree.Node r.argument) ∧
      ¬tree.Snags "1".toList ∧ tree.Blames either ∧
      (Reason.belowMinimum (.float half) (.int 1)).message? =
        some "Number not greater or equal! Expected at least 2.5, but got 1" := by
  intro half count word either tree
  have hnumber : make (.text "number") (.text "n") .unset =
      .ok (.number { name := "n", display := "n" } {}) := rfl
  have hstring : make (.text "string") (.text "w") .unset =
      .ok (.string { name := "w", display := "w" } {}) := rfl
  have hor : makeGroup (.text "or") .unset .unset = .ok (.group {} .or []) := rfl
  have hand : makeGroup (.text "and") .unset .unset = .ok (.group {} .and []) := rfl
  have hcount : count.Made := .build (.primitive hnumber) (.min (.float (.finite half))) nofun
  have hword : word.Made :=
    .build (.primitive hstring) (.whitelist (.list [.text "days"])) nofun
  have heither : either.Made := .build (.group hor) (.add [some count, some word])
    (List.forall_mem_cons.mpr ⟨hcount, List.forall_mem_singleton.mpr hword⟩)
  have hmade : tree.Made := .build (.group hand) (.add [some either])
    (List.forall_mem_singleton.mpr heither)
  have hkinds : ∀ b, tree.Node b → b.kind ≠ .bare := by
    refine forall_node nofun (List.forall_mem_singleton.mpr (forall_node nofun ?_))
    exact List.forall_mem_cons.mpr
      ⟨forall_node nofun nofun, List.forall_mem_singleton.mpr (forall_node nofun nofun)⟩
  have hhalf : half.Valid := by
    constructor <;> decide
  have hbound : ∀ x, Number.float x ∈ count.bounds → x.Valid := by
    intro x hx
    cases List.mem_singleton.mp hx
    exact hhalf
  have hfloats : ∀ b, tree.Node b → ∀ x, Number.float x ∈ b.bounds → x.Valid := by
    refine forall_node nofun (List.forall_mem_singleton.mpr (forall_node nofun ?_))
    exact List.forall_mem_cons.mpr
      ⟨forall_node hbound nofun, List.forall_mem_singleton.mpr (forall_node nofun nofun)⟩
  have hnode : tree.Node count := .member (.head _) (.member (.head _) (.self _))
  have htree : tree.validate "1".toList = .error (.rejected ⟨either, .noAlternative⟩) := rfl
  have hbelow : count.validate "1".toList =
      .error (.rejected ⟨count, .belowMinimum (.float half) (.int 1)⟩) := rfl
  have hworded : (Reason.belowMinimum (.float half) (.int 1)).message =
      "Number not greater or equal! Expected at least 2.5, but got 1" := by decide +kernel
  obtain ⟨hclear, -, hrejects⟩ := validate_accepts_or_blames hmade hkinds hfloats "1".toList
  obtain ⟨-, -, hwritten⟩ := hrejects count hnode _ _ hbelow
  have hblames := (hrejects tree (.self _) _ _ htree).1
  have hrejected : ∃ r, tree.validate "1".toList = .error (.rejected r) ∧ tree.Node r.argument :=
    ⟨_, htree, hblames.node⟩
  exact ⟨hmade, hkinds, hfloats, hrejected, hclear.mp (.inr hrejected), hblames,
    hwritten.trans (congrArg some hworded)⟩

/-- A tree of a word with a pattern for bytes can be made, and it neither accepts nor rejects the
text `abc`. -/
theorem not_validate_accepts_or_blames_rehearsed :
    let word := ((Argument.string {} {}).build (.matching (.pattern Rehearsal.bytesPattern))).argument
    let tree := ((Argument.group {} .and []).build (.add [some word])).argument
    tree.Made ∧ (∀ b, tree.Node b → b.kind ≠ .bare) ∧
      tree.validate "abc".toList = .error (.unusable .bytesPattern) ∧
      ¬∀ a : Argument, a.Made → (∀ b, a.Node b → b.kind ≠ .bare) → ∀ cs : List Char,
        (∃ value left, a.validate cs = .ok (value, left)) ∨
          ∃ r, a.validate cs = .error (.rejected r) := by
  intro word tree
  have hstring : make (.text "string") .unset .unset = .ok (.string {} {}) := rfl
  have hand : makeGroup (.text "and") .unset .unset = .ok (.group {} .and []) := rfl
  have hword : word.Made := .build (.primitive hstring) _ nofun
  have hmade : tree.Made := .build (.group hand) _ (List.forall_mem_singleton.mpr hword)
  have hkinds : ∀ b, tree.Node b → b.kind ≠ .bare :=
    forall_node nofun (List.forall_mem_singleton.mpr (forall_node nofun nofun))
  have hread : tree.validate "abc".toList = .error (.unusable .bytesPattern) := rfl
  refine ⟨hmade, hkinds, hread, fun hall => ?_⟩
  rcases hall tree hmade hkinds "abc".toList with ⟨value, left, haccepts⟩ | ⟨r, hrejects⟩
  · cases hread.symm.trans haccepts
  · cases hread.symm.trans hrejects

end Argument

end Switchboard
