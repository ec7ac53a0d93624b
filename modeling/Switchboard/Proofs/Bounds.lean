import Switchboard.Proofs.Magnitude
import Switchboard.Proofs.Making

/-!
# Proofs — Bounds

The members and the bounds of the arguments that can be made.  Only adding members adds any, and
they were made before.  Only a call that is accepted sets a bound, and a whole number is accepted
only within the range of binary64 numbers; so a bound has no more digits than a number that is read.

* `Argument.members`, `Argument.bounds`: what an argument is made of, and what it demands of
  numbers.
* `checkLength_lt`, `checkBound_lt`: the whole numbers that are accepted as bounds.
* `build_parts`: what a call does to the members and to the bounds.
* `Made.parts`, `Made.bounds_valid`: the members and the bounds of an argument that can be made.
-/

namespace Switchboard

/-- The bounds of a rule for texts. -/
def TextRule.bounds (r : TextRule) : List Number :=
  (r.minimum.toList ++ r.maximum.toList).map fun n : Nat => .int n

/-- The bounds of a rule for numbers. -/
def NumberRule.bounds (r : NumberRule) : List Number := r.minimum.toList ++ r.maximum.toList

namespace Argument

/-- The members of a group. -/
def members : Argument → List Argument
  | .group _ _ members => members
  | _ => []

/-- The bounds of an argument. -/
def bounds : Argument → List Number
  | .string _ rule | .rest _ rule => rule.bounds
  | .number _ rule => rule.bounds
  | _ => []

/-! ### Bounds that are accepted -/

theorem exists_of_map_eq_ok {ε α β : Type} {e : Except ε α} {f : α → β} {y : β}
    (h : e.map f = .ok y) : ∃ x, e = .ok x ∧ f x = y := by
  cases e with
  | error e => cases h
  | ok x => exact ⟨x, rfl, Except.ok.inj h⟩

theorem checkRange_lt {i j : Int} (h : checkRange i = .ok j) : j.natAbs < floatRange := by
  unfold checkRange at h
  split at h
  · rename_i hlt
    cases h
    exact hlt
  · cases h

/-- A length that is accepted is within the range of binary64 numbers. -/
theorem checkLength_lt {kind : ArgumentKind} {bound : Bound} {v : Value} {n : Nat}
    (h : checkLength kind bound v = .ok n) : n < floatRange := by
  unfold checkLength at h
  split at h
  · split at h
    · cases h
    · obtain ⟨i, hrange, rfl⟩ := exists_of_map_eq_ok h
      have hlt := checkRange_lt hrange
      omega
  · cases h
  · cases h

/-- So is a bound that is a whole number. -/
theorem checkBound_lt {kind : ArgumentKind} {bound : Bound} {v : Value} {i : Int}
    (h : checkBound kind bound v = .ok (.int i)) : i.natAbs < floatRange := by
  unfold checkBound at h
  split at h
  · obtain ⟨j, hrange, hj⟩ := exists_of_map_eq_ok h
    cases hj
    exact checkRange_lt hrange
  · cases h
  · cases h
  · cases h

/-- What a call changes in a rule for texts leaves the bounds, or sets one that is accepted. -/
theorem textChange?_bounds {kind : ArgumentKind} {call : Build} {change : TextRule → TextRule}
    (h : textChange? kind call = some (.ok change)) (rule : TextRule) {i : Int}
    (hi : .int i ∈ (change rule).bounds) : .int i ∈ rule.bounds ∨ i.natAbs < floatRange := by
  obtain ⟨n, hn, hin⟩ := List.mem_map.mp hi
  obtain rfl : (n : Int) = i := Number.int.inj hin
  have hold : n ∈ rule.minimum.toList ++ rule.maximum.toList →
      .int (n : Int) ∈ rule.bounds ∨ n < floatRange := fun hn => .inl (List.mem_map_of_mem hn)
  cases call with
  | min bound =>
      obtain ⟨minimum, hlength, rfl⟩ := exists_of_map_eq_ok (Option.some.inj h)
      rcases List.mem_append.mp hn with hmin | hmax
      · rw [List.mem_singleton.mp hmin]
        exact .inr (checkLength_lt hlength)
      · exact hold (List.mem_append_right _ hmax)
  | max bound =>
      obtain ⟨maximum, hlength, rfl⟩ := exists_of_map_eq_ok (Option.some.inj h)
      rcases List.mem_append.mp hn with hmin | hmax
      · exact hold (List.mem_append_left _ hmin)
      · rw [List.mem_singleton.mp hmax]
        exact .inr (checkLength_lt hlength)
  | matching pattern =>
      obtain ⟨p, -, rfl⟩ := exists_of_map_eq_ok (Option.some.inj h)
      exact hold hn
  | whitelist words =>
      obtain ⟨words, -, rfl⟩ := exists_of_map_eq_ok (Option.some.inj h)
      exact hold hn
  | forceUpper | forceLower =>
      cases h
      exact hold hn
  | _ => cases h

/-- So does what a call changes in a rule for numbers. -/
theorem numberChange?_bounds {kind : ArgumentKind} {call : Build}
    {change : NumberRule → NumberRule} (h : numberChange? kind call = some (.ok change))
    (rule : NumberRule) {i : Int} (hi : .int i ∈ (change rule).bounds) :
    .int i ∈ rule.bounds ∨ i.natAbs < floatRange := by
  cases call with
  | min bound =>
      obtain ⟨minimum, hbound, rfl⟩ := exists_of_map_eq_ok (Option.some.inj h)
      rcases List.mem_append.mp hi with hmin | hmax
      · cases List.mem_singleton.mp hmin
        exact .inr (checkBound_lt hbound)
      · exact .inl (List.mem_append_right _ hmax)
  | max bound =>
      obtain ⟨maximum, hbound, rfl⟩ := exists_of_map_eq_ok (Option.some.inj h)
      rcases List.mem_append.mp hi with hmin | hmax
      · exact .inl (List.mem_append_left _ hmin)
      · cases List.mem_singleton.mp hmax
        exact .inr (checkBound_lt hbound)
  | integer | positive | negative =>
      cases h
      exact .inl hi
  | _ => cases h

/-! ### Trees that can be made -/

/-- An argument under another label has the same members and the same bounds. -/
theorem parts_of_label {a b : Argument} (h : b = a ∨ ∃ label, b = a.withLabel label) :
    b.members = a.members ∧ b.bounds = a.bounds := by
  rcases h with rfl | ⟨label, rfl⟩
  · exact ⟨rfl, rfl⟩
  · cases a <;> exact ⟨rfl, rfl⟩

/-- Naming an argument gives it another label, if anything. -/
theorem setName_label (a : Argument) (name display : Value) :
    (a.setName name display).argument = a ∨
      ∃ label, (a.setName name display).argument = a.withLabel label := by
  unfold setName
  split
  · exact .inl rfl
  · split <;> exact .inr ⟨_, rfl⟩

theorem named_label {a b : Argument} {name display : Value} (h : a.named name display = .ok b) :
    b = a ∨ ∃ label, b = a.withLabel label := by
  unfold named at h
  split at h
  · cases h
    exact .inl rfl
  · have hset := a.setName_label name display
    split at h
    · rename_i heq
      cases h
      rw [heq] at hset
      exact hset
    · cases h

theorem filterMap_of_mapM {given : List (Option Argument)} {members : List Argument}
    (h : given.mapM id = some members) : given.filterMap id = members := by
  induction given generalizing members with
  | nil =>
      cases h
      rfl
  | cons m given ih =>
      rw [List.mapM_cons] at h
      obtain ⟨a, ha, h⟩ := Option.bind_eq_some_iff.mp h
      obtain ⟨more, hmore, h⟩ := Option.bind_eq_some_iff.mp h
      cases h
      rw [List.filterMap_cons_some ha, ih hmore]

/-- **What a call does to the members and to the bounds of an argument**: members may be added, and
a bound may be set that is accepted. -/
theorem build_parts (a : Argument) (call : Build) :
    (∀ m ∈ (a.build call).argument.members, m ∈ a.members ∨ m ∈ call.members) ∧
      ∀ i, .int i ∈ (a.build call).argument.bounds →
        .int i ∈ a.bounds ∨ i.natAbs < floatRange := by
  unfold build
  split
  · obtain ⟨hmembers, hbounds⟩ := parts_of_label (a.setName_label _ _)
    rw [hmembers, hbounds]
    exact ⟨fun m hm => .inl hm, fun i hi => .inl hi⟩
  · rename_i fallback
    have hlabel : ∃ label, a.setOptional fallback = a.withLabel label := ⟨_, rfl⟩
    obtain ⟨hmembers, hbounds⟩ := parts_of_label (.inr hlabel)
    rw [hmembers, hbounds]
    exact ⟨fun m hm => .inl hm, fun i hi => .inl hi⟩
  · split
    · exact ⟨fun m hm => .inl hm, nofun⟩
    · rename_i members hmembers
      refine ⟨fun m hm => ?_, nofun⟩
      rcases List.mem_append.mp hm with hold | hnew
      · exact .inl hold
      · right
        rw [Build.members, filterMap_of_mapM hmembers]
        exact hnew
  -- A call on demands changes the rule if it is accepted.
  · split
    · exact ⟨nofun, fun i hi => .inl hi⟩
    · exact ⟨nofun, fun i hi => .inl hi⟩
    · rename_i change hchange
      exact ⟨nofun, fun i hi => textChange?_bounds hchange _ hi⟩
  · split
    · exact ⟨nofun, fun i hi => .inl hi⟩
    · exact ⟨nofun, fun i hi => .inl hi⟩
    · rename_i change hchange
      exact ⟨nofun, fun i hi => textChange?_bounds hchange _ hi⟩
  · split
    · exact ⟨nofun, fun i hi => .inl hi⟩
    · exact ⟨nofun, fun i hi => .inl hi⟩
    · rename_i change hchange
      exact ⟨nofun, fun i hi => numberChange?_bounds hchange _ hi⟩
  · exact ⟨fun m hm => .inl hm, fun i hi => .inl hi⟩

/-- What comes from a factory has no members and no bounds. -/
theorem parts_of_named {a b : Argument} {name display : Value} (h : a.named name display = .ok b)
    (hmembers : a.members = []) (hbounds : a.bounds = []) : b.members = [] ∧ b.bounds = [] := by
  obtain ⟨hmembers', hbounds'⟩ := parts_of_label (named_label h)
  exact ⟨hmembers'.trans hmembers, hbounds'.trans hbounds⟩

theorem parts_of_make {kind name display : Value} {a : Argument}
    (h : make kind name display = .ok a) : a.members = [] ∧ a.bounds = [] := by
  unfold make at h
  split at h
  · split at h
    · rename_i kind _
      exact parts_of_named h (by cases kind <;> rfl) (by cases kind <;> rfl)
    · cases h
  · cases h

theorem parts_of_makeGroup {combinator name display : Value} {a : Argument}
    (h : makeGroup combinator name display = .ok a) : a.members = [] ∧ a.bounds = [] := by
  unfold makeGroup at h
  split at h
  · dsimp only at h
    split at h
    · exact parts_of_named h rfl rfl
    · cases h
  · cases h

/-- **The members of a group that can be made can be made, and a bound that is a whole number is
within the range of binary64 numbers.** -/
theorem Made.parts {a : Argument} (h : a.Made) :
    (∀ m ∈ a.members, m.Made) ∧ ∀ i, .int i ∈ a.bounds → i.natAbs < floatRange := by
  have hnew : ∀ {b : Argument}, b.members = [] ∧ b.bounds = [] →
      (∀ m ∈ b.members, m.Made) ∧ ∀ i, .int i ∈ b.bounds → i.natAbs < floatRange := by
    rintro b ⟨hmembers, hbounds⟩
    rw [hmembers, hbounds]
    exact ⟨nofun, nofun⟩
  induction h with
  | primitive h => exact hnew (parts_of_make h)
  | group h => exact hnew (parts_of_makeGroup h)
  | bare h => exact hnew (parts_of_named h rfl rfl)
  | @build a _ call hmembers ih _ =>
      obtain ⟨hmore, hbounds⟩ := a.build_parts call
      refine ⟨fun m hm => ?_, fun i hi => ?_⟩
      · exact (hmore m hm).elim (ih.1 m) (hmembers m)
      · exact (hbounds i hi).elim (ih.2 i) id

theorem floatRange_le : floatRange ≤ 10 ^ Reading.maxDigits := by
  have hbits : floatRange ≤ 2 ^ Binary64.bits := by
    unfold floatRange Binary64.bits
    generalize 1024 = n
    exact Nat.sub_le (Nat.pow 2 n) _
  exact hbits.trans Binary64.two_pow_bits_le

/-- The bounds of an argument that can be made can be read, if those that are no whole numbers are
numbers that binary64 has. -/
theorem Made.bounds_valid {a : Argument} (h : a.Made)
    (hfloats : ∀ x, Number.float x ∈ a.bounds → x.Valid) : ∀ n ∈ a.bounds, n.Valid := by
  intro n hn
  cases n with
  | int i => exact (h.parts.2 i hn).trans_le floatRange_le
  | float x => exact hfloats x hn

end Argument

end Switchboard
