import Switchboard.Proofs.Grouping

/-!
# Proofs — Flattening

A group inside a group of the same kind, and the group that has the members of both in a row.
Groups that join by *and* come to the same since a rest is trimmed after each member, and trimming
twice is trimming once.  Groups that join by *or* come to the same since a group of alternatives
rejects exactly if all of them do, and leaves the text to the next one as it was.

* `leaveAll_nested`: an inner group of members in a row leaves what its members leave.
* `Reading.Level`, `validate_nested_and`: the nested group of members in a row and the flat one.
* `SameChoice`, `validate_nested_or`: the nested group of alternatives and the flat one.
* `validate_nested`: the nested group comes to the same as the flat one.
-/

namespace Switchboard

/-! ### Members in a row -/

namespace Argument

/-- **An inner group of members in a row leaves what its members leave.** -/
theorem leaveAll_nested {inside : List Argument} (hne : inside ≠ []) (label : Label)
    (front back : List Argument) (cs : List Char) :
    leaveAll (front ++ .group label .and inside :: back) cs =
      leaveAll (front ++ inside ++ back) cs := by
  calc leaveAll (front ++ .group label .and inside :: back) cs
      = leaveAll front cs >>= fun left =>
          leave left (.group label .and inside) >>= leaveAll back := by
        rw [leaveAll_append]
        simp only [funext (leaveAll_cons (.group label .and inside) back)]
    _ = leaveAll front cs >>= leaveAll inside >>= leaveAll back := by
        rw [bind_assoc]
        simp only [leave_group label hne]
    _ = leaveAll (front ++ inside ++ back) cs := by
        rw [leaveAll_append, leaveAll_append]

end Argument

/-! ### Nested groups -/

/-- Two readings that leave the same, or are rejected by the same argument for the same reason. -/
inductive Reading.Level : Reading.Result → Reading.Result → Prop where
  | accepted (value value' : Value) (left : List Char) :
      Level (.ok (value, left)) (.ok (value', left))
  | rejected (r : Rejection) : Level (.error (.rejected r)) (.error (.rejected r))

namespace Argument

section

variable (front inside back : List Argument) (inner : Label) (cs : List Char)

/-- **A nested group of alternatives beside the flat one.**  They choose the same of the
alternatives and leave the same, or they reject, each for itself, because all alternatives do. -/
inductive SameChoice (nested whole : Argument) : Prop where
  /-- If the choice is among those inside, its value stands under the name of the inner group. -/
  | chosen {before : List Argument} {a : Argument} {value : Value} {rest : List Char}
      (h : Chosen (front ++ inside ++ back) cs before a value rest)
      (hwhole : whole.validate cs = .ok (Record.toValue [(a.name, value)], Text.trim rest))
      (hnested : nested.validate cs = .ok
        (Record.toValue [
          if front.length ≤ before.length ∧ before.length < front.length + inside.length then
            (inner.name, Record.toValue [(a.name, value)])
          else (a.name, value)], Text.trim rest)) : SameChoice nested whole
  | rejected (h : ∀ a ∈ front ++ inside ++ back, a.Rejects cs)
      (hwhole : whole.validate cs = .error (.rejected ⟨whole, .noAlternative⟩))
      (hnested : nested.validate cs = .error (.rejected ⟨nested, .noAlternative⟩)) :
      SameChoice nested whole

end

section

variable {front inside back : List Argument} (hfront : ∀ a ∈ front, a.Concrete)
  (hinside : ∀ a ∈ inside, a.Concrete) (hback : ∀ a ∈ back, a.Concrete) (hne : inside ≠ [])

include hfront hinside hback hne

/-- Groups of members in a row: the nested one reads what the flat one reads. -/
theorem validate_nested_and (outer inner flat : Label) (cs : List Char) :
    Reading.Level
      ((Argument.group outer .and (front ++ .group inner .and inside :: back)).validate cs)
      ((Argument.group flat .and (front ++ inside ++ back)).validate cs) := by
  have hsame :
      ((Argument.group outer .and (front ++ .group inner .and inside :: back)).validate cs).map
          Prod.snd =
        ((Argument.group flat .and (front ++ inside ++ back)).validate cs).map Prod.snd := by
    rw [map_validate_and outer (by simp), map_validate_and flat (by simp [hne]),
      leaveAll_nested hne]
  have hwhole : (Argument.group flat .and (front ++ inside ++ back)).Concrete :=
    .group flat .and (List.forall_mem_append.mpr
      ⟨List.forall_mem_append.mpr ⟨hfront, hinside⟩, hback⟩)
  have husable := hwhole.usable cs
  revert hsame husable
  generalize
    (Argument.group outer .and (front ++ .group inner .and inside :: back)).validate cs = x,
    (Argument.group flat .and (front ++ inside ++ back)).validate cs = y
  intro hsame husable
  cases y with
  | ok read =>
      cases x with
      | error e => cases hsame
      | ok read' =>
          obtain ⟨value', left⟩ := read'
          cases hsame
          exact .accepted value' read.1 read.2
  | error e =>
      cases x with
      | ok read' => cases hsame
      | error e' =>
          cases hsame
          cases e with
          | unusable obstacle => exact absurd rfl (husable obstacle)
          | rejected r => exact .rejected r

/-- Groups of alternatives: the nested one chooses what the flat one chooses. -/
theorem validate_nested_or (outer inner flat : Label) (cs : List Char) :
    SameChoice front inside back inner cs
      (.group outer .or (front ++ .group inner .or inside :: back))
      (.group flat .or (front ++ inside ++ back)) := by
  rcases chosen_or_rejects hfront cs with ⟨before, a, value, rest, hchosen⟩ | hfrontRejects
  · have hlength := hchosen.length_lt
    have hwhole := (hchosen.append inside).append back
    refine .chosen hwhole (hwhole.validate_or flat) ?_
    rw [if_neg (by omega)]
    exact (hchosen.append (.group inner .or inside :: back)).validate_or outer
  rcases chosen_or_rejects hinside cs with ⟨before, a, value, rest, hchosen⟩ | hinsideRejects
  · have hlength := hchosen.length_lt
    have hwhole := (hchosen.prepend hfrontRejects).append back
    -- The inner group is the one that the outer group chooses, with a rest that is trimmed already.
    have hinner := hchosen.validate_or inner
    have hnested := ((Chosen.head hinner back).prepend hfrontRejects).validate_or outer
    rw [Text.trim_trim] at hnested
    refine .chosen hwhole (hwhole.validate_or flat) ?_
    rw [List.length_append, if_pos (by omega)]
    exact hnested
  have hinner : (Argument.group inner .or inside).Rejects cs :=
    ⟨_, validate_or_of_rejects hne hinsideRejects inner⟩
  have hbefore : ∀ b ∈ front ++ inside, b.Rejects cs :=
    List.forall_mem_append.mpr ⟨hfrontRejects, hinsideRejects⟩
  rcases chosen_or_rejects hback cs with ⟨before, a, value, rest, hchosen⟩ | hbackRejects
  · have hwhole := hchosen.prepend hbefore
    have hlater : Chosen (.group inner .or inside :: back) cs
        (.group inner .or inside :: before) a value rest :=
      hchosen.prepend (List.forall_mem_singleton.mpr hinner)
    refine .chosen hwhole (hwhole.validate_or flat) ?_
    rw [List.length_append, List.length_append, if_neg (by omega)]
    exact (hlater.prepend hfrontRejects).validate_or outer
  · have hwhole : ∀ b ∈ front ++ inside ++ back, b.Rejects cs :=
      List.forall_mem_append.mpr ⟨hbefore, hbackRejects⟩
    have hnested : ∀ b ∈ front ++ .group inner .or inside :: back, b.Rejects cs :=
      List.forall_mem_append.mpr
        ⟨hfrontRejects, List.forall_mem_cons.mpr ⟨hinner, hbackRejects⟩⟩
    exact .rejected hwhole (validate_or_of_rejects (by simp [hne]) hwhole flat)
      (validate_or_of_rejects (by simp) hnested outer)

end

/-- **A group inside a group of the same kind comes to the same as its members in its place**, as
long as it has any.  If the groups join by *and*, both leave the same, or are rejected by the same
argument for the same reason.  If they join by *or*, both choose the same of the alternatives and
leave the same, or reject because all alternatives do. -/
theorem validate_nested {front inside back : List Argument} (hfront : ∀ a ∈ front, a.Concrete)
    (hinside : ∀ a ∈ inside, a.Concrete) (hback : ∀ a ∈ back, a.Concrete) (hne : inside ≠ [])
    (outer inner flat : Label) (cs : List Char) :
    Reading.Level
        ((Argument.group outer .and (front ++ .group inner .and inside :: back)).validate cs)
        ((Argument.group flat .and (front ++ inside ++ back)).validate cs) ∧
      SameChoice front inside back inner cs
        (.group outer .or (front ++ .group inner .or inside :: back))
        (.group flat .or (front ++ inside ++ back)) :=
  ⟨validate_nested_and hfront hinside hback hne outer inner flat cs,
    validate_nested_or hfront hinside hback hne outer inner flat cs⟩

/-- A number, two arguments inside, and the rest: in a row they read a line with spaces to spare,
and as alternatives they choose the second one inside, a word. -/
theorem validate_nested_rehearsed :
    let count : Argument := .number { name := "count" } {}
    let many : Argument := .number { name := "many" } { minimum := some (.int 10) }
    let word : Argument := .string { name := "word" } { maximum := some 3 }
    let rest : Argument := .rest { name := "rest" } {}
    let row : Argument := .group {} .and [count, .group { name := "pair" } .and [many, word], rest]
    let whole : Argument := .group {} .or [count, many, word, rest]
    let nested : Argument :=
      .group {} .or [count, .group { name := "either" } .or [many, word], rest]
    (∀ a ∈ [count, many, word, rest], a.Concrete) ∧
      (∃ value, row.validate "5  12 bob  x y".toList = .ok (value, [])) ∧
      whole.validate "bob  is here".toList =
        .ok (Record.toValue [("word", .text "bob")], "is here".toList) ∧
      nested.validate "bob  is here".toList =
        .ok (Record.toValue [("either", Record.toValue [("word", .text "bob")])],
          "is here".toList) := by
  intro count many word rest row whole nested
  have hcount : count.Concrete := .number _ _
  have hmany : many.Concrete := .number _ _
  have hword : word.Concrete := .string _ rfl
  have hrest : rest.Concrete := .rest _ rfl
  have hfront : ∀ a ∈ [count], a.Concrete := by simpa using hcount
  have hinside : ∀ a ∈ [many, word], a.Concrete := by simp [hmany, hword]
  have hback : ∀ a ∈ [rest], a.Concrete := by simpa using hrest
  have hne : [many, word] ≠ [] := List.cons_ne_nil _ _
  have hconcrete : ∀ a ∈ [count, many, word, rest], a.Concrete := by
    simp [hcount, hmany, hword, hrest]
  obtain ⟨hrow, -⟩ := validate_nested hfront hinside hback hne {} { name := "pair" } {}
    "5  12 bob  x y".toList
  obtain ⟨-, hchoice⟩ := validate_nested hfront hinside hback hne {} { name := "either" } {}
    "bob  is here".toList
  have hflat : (Argument.group {} .and [count, many, word, rest]).validate
      "5  12 bob  x y".toList =
      .ok (Record.toValue [("count", .int 5), ("many", .int 12), ("word", .text "bob"),
        ("rest", .text "x y")], []) := rfl
  have hchosen : Chosen [count, many, word, rest] "bob  is here".toList [count, many] word
      (.text "bob") " is here".toList :=
    ⟨⟨[rest], rfl⟩,
      List.forall_mem_cons.mpr ⟨⟨_, rfl⟩, List.forall_mem_singleton.mpr ⟨_, rfl⟩⟩, rfl⟩
  have hword' := hchosen.validate_or {}
  refine ⟨hconcrete, ?_, hword', ?_⟩
  · simp only [List.cons_append, List.nil_append, hflat] at hrow
    generalize hread : row.validate "5  12 bob  x y".toList = read at hrow
    cases hrow
    exact ⟨_, rfl⟩
  · cases hchoice with
    | rejected h =>
        obtain ⟨r, hr⟩ := h word (by simp)
        cases hr
    | @chosen before a value left h hwhole hnested =>
        obtain ⟨rfl, rfl, rfl, rfl⟩ := hchosen.unique h
        exact hnested

end Argument

end Switchboard
