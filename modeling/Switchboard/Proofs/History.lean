import Mathlib.Data.List.Sort
import Switchboard.Proofs.Effects
import Switchboard.Proofs.Listing

/-!
# Proofs — History

What a registry lists after any operations, told from the operations and their results alone.  A
registry lists the commands that it created and that were neither removed nor destroyed, whatever
else was tried on them, and everything that is looked up in it is looked up among them.

* `applyAll`, `history`: operations in a row, and the deals that they come to.
* `live`: the commands that a history created and did not drop.
* `Moves`, `apply_moves`: what one operation does to the list.
* `lists_applyAll`: what operations in a row do to it.
* `listing_of_history`: the list, the lookups, and the warning about a name that is taken.
-/

namespace Switchboard

/-- The commands that a history created, in order, with their names. -/
def created (history : List Deal) : List (CommandId × String) :=
  history.filterMap Deal.created?

/-- The commands that a history removed or destroyed. -/
def dropped (history : List Deal) : List CommandId :=
  history.filterMap Deal.dropped?

/-- The commands that a history created and neither removed nor destroyed, in the order in which it
created them. -/
def live (history : List Deal) : List (CommandId × String) :=
  (created history).filter fun entry => entry.1 ∉ dropped history

namespace Registry

/-- The registry after operations in a row. -/
def applyAll (r : Registry) : List Operation → Registry
  | [] => r
  | op :: ops => (r.apply op).registry.applyAll ops

/-- Operations in a row, with what comes of each. -/
def history (r : Registry) : List Operation → List Deal
  | [] => []
  | op :: ops => r.deal op :: (r.apply op).registry.history ops

/-! ### The list after one operation -/

/-- The registry lists a command of this number and name. -/
def Lists (r : Registry) (id : CommandId) (name : String) : Prop :=
  ∃ c, r.command? id = some c ∧ c.isListed = true ∧ c.name = name

/-- What becomes of the list, from one registry to the next: which command it gains, and which one
is not on it any more. -/
inductive Moves (r r' : Registry) : Option (CommandId × String) → Option CommandId → Prop where
  | stays (hlength : r.commands.length ≤ r'.commands.length)
      (h : ∀ j n, r'.Lists j n ↔ r.Lists j n) : Moves r r' none none
  | gains (name : String) (hlength : r'.commands.length = r.commands.length + 1)
      (h : ∀ j n, r'.Lists j n ↔ r.Lists j n ∨ (j, n) = (r.commands.length, name)) :
      Moves r r' (some (r.commands.length, name)) none
  | loses {id : CommandId} (hknown : id < r.commands.length)
      (hlength : r'.commands.length = r.commands.length)
      (h : ∀ j n, r'.Lists j n ↔ r.Lists j n ∧ j ≠ id) : Moves r r' none (some id)

section

variable {r r' : Registry} {id : CommandId}

theorem Lists.lt {name : String} (h : r.Lists id name) : id < r.commands.length := by
  obtain ⟨c, hc, -⟩ := h
  exact lt_of_command? hc

/-- A new command is listed if it is made so. -/
theorem lists_of_append {c : Command} (h : r'.commands = r.commands ++ [c]) (j : CommandId)
    (name : String) :
    r'.Lists j name ↔
      r.Lists j name ∨ c.isListed = true ∧ (j, name) = (r.commands.length, c.name) := by
  rw [Lists, command?_of_append h]
  by_cases hj : j = r.commands.length
  · have hnone : ¬ r.Lists j name := fun hlists => Nat.ne_of_lt hlists.lt hj
    simp only [hj, if_true, Option.some.injEq, exists_eq_left', or_iff_right (hj ▸ hnone),
      Prod.mk.injEq, true_and]
    exact and_congr_right fun _ => eq_comm
  · simp [hj, Lists]

/-- A command that is replaced by one of its name, on the list or off it as it was, is listed as it
was. -/
theorem lists_of_set_kept {c c' : Command} (hc : r.command? id = some c)
    (h : r'.commands = r.commands.set id c') (hname : c'.name = c.name)
    (hlisted : c'.isListed = c.isListed) (j : CommandId) (name : String) :
    r'.Lists j name ↔ r.Lists j name := by
  rw [Lists, Lists, command?_of_set hc h]
  by_cases hj : id = j
  · simp [← hj, hc, hname, hlisted]
  · simp [hj]

/-- A command that is replaced by one off the list is not on it any more. -/
theorem lists_of_set_delisted {c c' : Command} (hc : r.command? id = some c)
    (h : r'.commands = r.commands.set id c') (hlisted : c'.isListed = false) (j : CommandId)
    (name : String) : r'.Lists j name ↔ r.Lists j name ∧ j ≠ id := by
  rw [Lists, Lists, command?_of_set hc h]
  by_cases hj : id = j
  · simp [hj, hlisted]
  · simp [hj, Ne.symm hj]

end

/-- **What an operation does to the list**: a command that is created is on it from then on, one
that is removed or destroyed is not on it any more, and nothing else happens to it. -/
theorem apply_moves (r : Registry) (op : Operation) :
    Moves r (r.apply op).registry (r.deal op).created? (r.deal op).dropped? := by
  have heffect := r.apply_effect op
  generalize (r.apply op).registry = r', r.deal op = d at heffect
  cases heffect with
  | idle hcreated hdropped h =>
      rw [hcreated, hdropped]
      refine .stays (Nat.le_of_eq (congrArg _ h.symm)) fun j n => ?_
      simp only [Lists, command?, h]
  | create _ h =>
      refine .gains _ (by rw [h, List.length_append]; rfl) fun j n => ?_
      simpa [Command.isListed] using lists_of_append h j n
  | make _ h =>
      refine .stays (by rw [h, List.length_append]; exact Nat.le_add_right _ _) fun j n => ?_
      simpa [Command.isListed] using lists_of_append h j n
  | remove hc h =>
      refine .loses (lt_of_command? hc) (by rw [h, List.length_set])
        (lists_of_set_delisted hc h ?_)
      split
      case isTrue => rfl
      case isFalse hoff => simpa using hoff
  | destroy hc _ h =>
      exact .loses (lt_of_command? hc) (by rw [h, List.length_set])
        (lists_of_set_delisted hc h rfl)
  | declare hcreated hdropped hc hdeclare h =>
      rw [hcreated, hdropped]
      refine .stays (by rw [h, List.length_set]) (lists_of_set_kept hc h ?_ ?_)
      · exact Command.declare_name hdeclare
      · rw [Command.isListed, Command.isListed, (Command.declare_names hdeclare).1]

section

variable {r r' : Registry} {made : Option (CommandId × String)} {gone : Option CommandId}

theorem Moves.length_le (h : Moves r r' made gone) : r.commands.length ≤ r'.commands.length := by
  cases h with
  | stays hlength => exact hlength
  | gains _ hlength => omega
  | loses _ hlength => exact Nat.le_of_eq hlength.symm

/-- What the list gains is new. -/
theorem Moves.gained {entry : CommandId × String} (h : Moves r r' (some entry) gone) :
    r.commands.length ≤ entry.1 ∧ entry.1 < r'.commands.length := by
  cases h with
  | gains _ hlength => exact ⟨Nat.le_refl _, hlength ▸ Nat.lt_succ_self _⟩

/-- What the list loses is known. -/
theorem Moves.lost {id : CommandId} (h : Moves r r' made (some id)) : id < r.commands.length := by
  cases h with
  | loses hknown => exact hknown

theorem Moves.lists (h : Moves r r' made gone) (id : CommandId) (name : String) :
    r'.Lists id name ↔ (r.Lists id name ∨ made = some (id, name)) ∧ gone ≠ some id := by
  cases h with
  | stays _ hlists => simp [hlists]
  | gains _ _ hlists => simp [hlists, eq_comm]
  | loses _ _ hlists => simp [hlists, eq_comm]

end

/-! ### The list after operations in a row -/

section

variable {r : Registry} {op : Operation} {ops : List Operation} {id : CommandId}

theorem mem_created_cons {entry : CommandId × String} :
    entry ∈ created (r.history (op :: ops)) ↔
      (r.deal op).created? = some entry ∨ entry ∈ created ((r.apply op).registry.history ops) := by
  simp only [created, history, List.mem_filterMap, List.exists_mem_cons_iff]

theorem mem_dropped_cons :
    id ∈ dropped (r.history (op :: ops)) ↔
      (r.deal op).dropped? = some id ∨ id ∈ dropped ((r.apply op).registry.history ops) := by
  simp only [dropped, history, List.mem_filterMap, List.exists_mem_cons_iff]

/-- What a history creates is new to the registry that it starts from. -/
theorem length_le_of_created {entry : CommandId × String} (h : entry ∈ created (r.history ops)) :
    r.commands.length ≤ entry.1 := by
  induction ops generalizing r with
  | nil => cases h
  | cons op ops ih =>
      have hmoves := r.apply_moves op
      rcases mem_created_cons.mp h with hmade | hmore
      · rw [hmade] at hmoves
        exact hmoves.gained.1
      · exact hmoves.length_le.trans (ih hmore)

end

/-- A history creates commands in the order of their numbers. -/
theorem created_ascends (r : Registry) (ops : List Operation) :
    (created (r.history ops)).Pairwise fun entry entry' => entry.1 < entry'.1 := by
  induction ops generalizing r with
  | nil => exact .nil
  | cons op ops ih =>
      have hmoves := r.apply_moves op
      rw [history, created, List.filterMap_cons]
      cases hmade : (r.deal op).created? with
      | none => exact ih _
      | some entry =>
          rw [hmade] at hmoves
          refine .cons (fun entry' hentry' => ?_) (ih _)
          exact Nat.lt_of_lt_of_le hmoves.gained.2 (length_le_of_created hentry')

/-- **What operations in a row do to the list**: it loses what they drop, and gains what they create
and do not drop. -/
theorem lists_applyAll (r : Registry) (ops : List Operation) (id : CommandId) (name : String) :
    (r.applyAll ops).Lists id name ↔
      (r.Lists id name ∨ (id, name) ∈ created (r.history ops)) ∧ id ∉ dropped (r.history ops) := by
  induction ops generalizing r with
  | nil => simp [applyAll, history, created, dropped]
  | cons op ops ih =>
      have hmoves := r.apply_moves op
      -- What is created later is none of what this operation drops.
      have hnew : (id, name) ∈ created ((r.apply op).registry.history ops) →
          (r.deal op).dropped? ≠ some id := by
        intro hcreated hgone
        have hknown := (hgone ▸ hmoves).lost
        have hfresh := length_le_of_created hcreated
        exact Nat.lt_irrefl _ (hknown.trans_le (hmoves.length_le.trans hfresh))
      rw [applyAll, ih, hmoves.lists, mem_created_cons, mem_dropped_cons]
      tauto

/-! ### The list of a history -/

theorem lists_of_history (ops : List Operation) (id : CommandId) (name : String) :
    (applyAll {} ops).Lists id name ↔ (id, name) ∈ live (history {} ops) := by
  have hempty : ¬ Lists {} id name := fun h => Nat.not_lt_zero _ h.lt
  simp [lists_applyAll, hempty, live]

theorem live_ascends (r : Registry) (ops : List Operation) :
    ((live (r.history ops)).map (·.1)).Pairwise (· < ·) :=
  List.pairwise_map.mpr ((r.created_ascends ops).filter _)

/-- A registry lists what is live in its history. -/
theorem order_of_history (ops : List Operation) :
    (applyAll {} ops).order = (live (history {} ops)).map (·.1) := by
  refine (listedWhere_ascends _ _).eq_of_mem_iff (live_ascends _ _) fun id => ?_
  rw [mem_listedWhere]
  constructor
  · rintro ⟨c, hc, hlisted, -⟩
    have hlists : (applyAll {} ops).Lists id c.name := ⟨c, hc, hlisted, rfl⟩
    exact List.mem_map.mpr ⟨_, (lists_of_history ops id c.name).mp hlists, rfl⟩
  · intro hlive
    obtain ⟨entry, hentry, rfl⟩ := List.mem_map.mp hlive
    obtain ⟨c, hc, hlisted, -⟩ := (lists_of_history ops entry.1 entry.2).mpr hentry
    exact ⟨c, hc, hlisted, rfl⟩

/-- What is listed by a test is what is live and passes it. -/
theorem listedWhere_of_history (ops : List Operation) (p : Command → Bool) :
    (applyAll {} ops).listedWhere p =
      ((live (history {} ops)).filter fun entry =>
        ((applyAll {} ops).command? entry.1).any p).map (·.1) := by
  rw [listedWhere_eq_filter, order_of_history, List.filter_map]
  rfl

theorem get?_of_history (ops : List Operation) (name : String) :
    (applyAll {} ops).get? name =
      ((live (history {} ops)).find? fun entry => entry.2 == name).map (·.1) := by
  rw [get?, listedWhere_of_history, List.head?_map, ← List.head?_filter]
  refine congrArg (fun entries => Option.map _ (List.head? entries)) ?_
  refine List.filter_congr fun entry hentry => ?_
  obtain ⟨c, hc, -, hname⟩ := (lists_of_history ops entry.1 entry.2).mpr hentry
  simp [hc, hname]

/-- A creation warns that the name is taken if the name is accepted and can be got. -/
theorem duplicate_mem_create (r : Registry) (name : String) (override : Value) :
    { event := .duplicate name } ∈ (r.create (.text name) override).logs ↔
      Accepts name override ∧ (r.get? name).isSome = true := by
  by_cases haccepts : Accepts name override
  · rw [create_of_accepts r haccepts]
    cases (r.get? name).isSome <;> simp [haccepts]
  · rw [create_of_not_accepts r haccepts]
    simp [refuse, haccepts]

theorem isSome_get?_of_history (ops : List Operation) (name : String) :
    ((applyAll {} ops).get? name).isSome = true ↔ ∃ id, (id, name) ∈ live (history {} ops) := by
  rw [get?_of_history, Option.isSome_map, List.find?_isSome]
  constructor
  · rintro ⟨⟨id, other⟩, hentry, hname⟩
    exact ⟨id, eq_of_beq hname ▸ hentry⟩
  · rintro ⟨id, hentry⟩
    exact ⟨_, hentry, beq_self_eq_true name⟩

/-- **What a registry lists, told from its history.**  After any operations on an empty registry,
accepted or refused, it lists exactly the commands that it created and that were neither removed nor
destroyed, each once and in the order of creation.  Each of them is known by the name it was created
with, is not destroyed, and belongs to the registry.  Looking up a name finds the first of them that
has it; looking up a token finds those that are enabled and have it as name or alias, in order.
Creating one more command succeeds exactly if its name is accepted, and warns that the name is taken
exactly if it is accepted and one of them has it already. -/
theorem listing_of_history (ops : List Operation) :
    let r := applyAll {} ops
    let live := live (history {} ops)
    r.order = live.map (·.1) ∧ (live.map (·.1)).Pairwise (· < ·) ∧
      (∀ id name, (id, name) ∈ live → ∃ c, r.command? id = some c ∧ c.name = name ∧
        c.isDestroyed = false ∧ c.isAttached = true) ∧
      (∀ name, r.get? name = (live.find? fun entry => entry.2 == name).map (·.1)) ∧
      (∀ token, r.find token = (live.filter fun entry =>
        (r.command? entry.1).any fun c => c.answersTo token && c.enabled).map (·.1)) ∧
      ∀ name override,
        ((r.create (.text name) override).result = .ok (some r.commands.length) ↔
          Accepts name override) ∧
        ({ event := .duplicate name } ∈ (r.create (.text name) override).logs ↔
          Accepts name override ∧ ∃ id, (id, name) ∈ live) := by
  intro r live
  refine ⟨order_of_history ops, live_ascends {} ops, fun id name hentry => ?_,
    get?_of_history ops, fun token => listedWhere_of_history ops _, fun name override => ?_⟩
  · obtain ⟨c, hc, hlisted, hname⟩ := (lists_of_history ops id name).mpr hentry
    have hstanding : c.standing = .listed := eq_of_beq hlisted
    exact ⟨c, hc, hname, by rw [Command.isDestroyed, hstanding]; rfl,
      by rw [Command.isAttached, hstanding]; rfl⟩
  · rw [r.duplicate_mem_create, isSome_get?_of_history]
    exact ⟨r.create_eq_ok name override, Iff.rfl⟩

/-- A command that was removed can still be destroyed, and its name be taken again. -/
example :
    let ops := [.create (.text "ale") .unset, .create (.text "bob") .unset, .remove 0, .destroy 0,
      .destroy 0, .create (.text "ale") .unset]
    live (history {} ops) = [(1, "bob"), (2, "ale")] ∧ (applyAll {} ops).get? "ale" = some 2 := by
  decide

/-- A name of one letter that is taken is refused without the override, and then there is no warning
that it is taken. -/
theorem not_duplicate_of_refused_rehearsed :
    let ops := [Operation.create (.text "x") (.text oneCharOverride)]
    ¬ ({ event := .duplicate "x" } ∈ ((applyAll {} ops).create (.text "x") .unset).logs ↔
      ∃ id, (id, "x") ∈ live (history {} ops)) := by
  intro ops hwarns
  have hlive : (0, "x") ∈ live (history {} ops) := by decide
  have hlogs : ((applyAll {} ops).create (.text "x") .unset).logs = [] := rfl
  rw [hlogs] at hwarns
  cases hwarns.mpr ⟨0, hlive⟩

end Registry

end Switchboard
