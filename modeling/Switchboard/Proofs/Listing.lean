import Mathlib.Data.List.Basic
import Switchboard.Registry

/-!
# Proofs — Listing

What the registry lists.  A listing names commands by their numbers and keeps the order of making,
so every listing names a command once, and every listing of a registry is in the order of any other.

* `mem_listedWhere`: a listing has the listed commands that pass its test, and no others.
* `listedWhere_ascends`, `order_nodup`: the order of making, and no command twice.
* `listedWhere_sublist`, `listedWhere_eq_filter`: a listing is cut out of the list of all.
* `listedWhere_of_append`: where a command that is added comes up.
* `mem_find`: who comes up for a token.
-/

namespace Switchboard.Registry

theorem mem_listedWhere {r : Registry} {p : Command → Bool} {id : CommandId} :
    id ∈ r.listedWhere p ↔ ∃ c, r.command? id = some c ∧ c.isListed = true ∧ p c = true := by
  simp only [listedWhere, command?, List.mem_map, List.mem_filter, List.mem_zipIdx_iff_getElem?,
    Bool.and_eq_true]
  constructor
  · rintro ⟨⟨c, i⟩, ⟨hc, hlisted, hp⟩, rfl⟩
    exact ⟨c, hc, hlisted, hp⟩
  · rintro ⟨c, hc, hlisted, hp⟩
    exact ⟨(c, id), ⟨hc, hlisted, hp⟩, rfl⟩

/-- **A listing is in the order of making**: the numbers of all commands ascend, and a listing is
some of them. -/
theorem listedWhere_ascends (r : Registry) (p : Command → Bool) :
    (r.listedWhere p).Pairwise (· < ·) := by
  have hall : (r.commands.zipIdx.map (·.2)).Pairwise (· < ·) := by
    rw [List.zipIdx_map_snd]
    exact List.pairwise_lt_range' 1
  exact hall.sublist (List.filter_sublist.map _)

theorem listedWhere_nodup (r : Registry) (p : Command → Bool) : (r.listedWhere p).Nodup :=
  (r.listedWhere_ascends p).imp fun h => Nat.ne_of_lt h

/-- **A listing keeps the order of all that is listed.** -/
theorem listedWhere_sublist (r : Registry) (p : Command → Bool) :
    (r.listedWhere p).Sublist r.order := by
  refine List.Sublist.map _ (List.monotone_filter_right _ fun x hx => ?_)
  simp only [Bool.and_eq_true] at hx ⊢
  exact ⟨hx.1, trivial⟩

/-- A listing is all that is listed, less the commands that do not pass its test. -/
theorem listedWhere_eq_filter (r : Registry) (p : Command → Bool) :
    r.listedWhere p = r.order.filter fun id => (r.command? id).any p := by
  rw [order, listedWhere, listedWhere, List.filter_map, List.filter_filter]
  refine congrArg _ (List.filter_congr fun x hx => ?_)
  have hc : r.command? x.2 = some x.1 := List.mem_zipIdx_iff_getElem?.mp hx
  simp [hc, Bool.and_comm]

/-- A command that is added comes last in a listing, if it comes up at all. -/
theorem listedWhere_of_append {r r' : Registry} {c : Command}
    (h : r'.commands = r.commands ++ [c]) (p : Command → Bool) :
    r'.listedWhere p =
      r.listedWhere p ++ if c.isListed && p c then [r.commands.length] else [] := by
  rw [listedWhere, listedWhere, h, List.zipIdx_append, List.filter_append, List.map_append]
  congr 1
  cases hc : c.isListed && p c <;> simp [hc]

theorem order_nodup (r : Registry) : r.order.Nodup := r.listedWhere_nodup _

/-- **Who comes up for a token**: the commands that are listed, enabled, and answer to it. -/
theorem mem_find {r : Registry} {token : String} {id : CommandId} :
    id ∈ r.find token ↔ ∃ c, r.command? id = some c ∧ c.isListed = true ∧
      c.answersTo token = true ∧ c.enabled = true := by
  simp only [find, mem_listedWhere, Bool.and_eq_true]

theorem find_sublist (r : Registry) (token : String) : (r.find token).Sublist r.order :=
  r.listedWhere_sublist _

end Switchboard.Registry
