import GraphBroker.Proofs.Subscription.Lookup
import Mathlib.Data.List.Perm.Basic
import Mathlib.Data.List.Nodup

/-!
# How many subscriptions a gate has

The table counts the subscriptions of a gate by the index of their names. In a well-formed table
this is the number of entries that belong to the gate, and each operation changes it as it should.

## Main definitions

* `SubscriptionTable.ofGate`: the entries that belong to a gate.
* `SubscriptionTable.Fewer`: subscriptions may have ended, and none has been made.

## Main statements

* `countFor_eq_length_ofGate`: the index counts the entries.
* `countFor_insert`, `countFor_remove`: one more, one less.
* `countFor_removeGate`, `countFor_empty`: none.
* `Fewer.remove` and its like: the operations that make no subscription.
-/

namespace GraphBroker.SubscriptionTable

open Std

variable {t t' : SubscriptionTable} {sub : Subscription} {id : SubscriptionId}
  {gate owner : GateId}

/-- The entries of `t` that belong to `gate`. -/
def ofGate (t : SubscriptionTable) (gate : GateId) : List Subscription :=
  t.snapshot.filter (·.gate = gate)

theorem nodup_owned : (t.owned gate).toList.Nodup :=
  ExtTreeSet.distinct_toList.imp fun differ => mt LawfulEqCmp.compare_eq_iff_eq.2 differ

/-- The names of the entries of `gate` are those in the index. -/
theorem WellFormed.map_id_ofGate (wf : t.WellFormed) :
    ((t.ofGate gate).map (·.id)).Perm (t.owned gate).toList := by
  have entries : ((t.ofGate gate).map (·.id)).Nodup :=
    wf.nodup_ids.sublist (List.filter_sublist.map _)
  refine (List.perm_ext_iff_of_nodup entries nodup_owned).2 fun id => ?_
  rw [ExtTreeSet.mem_toList, wf.mem_owned, List.mem_map]
  constructor
  · rintro ⟨sub, listed, rfl⟩
    obtain ⟨listed, owns⟩ := List.mem_filter.1 listed
    exact ⟨sub, wf.mem_snapshot.1 listed, of_decide_eq_true owns⟩
  · rintro ⟨sub, stands, owns⟩
    have listed : sub ∈ t.snapshot := SubscriptionTable.mem_snapshot.2 ⟨id, stands⟩
    exact ⟨sub, List.mem_filter.2 ⟨listed, decide_eq_true owns⟩, wf.id_eq stands⟩

/-- The index counts the entries of `gate`. -/
theorem WellFormed.countFor_eq (wf : t.WellFormed) :
    t.countFor gate = (t.ofGate gate).length := by
  rw [countFor, ← ExtTreeSet.length_toList, ← wf.map_id_ofGate.length_eq, List.length_map]

/-! ### One more, one less -/

theorem owned_insert : (t.insert sub).owned gate =
    if sub.gate = gate then (t.owned gate).insert sub.id else t.owned gate := by
  refine ExtTreeSet.ext_mem fun id => ?_
  rw [mem_owned_insert]
  split <;> simp [*, ExtTreeSet.mem_insert, LawfulEqCmp.compare_eq_iff_eq]

theorem owned_remove (stands : t.get? id = some sub) : (t.remove id).2.owned gate =
    if sub.gate = gate then (t.owned gate).erase id else t.owned gate := by
  refine ExtTreeSet.ext_mem fun other => ?_
  rw [mem_owned_remove stands]
  split <;> simp [*, ExtTreeSet.mem_erase, LawfulEqCmp.compare_eq_iff_eq, and_comm]

/-- The subscription `sub`, under a new name, is one more of its gate. -/
theorem WellFormed.countFor_insert (wf : t.WellFormed) (fresh : t.get? sub.id = none) :
    (t.insert sub).countFor gate = t.countFor gate + if sub.gate = gate then 1 else 0 := by
  have new : ¬(t.owned gate).contains sub.id := by
    rw [← ExtTreeSet.mem_iff_contains, wf.mem_owned, fresh]
    exact nofun
  rw [countFor, owned_insert]
  split
  · rw [ExtTreeSet.size_insert, if_neg new]
    rfl
  · rfl

/-- The subscription `sub`, when it is removed, is one less of its gate. -/
theorem WellFormed.countFor_remove (wf : t.WellFormed) (stands : t.get? id = some sub) :
    (t.remove id).2.countFor sub.gate + 1 = t.countFor sub.gate := by
  -- The index has the name, so that it has one less without it.
  have listed : id ∈ t.owned sub.gate := wf.mem_owned.2 ⟨sub, stands, rfl⟩
  have positive : 0 < (t.owned sub.gate).size := by
    rw [← ExtTreeSet.length_toList]
    exact List.length_pos_of_mem (ExtTreeSet.mem_toList.2 listed)
  rw [countFor, owned_remove stands, if_pos rfl, ExtTreeSet.size_erase,
    if_pos (ExtTreeSet.mem_iff_contains.1 listed), countFor]
  omega

theorem WellFormed.countFor_eq_zero (wf : t.WellFormed)
    (none : ∀ {id sub}, t.get? id = some sub → sub.gate ≠ gate) : t.countFor gate = 0 := by
  rw [wf.countFor_eq, List.length_eq_zero_iff, ofGate, List.filter_eq_nil_iff]
  intro sub listed
  simpa using none (wf.mem_snapshot.1 listed)

/-- No subscription is left when all are removed one after another. -/
theorem WellFormed.get?_removeAll (wf : t.WellFormed) :
    (t.snapshot.foldl (fun table entry => (table.remove entry.id).2) t).get? id = none := by
  rw [get?_foldl_remove]
  split
  · rfl
  · rename_i unlisted
    refine Option.eq_none_iff_forall_ne_some.2 fun sub stands => unlisted ?_
    exact List.mem_map.2 ⟨sub, SubscriptionTable.mem_snapshot.2 ⟨id, stands⟩, wf.id_eq stands⟩

theorem countFor_removeGate : (t.removeGate gate).2.countFor gate = 0 := by
  have none : (t.removeGate gate).2.owned gate = ∅ := ExtTreeSet.ext_mem fun id => by
    simp [mem_owned_removeGate]
  rw [countFor, none, ExtTreeSet.size_empty]

/-! ### Fewer subscriptions -/

/-- From `t` to `t'` subscriptions may have ended or changed, and none has been made. -/
structure Fewer (t t' : SubscriptionTable) : Prop where
  /-- The table `t'` is well formed. -/
  wellFormed : t'.WellFormed
  /-- The names of each gate in `t'` were its names in `t`. -/
  owned : ∀ {gate id}, id ∈ t'.owned gate → id ∈ t.owned gate

namespace Fewer

theorem refl (wf : t.WellFormed) : t.Fewer t := ⟨wf, id⟩

theorem trans {t'' : SubscriptionTable} (first : t.Fewer t') (second : t'.Fewer t'') :
    t.Fewer t'' :=
  ⟨second.wellFormed, fun listed => first.owned (second.owned listed)⟩

theorem remove (wf : t.WellFormed) : t.Fewer (t.remove id).2 := by
  refine ⟨wf.remove, fun {gate other} listed => ?_⟩
  cases stands : t.get? id with
  | none => rwa [remove_of_get?_eq_none stands] at listed
  | some sub => exact ((mem_owned_remove stands).1 listed).1

theorem removeOwned (wf : t.WellFormed) : t.Fewer (t.removeOwned gate id).2 := by
  rw [removeOwned_eq]
  split
  · exact remove wf
  · exact refl wf

theorem removeGate (wf : t.WellFormed) : t.Fewer (t.removeGate gate).2 :=
  ⟨wf.removeGate, fun listed => (mem_owned_removeGate.1 listed).2⟩

theorem commit (wf : t.WellFormed) {results : ResultSet} {sequence : Nat} :
    t.Fewer (t.commit id results sequence).2 :=
  ⟨wf.commit, fun listed => by rwa [owned_commit] at listed⟩

theorem foldl_remove (wf : t.WellFormed) (subs : List Subscription) :
    t.Fewer (subs.foldl (fun table entry => (table.remove entry.id).2) t) := by
  induction subs generalizing t with
  | nil => exact refl wf
  | cons first rest ih => exact (remove wf).trans (ih wf.remove)

/-- The `gate` has no more subscriptions than before. -/
theorem countFor_le (fewer : t.Fewer t') (gate : GateId) : t'.countFor gate ≤ t.countFor gate := by
  rw [countFor, countFor, ← ExtTreeSet.length_toList, ← ExtTreeSet.length_toList]
  refine (List.subperm_of_subset nodup_owned fun id listed => ?_).length_le
  exact ExtTreeSet.mem_toList.2 (fewer.owned (ExtTreeSet.mem_toList.1 listed))

end Fewer

end GraphBroker.SubscriptionTable
