import GraphBroker.Subscription.Table

/-!
# What the table of subscriptions holds

Each operation on the table is described by two views of it: the subscription of a
name, and the names of a gate. A table is well formed when the two agree. Every
table that the operations build is, provided that a new subscription has a name
that is not in use.

## Main definitions

* `SubscriptionTable.WellFormed`: names and gates of the entries agree with the index.

## Main statements

* `get?_insert`, `get?_remove`, `get?_removeOwned`, `get?_removeGate`, `get?_commit`: the entries
  after each operation.
* `WellFormed.insert` and its like: each operation keeps a table well formed.
* `remove_insert`: removing what has just been entered gives the table back, index included.
-/

namespace GraphBroker.SubscriptionTable

open Std

variable {t : SubscriptionTable} {s : Subscription} {id other : SubscriptionId}
  {gate owner : GateId}

@[ext] theorem ext {t u : SubscriptionTable} (entries : ∀ id, t.get? id = u.get? id)
    (byGate : ∀ gate : GateId, t.byGate[gate]? = u.byGate[gate]?) : t = u := by
  cases t
  cases u
  rw [mk.injEq]
  exact ⟨ExtTreeMap.ext_getElem? entries, ExtTreeMap.ext_getElem? byGate⟩

@[simp] theorem get?_empty : (∅ : SubscriptionTable).get? id = none :=
  ExtTreeMap.getElem?_empty

@[simp] theorem owned_empty : (∅ : SubscriptionTable).owned gate = ∅ :=
  ExtTreeMap.getD_empty

theorem owned_eq : t.owned gate = (t.byGate[gate]?).getD ∅ :=
  ExtTreeMap.getD_eq_getD_getElem?

/-! ### Entries -/

theorem get?_insert : (t.insert s).get? id = if s.id = id then some s else t.get? id := by
  simp only [get?, insert, ExtTreeMap.getElem?_insert, LawfulEqCmp.compare_eq_iff_eq]

theorem remove_of_get?_eq_none (absent : t.get? id = none) : (t.remove id).2 = t := by
  simp only [remove, absent]

theorem get?_remove : (t.remove id).2.get? other = if id = other then none else t.get? other := by
  cases found : t.get? id with
  | none =>
    rw [remove_of_get?_eq_none found]
    split
    · rename_i same
      rw [← same, found]
    · rfl
  | some s =>
    simp only [remove, found]
    simp only [get?, ExtTreeMap.getElem?_erase, LawfulEqCmp.compare_eq_iff_eq]

theorem removeOwned_eq : (t.removeOwned gate id).2 =
    if (t.get? id).any (·.gate = gate) then (t.remove id).2 else t := by
  cases found : t.get? id with
  | none => simp [removeOwned, found]
  | some s => by_cases same : s.gate = gate <;> simp [removeOwned, found, same]

theorem get?_removeOwned : (t.removeOwned gate id).2.get? other =
    if id = other ∧ (t.get? id).any (·.gate = gate) then none else t.get? other := by
  rw [removeOwned_eq]
  by_cases owns : (t.get? id).any (·.gate = gate)
  · simp only [if_pos owns, get?_remove, and_iff_left owns]
  · simp only [owns, and_false, Bool.false_eq_true, if_false]

theorem get?_foldl_remove (subs : List Subscription) :
    (subs.foldl (fun table entry => (table.remove entry.id).2) t).get? id =
      if id ∈ subs.map (·.id) then none else t.get? id := by
  induction subs generalizing t with
  | nil => simp
  | cons first rest ih =>
    rw [List.foldl_cons, ih, get?_remove, List.map_cons]
    grind

private theorem getElem?_eraseAll (ids : List SubscriptionId)
    (entries : ExtTreeMap SubscriptionId Subscription) :
    (ids.foldl (fun entries id => entries.erase id) entries)[id]? =
      if id ∈ ids then none else entries[id]? := by
  induction ids generalizing entries with
  | nil => simp
  | cons first rest ih =>
    rw [List.foldl_cons, ih]
    simp only [ExtTreeMap.getElem?_erase, LawfulEqCmp.compare_eq_iff_eq, List.mem_cons]
    grind

theorem get?_removeGate : (t.removeGate gate).2.get? id =
    if id ∈ t.owned gate then none else t.get? id := by
  simp only [removeGate, get?, getElem?_eraseAll, ExtTreeSet.mem_toList]

theorem get?_commit {results : ResultSet} {sequence : Nat} :
    (t.commit id results sequence).2.get? other =
      if id = other then (t.get? id).map fun s => { s with last := results, sequence }
      else t.get? other := by
  cases found : t.get? id with
  | none =>
    simp only [commit, found]
    split
    · rename_i same
      rw [← same, found]; rfl
    · rfl
  | some s =>
    simp only [commit, found]
    simp only [get?, ExtTreeMap.getElem?_insert, LawfulEqCmp.compare_eq_iff_eq, Option.map_some]

theorem byGate_commit {results : ResultSet} {sequence : Nat} :
    (t.commit id results sequence).2.byGate = t.byGate := by
  cases found : t.get? id <;> simp [commit, found]

theorem mem_snapshot : s ∈ t.snapshot ↔ ∃ id, t.get? id = some s := by
  simp only [snapshot, List.mem_map, Prod.exists, ExtTreeMap.mem_toList_iff_getElem?_eq_some, get?]
  exact ⟨fun ⟨id, _, found, same⟩ => ⟨id, same ▸ found⟩, fun ⟨id, found⟩ => ⟨id, s, found, rfl⟩⟩

/-! ### Names of a gate -/

theorem getElem?_unindex : (t.unindex owner id)[gate]? =
    if owner = gate then
      if ((t.owned owner).erase id).isEmpty then none else some ((t.owned owner).erase id)
    else t.byGate[gate]? := by
  simp only [unindex]
  split <;> simp only [ExtTreeMap.getElem?_erase, ExtTreeMap.getElem?_insert,
    LawfulEqCmp.compare_eq_iff_eq]

theorem mem_owned_insert : id ∈ (t.insert s).owned gate ↔
    (s.gate = gate ∧ s.id = id) ∨ id ∈ t.owned gate := by
  simp only [owned, insert, ExtTreeMap.getD_insert, LawfulEqCmp.compare_eq_iff_eq]
  by_cases same : s.gate = gate
  · simp [same, ExtTreeSet.mem_insert, LawfulEqCmp.compare_eq_iff_eq]
  · simp [same]

theorem mem_owned_remove (found : t.get? id = some s) : other ∈ (t.remove id).2.owned gate ↔
    other ∈ t.owned gate ∧ ¬(s.gate = gate ∧ id = other) := by
  simp only [remove, found, owned_eq, getElem?_unindex]
  by_cases same : s.gate = gate
  · subst same
    rw [if_pos rfl, ← owned_eq]
    have kept : other ∈ (t.owned s.gate).erase id ↔ other ∈ t.owned s.gate ∧ ¬id = other := by
      rw [ExtTreeSet.mem_erase, Ne, LawfulEqCmp.compare_eq_iff_eq, and_comm]
    -- A gate that loses its last name is dropped from the index, which reads as no names.
    by_cases none : ((t.owned s.gate).erase id).isEmpty
    · rw [if_pos none, Option.getD_none, eq_self, true_and, ← kept, ExtTreeSet.isEmpty_iff.1 none]
    · rw [if_neg none, Option.getD_some, eq_self, true_and, kept]
  · rw [if_neg same]
    simp only [same, false_and, not_false_eq_true, and_true]

theorem mem_owned_removeGate : id ∈ (t.removeGate gate).2.owned owner ↔
    gate ≠ owner ∧ id ∈ t.owned owner := by
  simp only [removeGate, owned, ExtTreeMap.getD_erase, LawfulEqCmp.compare_eq_iff_eq]
  by_cases same : gate = owner <;> simp [same, ExtTreeSet.not_mem_empty]

theorem owned_commit {results : ResultSet} {sequence : Nat} :
    (t.commit id results sequence).2.owned gate = t.owned gate := by
  rw [owned, byGate_commit, owned]

/-! ### Well-formed tables -/

/-- Each entry stands under its own name, the names of a gate are those of its subscriptions,
and no gate is kept without names. -/
structure WellFormed (t : SubscriptionTable) : Prop where
  id_eq : ∀ {id s}, t.get? id = some s → s.id = id
  mem_owned : ∀ {gate id}, id ∈ t.owned gate ↔ ∃ s, t.get? id = some s ∧ s.gate = gate
  inhabited : ∀ gate : GateId, t.byGate[gate]? ≠ some ∅

namespace WellFormed

theorem empty : WellFormed ∅ where
  id_eq h := by simp at h
  mem_owned := by simp [ExtTreeSet.not_mem_empty]
  inhabited gate := by
    rw [show (∅ : SubscriptionTable).byGate[gate]? = none from ExtTreeMap.getElem?_empty]
    exact nofun

theorem mem_snapshot (wf : t.WellFormed) : s ∈ t.snapshot ↔ t.get? s.id = some s := by
  rw [SubscriptionTable.mem_snapshot]
  refine ⟨?_, fun found => ⟨s.id, found⟩⟩
  rintro ⟨id, found⟩
  rwa [wf.id_eq found]

theorem nodup_ids (wf : t.WellFormed) : (t.snapshot.map (·.id)).Nodup := by
  have keys : t.snapshot.map (·.id) = t.entries.toList.map Prod.fst := by
    rw [snapshot, List.map_map]
    refine List.map_congr_left fun entry listed => ?_
    exact wf.id_eq (ExtTreeMap.mem_toList_iff_getElem?_eq_some.1 listed)
  rw [keys, List.Nodup, List.pairwise_map]
  exact ExtTreeMap.distinct_keys_toList.imp fun differ => mt LawfulEqCmp.compare_eq_iff_eq.2 differ

theorem byGate_eq_none_iff (wf : t.WellFormed) : t.byGate[gate]? = none ↔ t.owned gate = ∅ := by
  rw [owned_eq]
  cases found : t.byGate[gate]? with
  | none => simp
  | some ids =>
    have := wf.inhabited gate
    rw [found] at this
    simp_all

theorem insert (wf : t.WellFormed) (fresh : t.get? s.id = none) : (t.insert s).WellFormed where
  id_eq {id r} h := by
    rw [get?_insert] at h
    split at h
    · cases h; assumption
    · exact wf.id_eq h
  mem_owned {gate id} := by
    rw [mem_owned_insert, get?_insert, wf.mem_owned]
    by_cases same : s.id = id
    · subst same
      simp [fresh]
    · simp [same]
  inhabited gate := by
    rw [SubscriptionTable.insert, ExtTreeMap.getElem?_insert]
    split
    · simp only [ne_eq, Option.some.injEq]
      exact ExtTreeSet.insert_ne_empty
    · exact wf.inhabited _

theorem remove (wf : t.WellFormed) : (t.remove id).2.WellFormed := by
  cases found : t.get? id with
  | none => rwa [remove_of_get?_eq_none found]
  | some s =>
    refine ⟨fun {other r} h => ?_, fun {gate other} => ?_, fun gate => ?_⟩
    · rw [get?_remove] at h
      split at h
      · cases h
      · exact wf.id_eq h
    · rw [mem_owned_remove found, wf.mem_owned, get?_remove]
      by_cases same : id = other
      · subst same
        simp [found]
      · simp [same]
    · simp only [SubscriptionTable.remove, found, getElem?_unindex]
      split
      · split
        · exact nofun
        · rename_i left
          simpa [ExtTreeSet.isEmpty_iff] using left
      · exact wf.inhabited _

theorem foldl_remove (wf : t.WellFormed) (subs : List Subscription) :
    (subs.foldl (fun table entry => (table.remove entry.id).2) t).WellFormed := by
  induction subs generalizing t with
  | nil => exact wf
  | cons first rest ih => exact ih wf.remove

theorem removeOwned (wf : t.WellFormed) : (t.removeOwned gate id).2.WellFormed := by
  rw [removeOwned_eq]
  split
  · exact wf.remove
  · exact wf

theorem removeGate (wf : t.WellFormed) : (t.removeGate gate).2.WellFormed where
  id_eq {id s} h := by
    rw [get?_removeGate] at h
    split at h
    · cases h
    · exact wf.id_eq h
  mem_owned {owner id} := by
    simp only [mem_owned_removeGate, get?_removeGate, wf.mem_owned]
    cases found : t.get? id with
    | none => simp
    | some s =>
      simp only [Option.some.injEq, exists_eq_left']
      by_cases ends : s.gate = gate
      · simp only [if_pos ends, reduceCtorEq, false_and, exists_false, iff_false, not_and]
        exact fun differ same => differ (ends.symm.trans same)
      · simp only [if_neg ends, Option.some.injEq, exists_eq_left', and_iff_right_iff_imp]
        exact fun same differ => ends (same.trans differ.symm)
  inhabited owner := by
    simp only [SubscriptionTable.removeGate, ExtTreeMap.getElem?_erase]
    split
    · exact nofun
    · exact wf.inhabited _

theorem commit {results : ResultSet} {sequence : Nat} (wf : t.WellFormed) :
    (t.commit id results sequence).2.WellFormed where
  id_eq {other s} h := by
    rw [get?_commit] at h
    split at h
    · rename_i same
      obtain ⟨r, found, rfl⟩ := Option.map_eq_some_iff.1 h
      exact (wf.id_eq found).trans same
    · exact wf.id_eq h
  mem_owned {gate other} := by
    rw [owned_commit, wf.mem_owned, get?_commit]
    by_cases same : id = other
    · subst same
      cases found : t.get? id <;> simp
    · simp [same]
  inhabited gate := by
    rw [byGate_commit]
    exact wf.inhabited _

/-- Removing `s`, which has just been entered under a fresh name, gives the table back. -/
theorem remove_insert (wf : t.WellFormed) (fresh : t.get? s.id = none) :
    ((t.insert s).remove s.id).2 = t := by
  have entered : (t.insert s).get? s.id = some s := by rw [get?_insert, if_pos rfl]
  -- The index is given back too, since a gate is dropped from it just when it had no names.
  have unnamed : s.id ∉ t.owned s.gate := by simp [wf.mem_owned, fresh]
  have names : ((t.insert s).owned s.gate).erase s.id = t.owned s.gate := by
    refine ExtTreeSet.ext_mem fun id => ?_
    rw [ExtTreeSet.mem_erase, mem_owned_insert, Ne, LawfulEqCmp.compare_eq_iff_eq]
    grind
  refine ext (fun id => ?_) fun gate => ?_
  · rw [get?_remove, get?_insert]
    grind
  · simp only [SubscriptionTable.remove, entered, getElem?_unindex, names]
    by_cases same : s.gate = gate
    · subst same
      rw [if_pos rfl]
      split
      · rename_i none
        rw [wf.byGate_eq_none_iff.2 (ExtTreeSet.isEmpty_iff.1 none)]
      · rename_i some
        have kept := mt wf.byGate_eq_none_iff.1 (mt ExtTreeSet.isEmpty_iff.2 some)
        obtain ⟨ids, found⟩ := Option.ne_none_iff_exists'.1 kept
        rw [owned_eq, found, Option.getD_some]
    · have other : ¬compare s.gate gate = .eq := mt LawfulEqCmp.compare_eq_iff_eq.1 same
      rw [if_neg same, SubscriptionTable.insert, ExtTreeMap.getElem?_insert, if_neg other]

end WellFormed

end GraphBroker.SubscriptionTable
