import GraphBroker.Proofs.Subscription.Counting
import Mathlib.Data.List.Forall2

/-!
# The table of subscriptions is one map

The table keeps its subscriptions twice: by their names, and for each gate the names of its own.
Nobody who asks the table can tell that there are two maps. Each call is answered as by a plain map
from names to subscriptions, which goes through all of its entries where the table looks a gate up,
and after each call the index has the names of each gate that has any, and no other gate.

## Main definitions

* `PlainTable`: the subscriptions by their names, and nothing else.
* `TableCall`, `SubscriptionTable.perform`, `PlainTable.perform`: what either may be asked.
* `SubscriptionTable.Mirrors`: the table holds what the map holds, and its index is exact.

## Main statements

* `WellFormed.toList_owned`: the index of a gate lists what a search of all entries would find.
* `WellFormed.perform_eq`: one call is answered as by the map.
* `WellFormed.trace`, `table_is_one_map`: calls in a row.
-/

namespace GraphBroker

open Std

/-- What may be asked of a table of subscriptions. -/
inductive TableCall where
  /-- Enters the subscription `s`. -/
  | insert (s : Subscription)
  /-- Removes the subscription `id`. -/
  | remove (id : SubscriptionId)
  /-- Removes the subscription `id` if it belongs to `gate`. -/
  | removeOwned (gate : GateId) (id : SubscriptionId)
  /-- Removes all subscriptions of `gate`. -/
  | removeGate (gate : GateId)
  /-- Keeps the `results` last told of the subscription `id`. -/
  | commit (id : SubscriptionId) (results : ResultSet) (sequence : Nat)
  /-- Looks the subscription `id` up. -/
  | get (id : SubscriptionId)
  /-- Lists all subscriptions. -/
  | snapshot
  /-- Counts the subscriptions of `gate`. -/
  | countFor (gate : GateId)

/-- What a table of subscriptions answers. -/
inductive TableAnswer where
  /-- Nothing. -/
  | done
  /-- The subscription `s`, if it is there. -/
  | found (s : Option Subscription)
  /-- Whether something has been done. -/
  | said (yes : Bool)
  /-- Names of subscriptions. -/
  | names (ids : List SubscriptionId)
  /-- Subscriptions. -/
  | listed (subs : List Subscription)
  /-- How many there are. -/
  | counted (number : Nat)
deriving DecidableEq

/-- The subscriptions by their names, and nothing else. -/
structure PlainTable where
  /-- The subscriptions. -/
  entries : ExtTreeMap SubscriptionId Subscription

/-- What the table `t` answers to a call, and the table after it. -/
def SubscriptionTable.perform (t : SubscriptionTable) : TableCall → TableAnswer × SubscriptionTable
  | .insert s => (.done, t.insert s)
  | .remove id => (.found (t.remove id).1, (t.remove id).2)
  | .removeOwned gate id => (.said (t.removeOwned gate id).1, (t.removeOwned gate id).2)
  | .removeGate gate => (.names (t.removeGate gate).1, (t.removeGate gate).2)
  | .commit id results sequence =>
    (.said (t.commit id results sequence).1, (t.commit id results sequence).2)
  | .get id => (.found (t.get? id), t)
  | .snapshot => (.listed t.snapshot, t)
  | .countFor gate => (.counted (t.countFor gate), t)

/-- What `t` answers to some calls in a row, each time with the table after the call. -/
def SubscriptionTable.trace (t : SubscriptionTable) :
    List TableCall → List (TableAnswer × SubscriptionTable)
  | [] => []
  | call :: rest => t.perform call :: (t.perform call).2.trace rest

namespace PlainTable

/-- No subscription. -/
def empty : PlainTable := ⟨∅⟩

/-- The subscription of the name `id` belongs to `gate`. -/
def Owns (m : PlainTable) (gate : GateId) (id : SubscriptionId) : Prop :=
  ∃ s, m.entries[id]? = some s ∧ s.gate = gate

/-- The entries of `gate`. -/
def ofGate (m : PlainTable) (gate : GateId) : ExtTreeMap SubscriptionId Subscription :=
  m.entries.filter fun _ s => s.gate = gate

/-- What the map `m` answers to a call, and the map after it. -/
def perform (m : PlainTable) : TableCall → TableAnswer × PlainTable
  | .insert s => (.done, ⟨m.entries.insert s.id s⟩)
  | .remove id => (.found m.entries[id]?, ⟨m.entries.erase id⟩)
  | .removeOwned gate id =>
    if m.entries[id]?.any (·.gate = gate) then (.said true, ⟨m.entries.erase id⟩)
    else (.said false, m)
  | .removeGate gate =>
    (.names (m.ofGate gate).keys, ⟨m.entries.filter fun _ s => s.gate ≠ gate⟩)
  | .commit id results sequence =>
    (.said m.entries[id]?.isSome,
      ⟨m.entries.modify id fun s => { s with last := results, sequence }⟩)
  | .get id => (.found m.entries[id]?, m)
  | .snapshot => (.listed (m.entries.toList.map Prod.snd), m)
  | .countFor gate => (.counted (m.ofGate gate).size, m)

/-- What `m` answers to some calls in a row, each time with the map after the call. -/
def trace (m : PlainTable) : List TableCall → List (TableAnswer × PlainTable)
  | [] => []
  | call :: rest => m.perform call :: (m.perform call).2.trace rest

/-- A subscription is entered under a name that is not in use in `m`. -/
def Admits (m : PlainTable) : TableCall → Prop
  | .insert s => m.entries[s.id]? = none
  | _ => True

/-- All subscriptions are entered under names that are not in use. -/
def AdmitsAll (m : PlainTable) : List TableCall → Prop
  | [] => True
  | call :: rest => m.Admits call ∧ (m.perform call).2.AdmitsAll rest

end PlainTable

namespace SubscriptionTable

/-- The table `t` holds what the map `m` holds. Its index has the names of the subscriptions of each
gate, and no gate that has none. -/
structure Mirrors (t : SubscriptionTable) (m : PlainTable) : Prop where
  /-- The entries are the same. -/
  entries : t.entries = m.entries
  /-- The names of `gate` are those of its subscriptions. -/
  owned : ∀ gate id, id ∈ t.owned gate ↔ m.Owns gate id
  /-- A gate is kept as long as it has subscriptions. -/
  kept : ∀ gate, gate ∈ t.byGate ↔ ∃ id, m.Owns gate id

variable {t : SubscriptionTable} {m : PlainTable} {gate : GateId} {id : SubscriptionId}
  {call : TableCall}

/-! ### The index -/

/-- A well-formed table `t` mirrors its entries. -/
theorem WellFormed.mirrors (wf : t.WellFormed) (same : t.entries = m.entries) : t.Mirrors m := by
  have owned (gate : GateId) (id : SubscriptionId) : id ∈ t.owned gate ↔ m.Owns gate id := by
    rw [wf.mem_owned, get?, same, PlainTable.Owns]
  refine ⟨same, owned, fun gate => ?_⟩
  rw [ExtTreeMap.mem_iff_isSome_getElem?, Option.isSome_iff_ne_none, Ne, wf.byGate_eq_none_iff,
    ExtTreeSet.eq_empty_iff_forall_not_mem, not_forall]
  exact exists_congr fun id => not_not.trans (owned gate id)

/-- The index of `gate` lists what a look at all entries would list. -/
theorem WellFormed.toList_owned (wf : t.WellFormed) (same : t.entries = m.entries) :
    (t.owned gate).toList = (m.ofGate gate).keys := by
  have listed (id : SubscriptionId) :
      id ∈ (t.owned gate).toList ↔ id ∈ (m.ofGate gate).keys := by
    rw [ExtTreeSet.mem_toList, wf.mem_owned, get?, same, ExtTreeMap.mem_keys,
      ExtTreeMap.mem_iff_isSome_getElem?, PlainTable.ofGate, ExtTreeMap.getElem?_filter']
    cases m.entries[id]? <;> simp [Option.isSome_filter]
  -- Both lists are in the order of the names.
  refine ((List.perm_ext_iff_of_nodup nodup_owned ExtTreeMap.nodup_keys).2 listed).eq_of_pairwise
    ?_ ExtTreeSet.ordered_toList ExtTreeMap.ordered_keys
  exact fun _ _ _ _ before after => (OrientedCmp.not_lt_of_lt before after).elim

/-! ### One call -/

theorem fst_remove : (t.remove id).1 = t.get? id := by
  cases found : t.get? id <;> simp only [remove, found]

theorem entries_remove : (t.remove id).2.entries = t.entries.erase id := by
  refine ExtTreeMap.ext_getElem? fun other => ?_
  rw [ExtTreeMap.getElem?_erase]
  simp only [LawfulEqCmp.compare_eq_iff_eq]
  exact get?_remove

theorem fst_removeOwned : (t.removeOwned gate id).1 = (t.get? id).any (·.gate = gate) := by
  cases found : t.get? id with
  | none => simp only [removeOwned, found, Option.any_none]
  | some s => by_cases owns : s.gate = gate <;> simp [removeOwned, found, owns]

/-- What is left when `gate` leaves. -/
theorem WellFormed.entries_removeGate (wf : t.WellFormed) :
    (t.removeGate gate).2.entries = t.entries.filter fun _ s => s.gate ≠ gate := by
  refine ExtTreeMap.ext_getElem? fun id => ?_
  have left : (t.removeGate gate).2.entries[id]? =
      if id ∈ t.owned gate then none else t.entries[id]? := get?_removeGate
  rw [left, ExtTreeMap.getElem?_filter']
  simp only [wf.mem_owned, get?]
  cases t.entries[id]? with
  | none => simp
  | some s => by_cases owns : s.gate = gate <;> simp [owns, Option.filter_some]

/-- All names in the index are those of entries. -/
theorem WellFormed.fst_removeGate (wf : t.WellFormed) :
    (t.removeGate gate).1 = (t.owned gate).toList := by
  refine List.filter_eq_self.2 fun id listed => ?_
  obtain ⟨s, stands, -⟩ := wf.mem_owned.1 (ExtTreeSet.mem_toList.1 listed)
  rw [← ExtTreeMap.isSome_getElem?_eq_contains]
  exact Option.isSome_of_eq_some stands

theorem fst_commit {results : ResultSet} {sequence : Nat} :
    (t.commit id results sequence).1 = (t.get? id).isSome := by
  cases found : t.get? id <;> simp only [commit, found, Option.isSome]

theorem entries_commit {results : ResultSet} {sequence : Nat} :
    (t.commit id results sequence).2.entries =
      t.entries.modify id fun s => { s with last := results, sequence } := by
  refine ExtTreeMap.ext_getElem? fun other => ?_
  rw [ExtTreeMap.getElem?_modify]
  simp only [LawfulEqCmp.compare_eq_iff_eq]
  exact get?_commit

theorem WellFormed.perform (wf : t.WellFormed) (same : t.entries = m.entries)
    (admits : m.Admits call) : (t.perform call).2.WellFormed := by
  cases call with
  | insert s => exact wf.insert (by rwa [get?, same])
  | remove id => exact wf.remove
  | removeOwned gate id => exact wf.removeOwned
  | removeGate gate => exact wf.removeGate
  | commit id results sequence => exact wf.commit
  | get id => exact wf
  | snapshot => exact wf
  | countFor gate => exact wf

/-- A `call` is answered by `t` as by `m`, and both hold the same afterwards. -/
theorem WellFormed.perform_eq (wf : t.WellFormed) (same : t.entries = m.entries)
    (call : TableCall) :
    (t.perform call).1 = (m.perform call).1 ∧
      (t.perform call).2.entries = (m.perform call).2.entries := by
  obtain ⟨entries⟩ := m
  obtain rfl : t.entries = entries := same
  cases call with
  | insert s => exact ⟨rfl, rfl⟩
  | remove id => exact ⟨congrArg _ fst_remove, entries_remove⟩
  | removeOwned gate id =>
    simp only [SubscriptionTable.perform, PlainTable.perform, fst_removeOwned, removeOwned_eq, get?]
    by_cases owns : t.entries[id]?.any (·.gate = gate)
    · simp only [owns, if_true, entries_remove, and_self]
    · simp only [owns, Bool.false_eq_true, if_false, and_self]
  | removeGate gate =>
    have listed : (t.removeGate gate).1 = (PlainTable.ofGate ⟨t.entries⟩ gate).keys := by
      rw [wf.fst_removeGate, wf.toList_owned (m := ⟨t.entries⟩) rfl]
    exact ⟨congrArg _ listed, wf.entries_removeGate⟩
  | commit id results sequence => exact ⟨congrArg _ fst_commit, entries_commit⟩
  | get id => exact ⟨rfl, rfl⟩
  | snapshot => exact ⟨rfl, rfl⟩
  | countFor gate =>
    have counted : t.countFor gate = (PlainTable.ofGate ⟨t.entries⟩ gate).size := by
      rw [countFor, ← ExtTreeSet.length_toList, wf.toList_owned (m := ⟨t.entries⟩) rfl,
        ExtTreeMap.length_keys]
    exact ⟨congrArg _ counted, rfl⟩

/-! ### Calls in a row -/

theorem WellFormed.trace (wf : t.WellFormed) (same : t.entries = m.entries)
    {calls : List TableCall} (admits : m.AdmitsAll calls) :
    List.Forall₂ (fun table map => table.1 = map.1 ∧ table.2.Mirrors map.2)
      (t.trace calls) (m.trace calls) := by
  -- Only a well-formed table lists by its index what the map lists, so this is carried along.
  induction calls generalizing t m with
  | nil => exact .nil
  | cons call rest ih =>
    have after : (t.perform call).2.WellFormed := wf.perform same admits.1
    obtain ⟨answers, entries⟩ := wf.perform_eq same call
    exact .cons ⟨answers, after.mirrors entries⟩ (ih after entries admits.2)

/-- Whatever a table is asked by `calls`, as long as each new subscription has a name that is not in
use, it answers as a map from names to subscriptions does. After each call it `Mirrors` the map: it
holds what this holds, and its index has the names of the subscriptions of each gate, and no gate
that has none. -/
theorem table_is_one_map (calls : List TableCall) (fresh : PlainTable.empty.AdmitsAll calls) :
    List.Forall₂ (fun table map => table.1 = map.1 ∧ table.2.Mirrors map.2)
      ((∅ : SubscriptionTable).trace calls) (PlainTable.empty.trace calls) :=
  WellFormed.empty.trace rfl fresh

/-- A subscription of a gate. -/
def numbered (gate number : Nat) : Subscription where
  id := ⟨.ofNat number⟩
  gate := ⟨.ofNat gate⟩
  pattern := ⟨"SELECT * WHERE \x7b \x7d", ∅⟩
  label := none
  last := .empty []

/-- Two subscriptions of one gate and one of another. The other gate cannot remove what it does not
own, the first one loses both of its own, and the name of one of them is used again. -/
def twoGates : List TableCall :=
  [.insert (numbered 0 0), .insert (numbered 0 1), .insert (numbered 1 2),
    .removeOwned ⟨.ofNat 1⟩ ⟨.ofNat 0⟩, .commit ⟨.ofNat 1⟩ (.empty ["s"]) 1, .remove ⟨.ofNat 1⟩,
    .commit ⟨.ofNat 1⟩ (.empty []) 2, .removeGate ⟨.ofNat 0⟩, .insert (numbered 1 0),
    .countFor ⟨.ofNat 0⟩, .countFor ⟨.ofNat 1⟩]

/-- The calls `twoGates` are answered as by a map. -/
theorem table_is_one_map_twoGates :
    ((∅ : SubscriptionTable).trace twoGates).map Prod.fst =
      [.done, .done, .done, .said false, .said true,
        .found (some { numbered 0 1 with last := .empty ["s"], sequence := 1 }), .said false,
        .names [⟨.ofNat 0⟩], .done, .counted 0, .counted 2] := by
  have fresh : PlainTable.empty.AdmitsAll twoGates := by
    refine ⟨?_, ?_, ?_, trivial, trivial, trivial, trivial, trivial, ?_, trivial, trivial, trivial⟩
    all_goals
      change _ = _
      decide +kernel
  have same : ((∅ : SubscriptionTable).trace twoGates).map Prod.fst =
      (PlainTable.empty.trace twoGates).map Prod.fst := by
    rw [← List.forall₂_eq_eq_eq, List.forall₂_map_left_iff, List.forall₂_map_right_iff]
    exact (table_is_one_map twoGates fresh).imp fun _ _ mirrored => mirrored.1
  rw [same]
  decide +kernel

end SubscriptionTable

end GraphBroker
