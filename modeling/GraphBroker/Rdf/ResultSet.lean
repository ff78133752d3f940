import GraphBroker.Rdf.Binding
import Std.Data.ExtTreeSet

/-!
# Result sets

The solutions of a query: a set of bindings together with the list of variables
asked for. Two result sets agree when they hold the same solutions, whatever
their variables.

## Main definitions

* `ResultSet`: variables and a set of rows.
* `ResultSet.Agrees`: the same solutions.
* `ResultSet.diff`: what has come and gone between two result sets.
* `ResultSet.apply`: a result set after a change.
-/

namespace GraphBroker

open Std

/-- A set of solutions with the variables that were asked for. -/
structure ResultSet where
  /-- The variables. -/
  vars : List String
  /-- The solutions. -/
  rows : ExtTreeSet Binding
deriving DecidableEq

/-- What has come and gone between two result sets. -/
structure ResultDiff where
  /-- The solutions that have come. -/
  added : ResultSet
  /-- The solutions that have gone. -/
  removed : ResultSet
deriving DecidableEq

namespace ResultSet

/-- No solution for the given variables. -/
def empty (vars : List String) : ResultSet := ⟨vars, ∅⟩

instance : Inhabited ResultSet := ⟨empty []⟩

/-- The result set of the given solutions. -/
def ofList (vars : List String) (rows : List Binding) : ResultSet :=
  ⟨vars, ExtTreeSet.ofList rows⟩

instance : Membership Binding ResultSet where
  mem r b := b ∈ r.rows

instance {b : Binding} {r : ResultSet} : Decidable (b ∈ r) :=
  inferInstanceAs (Decidable (b ∈ r.rows))

/-- The number of solutions. -/
def size (r : ResultSet) : Nat := r.rows.size

/-- Whether there is no solution. -/
def isEmpty (r : ResultSet) : Bool := r.rows.isEmpty

/-- The solutions in their order. -/
def toList (r : ResultSet) : List Binding := r.rows.toList

/-- The result set with one more solution. -/
def insert (r : ResultSet) (b : Binding) : ResultSet :=
  { r with rows := r.rows.insert b }

/-- Two result sets agree when they hold the same solutions, whatever their `vars`. -/
def Agrees (r s : ResultSet) : Prop := r.rows = s.rows

instance {r s : ResultSet} : Decidable (r.Agrees s) :=
  inferInstanceAs (Decidable (r.rows = s.rows))

/-- What has come and gone since `older`. The variables are those of the newer result set, or
of the older one if the newer has none. -/
def diff (older newer : ResultSet) : ResultDiff :=
  let vars := if newer.vars.isEmpty then older.vars else newer.vars
  ⟨⟨vars, newer.rows \ older.rows⟩, ⟨vars, older.rows \ newer.rows⟩⟩

/-- The result set `r` after a change: without what has gone, with what has come. Variables are
taken from what has come if there are none. -/
def apply (r : ResultSet) (change : ResultDiff) : ResultSet where
  vars := if r.vars.isEmpty then change.added.vars else r.vars
  rows := (r.rows \ change.removed.rows) ∪ change.added.rows

/-! ### Members of each operation -/

theorem mem_def {b : Binding} {r : ResultSet} : b ∈ r ↔ b ∈ r.rows := Iff.rfl

theorem agrees_iff {r s : ResultSet} : r.Agrees s ↔ ∀ b, b ∈ r ↔ b ∈ s :=
  ⟨fun h _ => by rw [mem_def, mem_def, h], ExtTreeSet.ext_mem⟩

@[simp] theorem mem_empty {b : Binding} {vars : List String} : b ∉ empty vars :=
  ExtTreeSet.not_mem_empty

@[simp] theorem mem_ofList {b : Binding} {vars : List String} {rows : List Binding} :
    b ∈ ofList vars rows ↔ b ∈ rows := by
  simp [mem_def, ofList, ExtTreeSet.mem_ofList]

@[simp] theorem mem_insert {a b : Binding} {r : ResultSet} : a ∈ r.insert b ↔ b = a ∨ a ∈ r := by
  simp [mem_def, insert, ExtTreeSet.mem_insert, LawfulEqCmp.compare_eq_iff_eq]

@[simp] theorem mem_added_diff {b : Binding} {r s : ResultSet} :
    b ∈ (r.diff s).added ↔ b ∈ s ∧ b ∉ r :=
  ExtTreeSet.mem_diff_iff

@[simp] theorem mem_removed_diff {b : Binding} {r s : ResultSet} :
    b ∈ (r.diff s).removed ↔ b ∈ r ∧ b ∉ s :=
  ExtTreeSet.mem_diff_iff

@[simp] theorem mem_apply {b : Binding} {r : ResultSet} {change : ResultDiff} :
    b ∈ r.apply change ↔ (b ∈ r ∧ b ∉ change.removed) ∨ b ∈ change.added := by
  simp only [mem_def, apply, ExtTreeSet.mem_union_iff, ExtTreeSet.mem_diff_iff]

@[simp] theorem mem_toList {b : Binding} {r : ResultSet} : b ∈ r.toList ↔ b ∈ r :=
  ExtTreeSet.mem_toList

end ResultSet

/-- Whether nothing has come or gone. -/
def ResultDiff.isEmpty (change : ResultDiff) : Bool :=
  change.added.isEmpty && change.removed.isEmpty

end GraphBroker
