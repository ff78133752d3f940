import GraphBroker.Proofs.Sparql.Meaning
import GraphBroker.Proofs.Sparql.Solutions
import Mathlib.Data.Set.Card

/-!
# The rows of a query

A row is a solution on the variables asked for, and several solutions may give the same row. A
limit is about rows: solutions are taken until there are as many rows as the limit allows, however
many solutions that takes. Which rows these are is left open, how many there are is not.

## Main definitions

* `ResultSet.toSet`: the rows of a result set.
* `Sparql.FirstsOf`: each name once, in the order in which they first appear.
* `Query.rowsIn`: the rows that a query asks for.

## Main statements

* `firstsOf_patternVars`: the variables of patterns.
* `mem_collect_of_size_lt`: only the limit keeps a row away.
* `select_projects_and_limits`: the result of a query.
-/

namespace GraphBroker

namespace ResultSet

variable {r : ResultSet} {b : Binding}

/-- The rows of `r`. -/
def toSet (r : ResultSet) : Set Binding := {b | b ∈ r}

@[simp] theorem mem_toSet : b ∈ r.toSet ↔ b ∈ r := Iff.rfl

theorem nodup_toList : r.toList.Nodup :=
  Std.ExtTreeSet.distinct_toList.imp fun different same =>
    different (Std.LawfulEqCmp.compare_eq_iff_eq.2 same)

theorem ncard_toSet : r.toSet.ncard = r.size := by
  have listed : r.toSet = r.toList.toFinset := by
    ext b
    simp
  calc r.toSet.ncard
    _ = r.toList.toFinset.card := by rw [listed, Set.ncard_coe_finset]
    _ = r.toList.length := List.toFinset_card_of_nodup nodup_toList
    _ = r.size := Std.ExtTreeSet.length_toList

theorem size_insert_le : (r.insert b).size ≤ r.size + 1 := by
  rw [size, insert, Std.ExtTreeSet.size_insert]
  split
  · exact Nat.le_succ _
  · exact Nat.le_refl _

end ResultSet

namespace Sparql

variable {g : Graph} {q : Query} {r : ResultSet} {limit : Option Nat} {n : Nat}
  {rows : List Binding} {b : Binding} {name : String} {names more firsts : List String}

/-! ### The variables of patterns -/

/-- The list `firsts` has each of the `names` once, in the order in which they first appear. -/
structure FirstsOf (names firsts : List String) : Prop where
  /-- It has these `names`. -/
  mem : ∀ name, name ∈ firsts ↔ name ∈ names
  /-- What stands first in it appears first. -/
  ordered : firsts.Pairwise fun one other => names.idxOf one < names.idxOf other

/-- One more `name` is left out if it has appeared before. -/
theorem FirstsOf.append_singleton (all : FirstsOf names firsts) :
    FirstsOf (names ++ [name]) (if firsts.contains name then firsts else firsts ++ [name]) := by
  -- One more name at the end moves none of those before it.
  have places : ∀ one ∈ firsts, (names ++ [name]).idxOf one = names.idxOf one := fun one listed =>
    List.idxOf_append_of_mem ((all.mem one).1 listed)
  have ordered : firsts.Pairwise fun one other =>
      (names ++ [name]).idxOf one < (names ++ [name]).idxOf other :=
    all.ordered.imp_of_mem fun listed listed' earlier => by
      rw [places _ listed, places _ listed']
      exact earlier
  simp only [List.contains_iff_mem]
  split
  case isTrue seen =>
    refine ⟨fun other => ?_, ordered⟩
    rw [List.mem_append, List.mem_singleton, all.mem, or_iff_left_of_imp]
    rintro rfl
    exact (all.mem other).1 seen
  case isFalse fresh =>
    refine ⟨fun other => by rw [List.mem_append, List.mem_append, all.mem], ?_⟩
    refine List.pairwise_append.2 ⟨ordered, List.pairwise_singleton _ _, ?_⟩
    intro one listed other new
    obtain rfl := List.mem_singleton.1 new
    rw [places one listed, List.idxOf_append_of_notMem (mt (all.mem other).2 fresh)]
    exact (List.idxOf_lt_length_iff.2 ((all.mem one).1 listed)).trans_le (Nat.le_add_right _ _)

theorem FirstsOf.append (all : FirstsOf names firsts) :
    FirstsOf (names ++ more) (more.foldl
      (fun seen name => if seen.contains name then seen else seen ++ [name]) firsts) := by
  induction more generalizing names firsts with
  | nil => simpa using all
  | cons name rest ih =>
    rw [List.append_cons]
    exact ih all.append_singleton

theorem firstsOf_patternVars (patterns : List TriplePattern) :
    FirstsOf (patterns.flatMap TriplePattern.vars) (patternVars patterns) := by
  have none : FirstsOf [] [] := ⟨fun _ => Iff.rfl, .nil⟩
  exact none.append

/-! ### Rows up to a limit -/

theorem of_mem_collect (found : b ∈ collect limit r rows) : b ∈ r ∨ b ∈ rows := by
  induction rows generalizing r with
  | nil => exact .inl found
  | cons first rest ih =>
    rw [collect] at found
    split at found
    · exact .inl found
    · rcases ih found with known | listed
      · rcases ResultSet.mem_insert.1 known with rfl | known
        · exact .inr List.mem_cons_self
        · exact .inl known
      · exact .inr (List.mem_cons_of_mem first listed)

theorem size_collect_le (small : r.size ≤ n) : (collect (some n) r rows).size ≤ n := by
  induction rows generalizing r with
  | nil => exact small
  | cons first rest ih =>
    rw [collect]
    split
    case isTrue => exact small
    case isFalse room =>
      rw [Option.any_some, decide_eq_true_iff, Nat.not_le] at room
      exact ih (ResultSet.size_insert_le.trans room)

/-- Where the limit `n` is not reached, no row is left out. -/
theorem mem_collect_of_size_lt (less : (collect (some n) r rows).size < n)
    (known : b ∈ r ∨ b ∈ rows) : b ∈ collect (some n) r rows := by
  induction rows generalizing r with
  | nil => simpa [collect] using known
  | cons first rest ih =>
    rw [collect] at less ⊢
    split at less
    case isTrue full =>
      -- The rest is left out only once there are as many rows as the limit allows.
      rw [Option.any_some, decide_eq_true_iff] at full
      exact absurd less (Nat.not_lt.2 full)
    case isFalse room =>
      rw [if_neg room]
      refine ih less ?_
      rw [List.mem_cons, eq_comm, ← or_assoc, or_comm (a := b ∈ r), ← ResultSet.mem_insert] at known
      exact known

/-! ### The result of a query -/

/-- The rows that `q` asks for: the solutions in `G`, each on the variables asked for. -/
def Query.rowsIn (G : Set Triple) (q : Query) : Set Binding :=
  {row | ∃ b, IsSolution G q.pattern b ∧
    ∀ name, row.get? name = if name ∈ q.variables then b.get? name else none}

theorem rowsIn_toSet :
    q.rowsIn g.toSet = {b | b ∈ (solve g q.pattern).map (·.project q.variables)} := by
  ext row
  simp only [Query.rowsIn, Set.mem_ofPred_eq, isSolution_toSet, List.mem_map,
    ← Binding.get?_project, ← Binding.ext_iff, eq_comm]

theorem finite_rowsIn : (q.rowsIn g.toSet).Finite := by
  rw [rowsIn_toSet]
  exact List.finite_toSet _

theorem mem_rowsIn_iff : b ∈ q.rowsIn g.toSet ↔
    b ∈ ResultSet.empty q.variables ∨ b ∈ (solve g q.pattern).map (·.project q.variables) := by
  rw [rowsIn_toSet, or_iff_right ResultSet.mem_empty, Set.mem_ofPred_eq]

theorem toSet_select_subset : (q.select g).toSet ⊆ q.rowsIn g.toSet :=
  fun _ found => mem_rowsIn_iff.2 (of_mem_collect found)

theorem toSet_select_of_unlimited (unlimited : q.limit = none) :
    (q.select g).toSet = q.rowsIn g.toSet := by
  ext b
  rw [mem_rowsIn_iff, ResultSet.mem_toSet, Query.select, unlimited, mem_collect_none]

theorem ncard_toSet_select (limited : q.limit = some n) :
    (q.select g).toSet.ncard = min n (q.rowsIn g.toSet).ncard := by
  have within : (q.select g).toSet.ncard ≤ (q.rowsIn g.toSet).ncard :=
    Set.ncard_le_ncard toSet_select_subset finite_rowsIn
  have bounded : (q.select g).size ≤ n := by
    rw [Query.select, limited]
    exact size_collect_le (Nat.zero_le n)
  -- Either no row is missing, or the limit has been reached.
  rcases bounded.lt_or_eq with less | full
  · have all : (q.select g).toSet = q.rowsIn g.toSet := by
      refine toSet_select_subset.antisymm fun b asked => ?_
      rw [Query.select, limited] at less ⊢
      exact mem_collect_of_size_lt less (mem_rowsIn_iff.1 asked)
    rw [← all, ResultSet.ncard_toSet, Nat.min_eq_right bounded]
  · rw [ResultSet.ncard_toSet, full] at within
    rw [ResultSet.ncard_toSet, full, Nat.min_eq_left within]

/-- The result of a query `q` is about its variables: those that it names, or each variable of its
patterns once, in the order in which they first appear. Without a limit its rows are those that the
query asks for (`Query.rowsIn`). With a limit they are some of them, as many as the limit allows, or
all if there are not as many. The order in which the triples are listed is of no consequence. -/
theorem select_projects_and_limits (g : Graph) (q : Query) :
    (q.select g).vars = q.variables ∧
    (∀ names, q.projection = some names → q.variables = names) ∧
    (q.projection = none → FirstsOf (q.pattern.flatMap TriplePattern.vars) q.variables) ∧
    (q.rowsIn g.toSet).Finite ∧
    (q.limit = none → (q.select g).toSet = q.rowsIn g.toSet) ∧
    ∀ n, q.limit = some n → (q.select g).toSet ⊆ q.rowsIn g.toSet ∧
      (q.select g).toSet.ncard = min n (q.rowsIn g.toSet).ncard := by
  refine ⟨vars_select, fun names given => ?_, fun all => ?_, finite_rowsIn,
    toSet_select_of_unlimited, fun n limited => ⟨toSet_select_subset, ncard_toSet_select limited⟩⟩
  · rw [Query.variables, given, Option.getD_some]
  · rw [Query.variables, all, Option.getD_none]
    exact firstsOf_patternVars q.pattern

/-- Asks what points at something, and for a variable that no pattern has. -/
def origins (limit : Option Nat) : Query :=
  ⟨some ["x", "z"], [⟨.var "x", .term (.iri "to"), .var "y"⟩], limit⟩

/-- For `origins`, three solutions give two rows, and a limit of two is only reached with the last
of them. -/
theorem select_projects_and_limits_origins :
    (solve pointers (origins none).pattern).length = 3 ∧
      ((origins none).rowsIn pointers.toSet).ncard = 2 ∧
      ((origins (some 2)).select pointers).toSet = (origins none).rowsIn pointers.toSet ∧
      ((origins (some 1)).select pointers).toSet.ncard = 1 ∧
      ((origins (some 0)).select pointers).toSet.ncard = 0 := by
  obtain ⟨-, -, -, finite, all, -⟩ := select_projects_and_limits pointers (origins none)
  have two : ((origins none).rowsIn pointers.toSet).ncard = 2 := by
    rw [← all rfl, ResultSet.ncard_toSet]
    decide +kernel
  have limited (n : Nat) : ((origins (some n)).select pointers).toSet ⊆
      (origins none).rowsIn pointers.toSet ∧
      ((origins (some n)).select pointers).toSet.ncard = min n 2 := by
    obtain ⟨-, -, -, -, -, some⟩ := select_projects_and_limits pointers (origins (some n))
    obtain ⟨subset, count⟩ := some n rfl
    exact ⟨subset, count.trans (congrArg (min n) two)⟩
  refine ⟨by decide +kernel, two, ?_, (limited 1).2, (limited 0).2⟩
  exact Set.eq_of_subset_of_ncard_le (limited 2).1 (by rw [(limited 2).2, two]; rfl) finite

end Sparql

end GraphBroker
