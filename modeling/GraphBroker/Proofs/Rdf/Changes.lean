import GraphBroker.Rdf.ResultSet

/-!
# Changes of result sets

Whoever is told what has come and gone can keep up with a result set. A change tells no more than
it has to: nothing is said to have come that was there, nothing to have gone that was not, and of
all changes that lead from one result set to another it is contained in each. Told one after
another along a chain of result sets, the changes lead where the change from the first to the last
leads.

## Main definitions

* `ResultDiff.Exact`: a change that fits a result set.
* `ResultDiff.Agrees`: changes that tell of the same solutions.
* `ResultSet.diffs`: the changes along a chain of result sets.

## Main statements

* `agrees_apply_diff`: a change leads from the older result set to the newer one.
* `ResultDiff.Exact.agrees_diff`: it is the only exact one.
* `agrees_foldl_diffs`, `exact_of_diffs`: the changes along a chain.
* `changes_lead_through`: all of this together.
-/

namespace GraphBroker

/-- Of what `change` tells of `r`, nothing has come that was there, and nothing has gone that was
not. -/
structure ResultDiff.Exact (change : ResultDiff) (r : ResultSet) : Prop where
  /-- What has come was not there. -/
  fresh : ∀ b ∈ change.added, b ∉ r
  /-- What has gone was there. -/
  held : ∀ b ∈ change.removed, b ∈ r

/-- The changes `change` and `other` tell of the same solutions. -/
def ResultDiff.Agrees (change other : ResultDiff) : Prop :=
  change.added.Agrees other.added ∧ change.removed.Agrees other.removed

/-- What has come and gone at each step from a result set through some others. -/
def ResultSet.diffs : ResultSet → List ResultSet → List ResultDiff
  | _, [] => []
  | older, newer :: rest => older.diff newer :: newer.diffs rest

variable {r older newer : ResultSet} {change : ResultDiff} {b : Binding}

/-! ### One change -/

theorem ResultDiff.Exact.not_mem_removed (exact : change.Exact r) (come : b ∈ change.added) :
    b ∉ change.removed :=
  fun gone => exact.fresh b come (exact.held b gone)

theorem ResultDiff.Exact.of_agrees (exact : change.Exact older) (same : r.Agrees older) :
    change.Exact r := by
  rw [ResultSet.agrees_iff] at same
  exact ⟨fun b come held => exact.fresh b come ((same b).1 held),
    fun b gone => (same b).2 (exact.held b gone)⟩

namespace ResultSet

instance {p : Binding → Prop} [DecidablePred p] : Decidable (∀ b ∈ r, p b) :=
  decidable_of_iff (∀ b ∈ r.toList, p b) (by simp only [mem_toList])

theorem isEmpty_iff : r.isEmpty ↔ ∀ b, b ∉ r :=
  Std.ExtTreeSet.isEmpty_iff.trans Std.ExtTreeSet.eq_empty_iff_forall_not_mem

theorem exact_diff : (older.diff newer).Exact older :=
  ⟨fun _ come => (mem_added_diff.1 come).2, fun _ gone => (mem_removed_diff.1 gone).1⟩

theorem agrees_apply_diff (same : r.Agrees older) : (r.apply (older.diff newer)).Agrees newer := by
  rw [agrees_iff] at same ⊢
  intro b
  rw [mem_apply, mem_added_diff, mem_removed_diff, same]
  constructor
  -- What is removed is held before, and what is added is not.
  · rintro (⟨held, kept⟩ | ⟨come, -⟩)
    · exact Decidable.byContradiction fun gone => kept ⟨held, gone⟩
    · exact come
  · intro now
    by_cases held : b ∈ older
    · exact .inl ⟨held, fun gone => gone.2 now⟩
    · exact .inr ⟨now, held⟩

/-- What `change` has to tell at least to lead from `older` to `newer`. -/
theorem mem_of_mem_diff (leads : (older.apply change).Agrees newer) :
    (b ∈ (older.diff newer).added → b ∈ change.added) ∧
      (b ∈ (older.diff newer).removed → b ∈ change.removed) := by
  rw [agrees_iff] at leads
  have now := leads b
  rw [mem_apply] at now
  rw [mem_added_diff, mem_removed_diff]
  constructor
  · rintro ⟨come, absent⟩
    exact (now.2 come).resolve_left fun kept => absent kept.1
  · rintro ⟨held, gone⟩
    exact Decidable.byContradiction fun kept => gone (now.1 (.inl ⟨held, kept⟩))

end ResultSet

/-- Only one exact `change` leads from `older` to `newer`. -/
theorem ResultDiff.Exact.agrees_diff (exact : change.Exact older)
    (leads : (older.apply change).Agrees newer) : change.Agrees (older.diff newer) := by
  have now := ResultSet.agrees_iff.1 leads
  simp only [ResultSet.mem_apply] at now
  refine ⟨ResultSet.agrees_iff.2 fun b => ⟨fun come => ?_, (ResultSet.mem_of_mem_diff leads).1⟩,
    ResultSet.agrees_iff.2 fun b => ⟨fun gone => ?_, (ResultSet.mem_of_mem_diff leads).2⟩⟩
  · exact ResultSet.mem_added_diff.2 ⟨(now b).1 (.inr come), exact.fresh b come⟩
  · refine ResultSet.mem_removed_diff.2 ⟨exact.held b gone, fun still => ?_⟩
    -- It would have to come as well as go.
    rcases (now b).2 still with ⟨-, kept⟩ | come
    · exact kept gone
    · exact exact.not_mem_removed come gone

theorem ResultDiff.isEmpty_diff : (older.diff newer).isEmpty ↔ older.Agrees newer := by
  rw [isEmpty, Bool.and_eq_true, ResultSet.isEmpty_iff, ResultSet.isEmpty_iff,
    ResultSet.agrees_iff]
  simp only [ResultSet.mem_added_diff, ResultSet.mem_removed_diff, not_and, Decidable.not_not]
  exact ⟨fun none b => ⟨none.2 b, none.1 b⟩,
    fun same => ⟨fun b => (same b).2, fun b => (same b).1⟩⟩

/-! ### A chain of changes -/

namespace ResultSet

variable {first : ResultSet} {rest : List ResultSet}

/-- The changes along the chain `first :: rest` lead to its last result set. -/
theorem agrees_foldl_diffs (same : r.Agrees first) :
    ((first.diffs rest).foldl apply r).Agrees (rest.getLastD first) := by
  induction rest generalizing first r with
  | nil => exact same
  | cons newer rest ih =>
    rw [diffs, List.foldl_cons, List.getLastD_cons]
    exact ih (agrees_apply_diff same)

/-- Each `change` along a chain is exact for what those `before` it have led to. -/
theorem exact_of_diffs {before after : List ResultDiff} (same : r.Agrees first)
    (cut : first.diffs rest = before ++ change :: after) :
    change.Exact (before.foldl apply r) := by
  induction rest generalizing first r before with
  | nil => exact absurd cut.symm (by simp [diffs])
  | cons newer rest ih =>
    rw [diffs] at cut
    cases before with
    | nil =>
      obtain ⟨rfl, -⟩ := List.cons.inj cut
      exact exact_diff.of_agrees same
    | cons next before =>
      obtain ⟨rfl, later⟩ := List.cons.inj cut
      rw [List.foldl_cons]
      exact ih (agrees_apply_diff same) later

/-- What has come and gone between two result sets is exact, is empty only if they hold the same
solutions, leads from the one to the other and back, is contained in all that does so, and is the
only exact change that does. Along a chain of result sets, the changes lead from the first to the
last as the one change between these does, and each of them is exact where it is applied. -/
theorem changes_lead_through :
    (∀ older newer : ResultSet,
      (∀ b ∈ (older.diff newer).added, b ∉ (older.diff newer).removed) ∧
      (∀ b ∈ (older.diff newer).added, b ∉ older) ∧
      (∀ b ∈ (older.diff newer).removed, b ∈ older) ∧
      ((older.diff newer).isEmpty ↔ older.Agrees newer) ∧
      (∀ r : ResultSet, r.Agrees older → (r.apply (older.diff newer)).Agrees newer ∧
        ((r.apply (older.diff newer)).apply (newer.diff older)).Agrees r) ∧
      ∀ change : ResultDiff, (older.apply change).Agrees newer →
        (∀ b ∈ (older.diff newer).added, b ∈ change.added) ∧
        (∀ b ∈ (older.diff newer).removed, b ∈ change.removed) ∧
        (change.Exact older → change.Agrees (older.diff newer))) ∧
    ∀ (first : ResultSet) (rest : List ResultSet) (r : ResultSet), r.Agrees first →
      ((first.diffs rest).foldl apply r).Agrees (rest.getLastD first) ∧
      ((first.diffs rest).foldl apply r).Agrees
        (r.apply (first.diff (rest.getLastD first))) ∧
      ∀ before change after, first.diffs rest = before ++ change :: after →
        change.Exact (before.foldl apply r) := by
  refine ⟨fun older newer => ?_, fun first rest r same => ?_⟩
  · have exact : (older.diff newer).Exact older := exact_diff
    refine ⟨fun b => exact.not_mem_removed, exact.fresh, exact.held, ResultDiff.isEmpty_diff,
      fun r same => ?_, fun change leads => ?_⟩
    · have forth : (r.apply (older.diff newer)).Agrees newer := agrees_apply_diff same
      exact ⟨forth, (agrees_apply_diff forth).trans same.symm⟩
    · exact ⟨fun b => (mem_of_mem_diff leads).1, fun b => (mem_of_mem_diff leads).2,
        fun exact => exact.agrees_diff leads⟩
  · have through : ((first.diffs rest).foldl apply r).Agrees (rest.getLastD first) :=
      agrees_foldl_diffs same
    exact ⟨through, through.trans (agrees_apply_diff same).symm,
      fun before change after cut => exact_of_diffs same cut⟩

/-- The results in which one variable has each of some values. -/
def column (values : List String) : ResultSet :=
  ofList ["s"] (values.map fun value => Binding.empty.insert "s" (.iri value))

/-- Two results come, one of them goes, and two others take the place of the last. Whoever starts
without results and variables comes to these two, and in the end has been told of what is new and
what has gone, and of nothing else. -/
theorem changes_lead_through_columns :
    (((column []).diffs [column ["a", "b"], column ["a"], column ["c", "d"]]).foldl apply
      (empty [])).Agrees (column ["c", "d"]) ∧
    ResultDiff.Agrees ⟨column ["c", "d"], column ["a"]⟩
      ((column ["a"]).diff (column ["c", "d"])) := by
  obtain ⟨one, chain⟩ := changes_lead_through
  refine ⟨(chain (column []) _ (empty []) (by decide +kernel)).1, ?_⟩
  obtain ⟨-, -, -, -, -, only⟩ := one (column ["a"]) (column ["c", "d"])
  refine (only _ (by decide +kernel)).2.2 ⟨?_, ?_⟩
  · decide +kernel
  · decide +kernel

end ResultSet

end GraphBroker
