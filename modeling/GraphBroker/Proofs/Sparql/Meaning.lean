import GraphBroker.Engine.Memory
import GraphBroker.Proofs.Engine.InMemory
import GraphBroker.Proofs.Sparql.Solutions
import Mathlib.Data.Set.Basic

/-!
# What an update means

An operation is a function on sets of triples. Solutions are those of the set before the operation,
and what is added stays even if it is removed by the same operation. The engine in memory computes
this function, so that the order in which its triples are listed is of no consequence.

## Main definitions

* `Graph.toSet`: the triples of a graph.
* `Sparql.IsSolution`, `Sparql.instancesIn`: solutions in a set, and what templates become.
* `Operation.meaning`: the set of triples after an operation.

## Main statements

* `toSet_apply`: one operation.
* `isSome_instantiate?`: a template with a variable that has no term becomes nothing.
* `update_means`: a whole update of the engine in memory.
-/

namespace GraphBroker

/-- The triples of `g`. -/
def Graph.toSet (g : Graph) : Set Triple := {t | t ∈ g}

namespace Graph

variable {g : Graph} {ts : List Triple} {t : Triple}

@[simp] theorem mem_toSet : t ∈ g.toSet ↔ t ∈ g := Iff.rfl

theorem toSet_insertMany : (g.insertMany ts).toSet = g.toSet ∪ {t | t ∈ ts} := by
  ext t
  rw [mem_toSet, mem_insertMany, Set.mem_union, or_comm]
  rfl

theorem toSet_eraseMany : (g.eraseMany ts).toSet = g.toSet \ {t | t ∈ ts} := by
  ext t
  exact mem_eraseMany

theorem toSet_empty : (∅ : Graph).toSet = ∅ := by
  ext t
  simp

end Graph

namespace Sparql

/-- The binding `b` gives terms to the variables of `patterns` and to no others, and every pattern
becomes one of the triples of `G`. -/
structure IsSolution (G : Set Triple) (patterns : List TriplePattern) (b : Binding) : Prop where
  /-- It gives terms to the variables of `patterns`. -/
  bound : ∀ name, (b.get? name).isSome ↔ ∃ p ∈ patterns, name ∈ p.vars
  /-- Every pattern becomes a triple of `G`. -/
  holds : ∀ p ∈ patterns, ∃ t ∈ G, p.instantiate? b = some t

/-- What `templates` become under all solutions of `patterns`. -/
def instancesIn (G : Set Triple) (patterns templates : List TriplePattern) : Set Triple :=
  {t | ∃ b, IsSolution G patterns b ∧ ∃ p ∈ templates, p.instantiate? b = some t}

/-- The triples after an operation, if they were `G` before. -/
def Operation.meaning (G : Set Triple) : Operation → Set Triple
  | insertData triples => G ∪ {t | t ∈ triples}
  | deleteData triples => G \ {t | t ∈ triples}
  | deleteWhere patterns => G \ instancesIn G patterns patterns
  | modify delete insert patterns =>
    (G \ instancesIn G patterns delete) ∪ instancesIn G patterns insert
  | clear => ∅

variable {g h : Graph} {patterns templates : List TriplePattern} {template : TriplePattern}
  {b : Binding} {t : Triple}

/-! ### Solutions and instances -/

theorem isSolution_toSet : IsSolution g.toSet patterns b ↔ b ∈ solve g patterns := by
  rw [mem_solve]
  constructor
  · intro ⟨bound, holds⟩
    exact ⟨fun name => (bound name).trans mem_patternVars.symm, holds⟩
  · intro ⟨bound, holds⟩
    exact ⟨fun name => (bound name).trans mem_patternVars, holds⟩

theorem instancesIn_toSet :
    instancesIn g.toSet patterns templates = {t | t ∈ instances templates (solve g patterns)} := by
  ext t
  simp only [instancesIn, instances, isSolution_toSet, Set.mem_ofPred_eq, List.mem_flatMap,
    List.mem_filterMap]

theorem PatternTerm.isSome_resolve? {place : PatternTerm} :
    (place.resolve? b).isSome ↔ ∀ name, place.var? = some name → (b.get? name).isSome := by
  cases place <;> simp [resolve?, var?]

/-- The `template` becomes a triple if all its variables have terms. -/
theorem isSome_instantiate? :
    (template.instantiate? b).isSome ↔ ∀ name ∈ template.vars, (b.get? name).isSome := by
  have places : (template.instantiate? b).isSome ↔ (template.subject.resolve? b).isSome ∧
      (template.predicate.resolve? b).isSome ∧ (template.object.resolve? b).isSome := by
    cases hs : template.subject.resolve? b <;> cases hp : template.predicate.resolve? b <;>
      cases ho : template.object.resolve? b <;> simp [TriplePattern.instantiate?, hs, hp, ho]
  simp only [places, PatternTerm.isSome_resolve?, mem_vars, or_imp, forall_and]

/-! ### Operations -/

theorem toSet_apply (g : Graph) (op : Operation) : (op.apply g).toSet = op.meaning g.toSet := by
  cases op with
  | insertData triples => exact Graph.toSet_insertMany
  | deleteData triples => exact Graph.toSet_eraseMany
  | deleteWhere patterns =>
    rw [Operation.meaning, instancesIn_toSet]
    exact Graph.toSet_eraseMany
  | modify delete insert patterns =>
    rw [Operation.meaning, instancesIn_toSet, instancesIn_toSet, ← Graph.toSet_eraseMany,
      ← Graph.toSet_insertMany]
    rfl
  | clear => exact Graph.toSet_empty

theorem toSet_applyAll (g : Graph) (ops : List Operation) :
    (applyAll g ops).toSet = ops.foldl Operation.meaning g.toSet := by
  induction ops generalizing g with
  | nil => rfl
  | cons op rest ih =>
    -- The rest of the operations finds what the first one has left.
    calc (applyAll (op.apply g) rest).toSet
      _ = rest.foldl Operation.meaning (op.apply g).toSet := ih _
      _ = rest.foldl Operation.meaning (op.meaning g.toSet) := by rw [toSet_apply]

/-- The engine in memory applies the operations of a text in their order, and its triples are then
those that the operations mean (`Operation.meaning`). Under a solution of the patterns, a template
becomes a triple exactly if the patterns have all its variables. The order in which the triples are
listed is of no consequence. -/
theorem update_means (g : Graph) (ops : List Operation) :
    (applyAll g ops).toSet = ops.foldl Operation.meaning g.toSet ∧
    (∀ text, Operation.parseList text = .ok ops →
      QueryEngine.update text (Memory.mk g) = (.given (.ok ()), ⟨applyAll g ops⟩)) ∧
    (∀ G patterns b (template : TriplePattern), IsSolution G patterns b →
      ((template.instantiate? b).isSome ↔
        ∀ name ∈ template.vars, ∃ p ∈ patterns, name ∈ p.vars)) ∧
    ∀ h : Graph, h.toSet = g.toSet → (applyAll h ops).toSet = (applyAll g ops).toSet := by
  refine ⟨toSet_applyAll g ops, fun text read => ?_, fun G patterns b template solution => ?_,
    fun h same => ?_⟩
  · change ((Memory.mk g).update text).map _ _ = _
    rw [Memory.update, Graph.update_of_parse read]
    rfl
  · rw [isSome_instantiate?]
    simp only [solution.bound]
  · rw [toSet_applyAll, toSet_applyAll, same]

/-- Two things that point at each other, and one of them at a third one. -/
def pointers : Graph where
  triples := [("a", "b"), ("b", "a"), ("b", "c")].map fun (one, other) =>
    ⟨.iri one, .iri "to", .iri other⟩
  nodup := by decide

/-- Turns all pointers around. One template has a variable that has no term. -/
def turnsAround : String :=
  "DELETE \x7b ?x <to> ?y \x7d INSERT \x7b ?y <to> ?x . ?y <from> ?z \x7d WHERE \x7b ?x <to> ?y \x7d"

/-- What `turnsAround` spells. -/
def turning : Operation :=
  .modify [⟨.var "x", .term (.iri "to"), .var "y"⟩]
    [⟨.var "y", .term (.iri "to"), .var "x"⟩, ⟨.var "y", .term (.iri "from"), .var "z"⟩]
    [⟨.var "x", .term (.iri "to"), .var "y"⟩]

/-- Of the `pointers`, the two that point at each other stay, since what is added wins, and nothing
comes of the template with the variable that has no term. -/
theorem update_means_turningAround :
    Operation.parseList turnsAround = .ok [turning] ∧
      QueryEngine.update turnsAround (Memory.mk pointers) =
        (.given (.ok ()), ⟨applyAll pointers [turning]⟩) ∧
      (applyAll pointers [turning]).toSet = turning.meaning pointers.toSet ∧
      (applyAll pointers [turning]).triples.Perm
        ([("a", "b"), ("b", "a"), ("c", "b")].map fun (one, other) =>
          ⟨.iri one, .iri "to", .iri other⟩) := by
  have read : Operation.parseList turnsAround = .ok [turning] :=
    ok_of_toOption (by decide +kernel)
  obtain ⟨meaning, applied, -, -⟩ := update_means pointers [turning]
  exact ⟨read, applied turnsAround read, meaning, by decide +kernel⟩

end Sparql

end GraphBroker
