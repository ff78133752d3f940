import GraphBroker.Proofs.Sparql.Solutions
import Mathlib.Data.List.Nodup

/-!
# Each solution is found once

Matching the patterns one after another lists every solution exactly once: a binding and a triple
by which it is extended are known again from the binding that they give. So the list of solutions
is the same up to its order, whichever way the triples and the patterns are ordered.

## Main definitions

* `Sparql.Uniform`: bindings of the same variables, each listed once.

## Main statements

* `nodup_solve`: no solution is listed twice.
* `each_solution_once`: what is listed, how often, and on what it depends.
-/

namespace GraphBroker

/-- If `a` and `b` are bindings of the same variables and `c` extends both, they are the same. -/
theorem Binding.Extends.eq_of_uniform {a b c : Binding} (first : c.Extends a)
    (second : c.Extends b) (uniform : ∀ name, (a.get? name).isSome ↔ (b.get? name).isSome) :
    a = b := by
  have more : a.Extends b := by
    intro name t given
    obtain ⟨s, same⟩ := Option.isSome_iff_exists.1 ((uniform name).2 (by rw [given]; rfl))
    -- The binding that extends both has one term for each variable.
    rw [same, ← first name s same, second name t given]
  exact more.eq_of_forall_isSome fun name => (uniform name).1

namespace Sparql

variable {g h : Graph} {patterns patterns' : List TriplePattern} {p : TriplePattern}
  {solutions : List Binding} {a b : Binding} {t t' : Triple}

/-- Bindings of the same variables, each listed once. -/
structure Uniform (solutions : List Binding) : Prop where
  /-- Each is listed once. -/
  nodup : solutions.Nodup
  /-- All give terms to the same variables. -/
  bound : ∀ a ∈ solutions, ∀ b ∈ solutions, ∀ name, (a.get? name).isSome ↔ (b.get? name).isSome

/-- The triple by which a binding was extended is known from the result `b`. -/
theorem eq_of_match? (found : p.match? t a = some b) (found' : p.match? t' a = some b) :
    t = t' := by
  obtain ⟨-, given, -⟩ := TriplePattern.of_match? found
  obtain ⟨-, given', -⟩ := TriplePattern.of_match? found'
  exact Option.some.inj (given.symm.trans given')

/-- One more pattern `p` extends different bindings differently. -/
theorem Uniform.extend (uniform : Uniform solutions) : Uniform (extend g solutions p) where
  nodup := by
    rw [Sparql.extend, List.nodup_flatMap]
    constructor
    · intro a _
      exact g.nodup.filterMap fun t t' b found found' => eq_of_match? found found'
    · refine uniform.nodup.imp_of_mem fun {a a'} listed listed' different => ?_
      intro b found found'
      obtain ⟨t, -, extended⟩ := List.mem_filterMap.1 found
      obtain ⟨t', -, extended'⟩ := List.mem_filterMap.1 found'
      -- Both were extended to the same binding, so they were the same before.
      apply different
      exact (TriplePattern.of_match? extended).1.eq_of_uniform
        (TriplePattern.of_match? extended').1 (uniform.bound a listed a' listed')
  bound b found b' found' name := by
    obtain ⟨a, listed, t, -, extended⟩ := mem_extend.1 found
    obtain ⟨a', listed', t', -, extended'⟩ := mem_extend.1 found'
    rw [(TriplePattern.of_match? extended).2.2, (TriplePattern.of_match? extended').2.2,
      uniform.bound a listed a' listed']

theorem Uniform.foldl_extend (uniform : Uniform solutions) (patterns : List TriplePattern) :
    Uniform (patterns.foldl (Sparql.extend g) solutions) := by
  induction patterns generalizing solutions with
  | nil => exact uniform
  | cons p rest ih => exact ih uniform.extend

/-- The binding `b` with which matching starts. -/
theorem Uniform.singleton (b : Binding) : Uniform [b] where
  nodup := List.nodup_singleton b
  bound a listed a' listed' name := by
    rw [List.mem_singleton.1 listed, List.mem_singleton.1 listed']

/-- No solution of `patterns` is listed twice. -/
theorem nodup_solve (g : Graph) (patterns : List TriplePattern) : (solve g patterns).Nodup :=
  ((Uniform.singleton ∅).foldl_extend patterns).nodup

theorem Solves.of_perm (perm : patterns.Perm patterns') (solves : Solves g patterns b) :
    Solves g patterns' b where
  bound name := by
    rw [solves.bound, mem_patternVars, mem_patternVars]
    simp only [perm.mem_iff]
  holds p listed := solves.holds p (perm.mem_iff.2 listed)

/-- A binding `b` is listed once if it gives terms to exactly the variables of `patterns` and turns
each of them into a triple of `g`, and otherwise it is not listed. What is listed depends neither on
the order of the triples nor on that of the patterns. -/
theorem each_solution_once (g : Graph) (patterns : List TriplePattern) :
    (∀ b, b ∈ solve g patterns ↔
      (∀ name, (b.get? name).isSome ↔ ∃ p ∈ patterns, .var name ∈ p.places) ∧
        ∀ p ∈ patterns, ∃ t ∈ g, p.instantiate? b = some t) ∧
    (∀ b ∈ solve g patterns, (solve g patterns).count b = 1) ∧
    ∀ (h : Graph) (patterns' : List TriplePattern), (∀ t, t ∈ g ↔ t ∈ h) →
      patterns.Perm patterns' → (solve g patterns).Perm (solve h patterns') := by
  refine ⟨fun b => ?_, fun b found => ?_, fun h patterns' same perm => ?_⟩
  · have places (p : TriplePattern) (name : String) : name ∈ p.vars ↔ .var name ∈ p.places := by
      rw [TriplePattern.vars, List.mem_filterMap]
      constructor
      · rintro ⟨_ | other, listed, ⟨⟩⟩
        exact listed
      · intro listed
        exact ⟨_, listed, rfl⟩
    simp only [mem_solve, ← places, ← mem_patternVars]
    constructor
    · intro solves
      exact ⟨solves.bound, solves.holds⟩
    · rintro ⟨bound, holds⟩
      exact ⟨bound, holds⟩
  · exact List.count_eq_one_of_mem (nodup_solve g patterns) found
  · rw [List.perm_ext_iff_of_nodup (nodup_solve ..) (nodup_solve ..)]
    intro b
    rw [mem_solve, mem_solve]
    constructor
    · intro solves
      exact (solves.of_same_triples same).of_perm perm
    · intro solves
      exact (solves.of_same_triples fun t => (same t).symm).of_perm perm.symm

/-- Who knows whom: one knows a second one, who knows both a third one and himself. -/
def acquaintances : Graph where
  triples := [("a", "b"), ("b", "c"), ("b", "b")].map fun (one, other) =>
    ⟨.iri one, .iri "knows", .iri other⟩
  nodup := by decide

/-- Who knows someone who knows someone. -/
def twoSteps : List TriplePattern :=
  [⟨.var "x", .term (.iri "knows"), .var "y"⟩, ⟨.var "y", .term (.iri "knows"), .var "z"⟩]

/-- The four solutions of `twoSteps` are found whichever way one begins. -/
theorem each_solution_once_reversed :
    (∀ t, t ∈ acquaintances ↔ t ∈ acquaintances.triples.reverse) ∧
      twoSteps.Perm twoSteps.reverse ∧
      (solve acquaintances twoSteps).Perm
        (solve ⟨acquaintances.triples.reverse, List.nodup_reverse.2 acquaintances.nodup⟩
          twoSteps.reverse) ∧
      (solve acquaintances twoSteps).length = 4 := by
  have same : ∀ t, t ∈ acquaintances ↔ t ∈ acquaintances.triples.reverse :=
    fun t => List.mem_reverse.symm
  have perm : twoSteps.Perm twoSteps.reverse := twoSteps.reverse_perm.symm
  obtain ⟨-, -, regardless⟩ := each_solution_once acquaintances twoSteps
  exact ⟨same, perm, regardless _ _ same perm, by decide +kernel⟩

end Sparql

end GraphBroker
