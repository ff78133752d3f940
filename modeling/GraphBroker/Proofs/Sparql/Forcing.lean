import GraphBroker.Proofs.Engine.InMemory
import GraphBroker.Proofs.Sparql.Solutions
import GraphBroker.Proofs.Sparql.Substitution

/-!
# What forcing variables selects

A solution of a query with forced variables is a solution of the query that has their terms,
without them. So an engine that is given the text of a query and some forced variables finds
what it would have found without them, as far as it has these terms, on the variables left.

## Main definitions

* `Binding.Compatible`: bindings that do not give different terms to a variable.
* `Query.remaining`: the variables that are left to ask for.

## Main statements

* `solves_force`: the solutions of patterns with forced variables.
* `execute_print`: the result of a printed query with forced variables.
-/

namespace GraphBroker

/-- No variable has different terms in `a` and `b`. -/
def Binding.Compatible (a b : Binding) : Prop :=
  ∀ name s t, a.get? name = some s → b.get? name = some t → s = t

/-- Every `choice` of terms for finitely many variables is a binding. -/
theorem Binding.exists_get?_eq (names : List String) (choice : String → Option Term) :
    ∃ b : Binding, ∀ name, b.get? name = if name ∈ names then choice name else none := by
  induction names with
  | nil => exact ⟨∅, fun name => by simp⟩
  | cons first rest ih =>
    obtain ⟨b, given⟩ := ih
    cases chosen : choice first with
    | some t =>
      refine ⟨b.insert first t, fun name => ?_⟩
      rw [get?_insert, given]
      by_cases same : first = name
      · subst name
        simp [chosen]
      · simp [same, Ne.symm same]
    | none =>
      refine ⟨b, fun name => ?_⟩
      rw [given]
      by_cases same : first = name
      · subst name
        simp [chosen]
      · simp [Ne.symm same]

namespace Sparql

variable {g : Graph} {b σ τ : Binding} {q : Query} {patterns : List TriplePattern}
  {p : TriplePattern} {place : PatternTerm} {name : String}

/-! ### Variables -/

theorem isFree_iff : isFree b name ↔ b.get? name = none :=
  Option.isNone_iff_eq_none

theorem var?_force : (place.force b).var? = place.var?.filter (isFree b) := by
  cases place with
  | term t => rfl
  | var name =>
    rw [PatternTerm.force, PatternTerm.var?, Option.filter_some, isFree]
    cases b.get? name <;> rfl

theorem vars_force : (p.force b).vars = p.vars.filter (isFree b) := by
  rw [TriplePattern.vars, TriplePattern.vars, places_force, List.filterMap_map,
    List.filter_filterMap]
  exact congrArg (List.filterMap · p.places) (funext fun place => var?_force)

/-- Listing `names` without repetition goes along with leaving some out. -/
theorem foldl_filter (free : String → Bool) (names seen : List String) :
    (names.filter free).foldl (fun seen name => if seen.contains name then seen else seen ++ [name])
        (seen.filter free) =
      (names.foldl (fun seen name => if seen.contains name then seen else seen ++ [name])
        seen).filter free := by
  induction names generalizing seen with
  | nil => rfl
  | cons name names ih =>
    rw [List.foldl_cons, ← ih, List.filter_cons]
    cases kept : free name with
    | true =>
      have same : (seen.filter free).contains name = seen.contains name := by
        rw [Bool.eq_iff_iff, List.contains_iff_mem, List.contains_iff_mem, List.mem_filter,
          and_iff_left kept]
      rw [if_pos rfl, List.foldl_cons, same]
      congr 1
      split
      · rfl
      · rw [List.filter_append, List.filter_cons_of_pos kept, List.filter_nil]
    | false =>
      rw [if_neg Bool.false_ne_true]
      congr 1
      split
      · rfl
      · rw [List.filter_append, List.filter_cons_of_neg (by simp [kept]), List.filter_nil,
          List.append_nil]

/-- The variables of `patterns` with the variables of `b` forced are those left free. -/
theorem patternVars_force :
    patternVars (patterns.map (·.force b)) = (patternVars patterns).filter (isFree b) := by
  have all : (patterns.map (·.force b)).flatMap TriplePattern.vars =
      (patterns.flatMap TriplePattern.vars).filter (isFree b) := by
    rw [List.flatMap_map, List.filter_flatMap]
    exact congrArg patterns.flatMap (funext fun p => vars_force)
  rw [patternVars, patternVars, all]
  exact foldl_filter (isFree b) _ []

/-- The variables of `q` that are left to ask for: those asked for that `b` leaves free, or all free
ones. -/
def Query.remaining (b : Binding) (q : Query) : List String :=
  (forceProjection b q.projection).getD ((patternVars q.pattern).filter (isFree b))

theorem variables_force : (q.force b).variables = q.remaining b := by
  rw [Query.variables, Query.force, patternVars_force, Query.remaining]

theorem isFree_of_mem_remaining (listed : name ∈ q.remaining b) : isFree b name := by
  rw [Query.remaining] at listed
  cases asked : forceProjection b q.projection with
  | none =>
    rw [asked] at listed
    exact (List.mem_filter.1 listed).2
  | some names =>
    rw [asked] at listed
    obtain ⟨given, -⟩ := Option.filter_eq_some_iff.1 asked
    obtain ⟨all, -, rfl⟩ := Option.map_eq_some_iff.1 given
    exact (List.mem_filter.1 listed).2

/-! ### Solutions -/

/-- A place has the same term when its variable is forced by `b` and when it is given it by `σ`. -/
theorem resolve?_force (same : ∀ name ∈ place.var?, σ.get? name = (b.get? name).or (τ.get? name)) :
    (place.force b).resolve? τ = place.resolve? σ := by
  cases place with
  | term t => rfl
  | var name =>
    rw [PatternTerm.resolve?, same name rfl, PatternTerm.force]
    cases b.get? name <;> rfl

theorem instantiate?_force
    (same : ∀ name ∈ p.vars, σ.get? name = (b.get? name).or (τ.get? name)) :
    (p.force b).instantiate? τ = p.instantiate? σ := by
  have place (place : PatternTerm) (listed : place ∈ p.places) :
      (place.force b).resolve? τ = place.resolve? σ :=
    resolve?_force fun name stands => same name (List.mem_filterMap.2 ⟨place, listed, stands⟩)
  have subject := place p.subject (by simp [TriplePattern.places])
  have predicate := place p.predicate (by simp [TriplePattern.places])
  have object := place p.object (by simp [TriplePattern.places])
  rw [TriplePattern.instantiate?, TriplePattern.force, subject, predicate, object]
  rfl

/-- What holds of `patterns` with forced variables under `τ` holds of the patterns under `σ`, which
gives the forced terms too. -/
theorem holds_force (same : ∀ name ∈ patternVars patterns,
      σ.get? name = (b.get? name).or (τ.get? name)) :
    (∀ p ∈ patterns.map (·.force b), ∃ triple ∈ g, p.instantiate? τ = some triple) ↔
      ∀ p ∈ patterns, ∃ triple ∈ g, p.instantiate? σ = some triple := by
  rw [List.forall_mem_map]
  refine forall₂_congr fun p listed => ?_
  rw [instantiate?_force fun name inside => same name (mem_patternVars.2 ⟨p, listed, inside⟩)]

/-- A solution `τ` of `patterns` with forced variables, with the forced terms. -/
theorem Solves.exists_of_force (solves : Solves g (patterns.map (·.force b)) τ) :
    ∃ σ, Solves g patterns σ ∧ σ.Compatible b ∧
      σ.project ((patternVars patterns).filter (isFree b)) = τ := by
  -- The forced terms are taken only of variables of the patterns.
  obtain ⟨σ, given⟩ := Binding.exists_get?_eq (patternVars patterns) fun name =>
    (b.get? name).or (τ.get? name)
  have same : ∀ name ∈ patternVars patterns, σ.get? name = (b.get? name).or (τ.get? name) :=
    fun name listed => (given name).trans (if_pos listed)
  have bound (name : String) :
      (τ.get? name).isSome ↔ name ∈ patternVars patterns ∧ isFree b name := by
    rw [solves.bound, patternVars_force, List.mem_filter]
  refine ⟨σ, ⟨fun name => ?_, (holds_force same).1 solves.holds⟩, ?_, ?_⟩
  · rw [given]
    split
    · rename_i listed
      rw [Option.isSome_or, Bool.or_eq_true, bound, isFree, iff_true_right listed]
      cases b.get? name <;> simp [listed]
    · rename_i absent
      simp [absent]
  · intro name s t first second
    rw [given] at first
    split at first
    · rw [second] at first
      exact (Option.some.inj first).symm
    · cases first
  · ext1 name
    rw [Binding.get?_project]
    split
    · rename_i kept
      obtain ⟨listed, free⟩ := List.mem_filter.1 kept
      rw [same name listed, isFree_iff.1 free, Option.none_or]
    · rename_i dropped
      rw [List.mem_filter, ← bound, Option.not_isSome_iff_eq_none] at dropped
      exact dropped.symm

/-- A compatible solution `σ` of `patterns`, without the forced variables. -/
theorem Solves.force (solves : Solves g patterns σ) (compatible : σ.Compatible b) :
    Solves g (patterns.map (·.force b))
      (σ.project ((patternVars patterns).filter (isFree b))) := by
  refine ⟨fun name => ?_, (holds_force fun name listed => ?_).2 solves.holds⟩
  · rw [Binding.get?_project, patternVars_force]
    split
    · rename_i kept
      rw [solves.bound, iff_true_right kept]
      exact (List.mem_filter.1 kept).1
    · rename_i dropped
      simp [dropped]
  · obtain ⟨s, given⟩ := Option.isSome_iff_exists.1 ((solves.bound name).2 listed)
    cases forced : b.get? name with
    | some t => rw [given, compatible name s t given forced, Option.some_or]
    | none =>
      rw [Option.none_or, Binding.get?_project,
        if_pos (List.mem_filter.2 ⟨listed, isFree_iff.2 forced⟩)]

/-- The solutions of `patterns` with the variables of `b` forced are the solutions of `patterns`
that are `Compatible` with `b`, on the variables left free. -/
theorem solves_force : Solves g (patterns.map (·.force b)) τ ↔
    ∃ σ, Solves g patterns σ ∧ σ.Compatible b ∧
      σ.project ((patternVars patterns).filter (isFree b)) = τ := by
  refine ⟨Solves.exists_of_force, ?_⟩
  rintro ⟨σ, solves, compatible, rfl⟩
  exact solves.force compatible

/-! ### Results -/

/-- Leaving out what `q` does not ask for in two steps. -/
theorem project_project_remaining (solves : Solves g q.pattern σ) :
    (σ.project ((patternVars q.pattern).filter (isFree b))).project (q.remaining b) =
      σ.project (q.remaining b) := by
  ext1 name
  rw [Binding.get?_project, Binding.get?_project, Binding.get?_project]
  split
  · rename_i listed
    split
    · rfl
    · rename_i dropped
      have unbound := mt (solves.bound name).1 fun listed' =>
        dropped (List.mem_filter.2 ⟨listed', isFree_of_mem_remaining listed⟩)
      exact (Option.not_isSome_iff_eq_none.1 unbound).symm
  · rfl

/-- The rows of `q` with the variables of `b` forced are its compatible solutions on the variables
left. -/
theorem mem_select_force {row : Binding} (unlimited : q.limit = none) :
    row ∈ (q.force b).select g ↔
      ∃ σ, Solves g q.pattern σ ∧ σ.Compatible b ∧ σ.project (q.remaining b) = row := by
  have unlimited' : (q.force b).limit = none := unlimited
  rw [mem_select unlimited', variables_force]
  constructor
  · rintro ⟨τ, solves, rfl⟩
    obtain ⟨σ, whole, compatible, rfl⟩ := solves_force.1 solves
    exact ⟨σ, whole, compatible, (project_project_remaining whole).symm⟩
  · rintro ⟨σ, solves, compatible, rfl⟩
    exact ⟨_, solves.force compatible, project_project_remaining solves⟩

/-- An engine in memory reads the text of `q` with the variables of `b` forced as the query with
their terms in the patterns (`Query.force`), and finds the solutions that have these terms, on the
variables left. -/
theorem execute_print (wf : q.wellFormed) (scannable : q.scannable)
    (terms : ∀ name t, b.get? name = some t → t.wellFormed) :
    Query.parse (Pattern.render ⟨q.print, b⟩) = .ok (q.force b) ∧
      (q.limit = none → ∀ g : Graph, ∃ results : ResultSet,
        QueryEngine.execute ⟨q.print, b⟩ (Memory.mk g) = (.given (.ok results), ⟨g⟩) ∧
        results.vars = q.remaining b ∧
        ∀ row, row ∈ results ↔
          ∃ σ, Solves g q.pattern σ ∧ σ.Compatible b ∧ σ.project (q.remaining b) = row) := by
  have read := parse_render wf scannable terms
  refine ⟨read, fun unlimited g => ⟨(q.force b).select g, ?_, ?_, fun row => ?_⟩⟩
  · exact congrArg (fun answer => (Answer.given answer, Memory.mk g)) (Graph.execute_of_parse read)
  · rw [vars_select, variables_force]
  · exact mem_select_force unlimited

/-- What a subject is said to be by two properties, one of them quoting a variable. -/
def described : Query where
  projection := some ["s", "v"]
  pattern := [⟨.var "s", .term (.iri "p"), .var "v"⟩,
    ⟨.var "s", .term (.iri "q"), .term (.literal "\"?s" none none)⟩]
  limit := none

/-- The subject that is asked about. -/
def forcedSubject : Binding := (∅ : Binding).insert "s" (.iri "x")

/-- The subject of `described` is replaced where it stands for a variable and not where it is
quoted. -/
theorem execute_print_described :
    Query.parse (Pattern.render ⟨described.print, forcedSubject⟩) =
        .ok ⟨some ["v"], [⟨.term (.iri "x"), .term (.iri "p"), .var "v"⟩,
          ⟨.term (.iri "x"), .term (.iri "q"), .term (.literal "\"?s" none none)⟩], none⟩ ∧
      ∀ g : Graph, ∃ results : ResultSet,
        QueryEngine.execute ⟨described.print, forcedSubject⟩ (Memory.mk g) =
          (.given (.ok results), ⟨g⟩) ∧
        results.vars = ["v"] ∧ ∀ row, row ∈ results ↔ ∃ σ, Solves g described.pattern σ ∧
          σ.Compatible forcedSubject ∧ σ.project ["v"] = row := by
  have terms : ∀ name t, forcedSubject.get? name = some t → t.wellFormed := by
    intro name t given
    rw [forcedSubject, Binding.get?_insert] at given
    split at given
    · cases given
      decide
    · cases given
  have left : described.remaining forcedSubject = ["v"] := by decide +kernel
  obtain ⟨read, run⟩ := execute_print (q := described) (by decide) (by decide) terms
  rw [left] at run
  exact ⟨read.trans (congrArg Except.ok (by decide +kernel)), run rfl⟩

end Sparql

end GraphBroker
