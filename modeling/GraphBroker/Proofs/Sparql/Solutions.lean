import GraphBroker.Sparql.Solve

/-!
# What the solutions of a list of patterns are

A solution gives terms to the variables of the patterns, and to no others, so that each
pattern becomes a triple of the graph. Matching the patterns one after another finds
exactly these bindings. What is found depends on the triples of the graph alone and not on
the order in which they are listed.

## Main definitions

* `Binding.Extends`: a binding that gives the terms of another one.
* `Sparql.Solves`: a solution of a list of patterns.

## Main statements

* `mem_solve`: matching finds exactly the solutions.
* `mem_select`: the rows of a query without a limit.
* `agrees_select`: they are the same on graphs with the same triples.
-/

namespace GraphBroker

/-- The binding `b` gives all the terms that `a` gives. -/
def Binding.Extends (b a : Binding) : Prop :=
  ∀ name t, a.get? name = some t → b.get? name = some t

namespace Binding.Extends

variable {a b c : Binding}

theorem refl : a.Extends a := fun _ _ given => given

theorem trans (second : c.Extends b) (first : b.Extends a) : c.Extends a :=
  fun name t given => second name t (first name t given)

theorem empty : a.Extends ∅ := fun name t given => by simp at given

theorem insert {name : String} {t : Term} (fresh : a.get? name = none) :
    (a.insert name t).Extends a := by
  intro other s given
  rw [get?_insert, if_neg, given]
  rintro rfl
  rw [fresh] at given
  cases given

/-- If `b` extends `a` and has terms for no other variables, it is `a`. -/
theorem eq_of_forall_isSome (extends' : b.Extends a)
    (bound : ∀ name, (b.get? name).isSome → (a.get? name).isSome) : b = a := by
  ext1 name
  cases given : a.get? name with
  | some t => exact extends' name t given
  | none =>
    have unbound := mt (bound name)
    rw [given] at unbound
    exact Option.not_isSome_iff_eq_none.1 (unbound nofun)

end Binding.Extends

namespace Sparql

variable {g h : Graph} {patterns : List TriplePattern} {p : TriplePattern} {place : PatternTerm}
  {a b c : Binding} {t : Term} {triple : Triple} {name : String}

/-! ### Variables -/

theorem mem_vars : name ∈ p.vars ↔ p.subject.var? = some name ∨ p.predicate.var? = some name ∨
    p.object.var? = some name := by
  simp [TriplePattern.vars, TriplePattern.places]

theorem mem_patternVars : name ∈ patternVars patterns ↔ ∃ p ∈ patterns, name ∈ p.vars := by
  rw [patternVars, ← List.mem_flatMap]
  generalize patterns.flatMap TriplePattern.vars = names
  -- The induction needs to know what has been seen before.
  suffices all : ∀ seen : List String, name ∈ names.foldl (fun seen name =>
      if seen.contains name then seen else seen ++ [name]) seen ↔ name ∈ seen ∨ name ∈ names by
    simpa using all []
  induction names with
  | nil => simp
  | cons first rest ih =>
    intro seen
    rw [List.foldl_cons, ih]
    grind

/-! ### Matching one place -/

theorem resolve?_mono (more : b.Extends a) (given : place.resolve? a = some t) :
    place.resolve? b = some t := by
  cases place with
  | term s => exact given
  | var name => exact more name t given

theorem PatternTerm.of_match? (found : place.match? t a = some b) :
    b.Extends a ∧ place.resolve? b = some t ∧
      ∀ name, (b.get? name).isSome ↔ (a.get? name).isSome ∨ place.var? = some name := by
  cases place with
  | term s =>
    simp only [match?] at found
    split at found <;> cases found
    rename_i same
    exact ⟨.refl, congrArg some same, by simp [var?]⟩
  | var name =>
    simp only [match?] at found
    split at found
    · rename_i given
      split at found <;> cases found
      rename_i same
      refine ⟨.refl, given.trans (congrArg some same), fun other => ?_⟩
      rw [or_iff_left_of_imp]
      rintro ⟨⟩
      rw [given, Option.isSome_some]
    · rename_i fresh
      cases found
      refine ⟨.insert fresh, ?_, fun other => ?_⟩
      · rw [resolve?, Binding.get?_insert, if_pos rfl]
      · rw [Binding.get?_insert, var?, Option.some.injEq]
        by_cases same : name = other <;> simp [same]

theorem PatternTerm.exists_match? (more : c.Extends a) (given : place.resolve? c = some t) :
    ∃ b, place.match? t a = some b ∧ c.Extends b := by
  cases place with
  | term s =>
    cases given
    exact ⟨a, if_pos rfl, more⟩
  | var name =>
    cases found : a.get? name with
    | some s =>
      obtain rfl : s = t := Option.some.inj ((more name s found).symm.trans given)
      exact ⟨a, by simp [match?, found], more⟩
    | none =>
      refine ⟨a.insert name t, by simp [match?, found], fun other s bound => ?_⟩
      rw [Binding.get?_insert] at bound
      split at bound
      · rename_i same
        cases bound
        rw [← same]
        exact given
      · exact more other s bound

/-! ### Matching a pattern -/

theorem TriplePattern.instantiate?_eq_some : p.instantiate? b = some triple ↔
    p.subject.resolve? b = some triple.subject ∧ p.predicate.resolve? b = some triple.predicate ∧
      p.object.resolve? b = some triple.object := by
  obtain ⟨s, r, o⟩ := triple
  cases hs : p.subject.resolve? b <;> cases hp : p.predicate.resolve? b <;>
    cases ho : p.object.resolve? b <;> simp [instantiate?, hs, hp, ho]

theorem instantiate?_mono (more : b.Extends a) (given : p.instantiate? a = some triple) :
    p.instantiate? b = some triple := by
  rw [TriplePattern.instantiate?_eq_some] at given ⊢
  exact ⟨resolve?_mono more given.1, resolve?_mono more given.2.1, resolve?_mono more given.2.2⟩

theorem TriplePattern.of_match? (found : p.match? triple a = some b) :
    b.Extends a ∧ p.instantiate? b = some triple ∧
      ∀ name, (b.get? name).isSome ↔ (a.get? name).isSome ∨ name ∈ p.vars := by
  obtain ⟨b₁, subject, found⟩ := Option.bind_eq_some_iff.1 found
  obtain ⟨b₂, predicate, object⟩ := Option.bind_eq_some_iff.1 found
  obtain ⟨more₁, given₁, bound₁⟩ := PatternTerm.of_match? subject
  obtain ⟨more₂, given₂, bound₂⟩ := PatternTerm.of_match? predicate
  obtain ⟨more₃, given₃, bound₃⟩ := PatternTerm.of_match? object
  refine ⟨more₃.trans (more₂.trans more₁), ?_, fun name => ?_⟩
  · rw [instantiate?_eq_some]
    exact ⟨resolve?_mono (more₃.trans more₂) given₁, resolve?_mono more₃ given₂, given₃⟩
  · rw [bound₃, bound₂, bound₁, mem_vars, or_assoc, or_assoc]

theorem TriplePattern.exists_match? (more : c.Extends a) (given : p.instantiate? c = some triple) :
    ∃ b, p.match? triple a = some b ∧ c.Extends b := by
  obtain ⟨subject, predicate, object⟩ := instantiate?_eq_some.1 given
  obtain ⟨b₁, found₁, more₁⟩ := PatternTerm.exists_match? more subject
  obtain ⟨b₂, found₂, more₂⟩ := PatternTerm.exists_match? more₁ predicate
  obtain ⟨b₃, found₃, more₃⟩ := PatternTerm.exists_match? more₂ object
  refine ⟨b₃, ?_, more₃⟩
  simp only [match?, found₁, found₂, found₃, Option.bind_eq_bind, Option.bind_some]

/-! ### Matching all patterns -/

/-- The binding `b` gives terms to the variables of `patterns` and to no others, and every pattern
becomes a triple of `g`. -/
structure Solves (g : Graph) (patterns : List TriplePattern) (b : Binding) : Prop where
  bound : ∀ name, (b.get? name).isSome ↔ name ∈ patternVars patterns
  holds : ∀ p ∈ patterns, ∃ triple ∈ g, p.instantiate? b = some triple

theorem mem_extend {solutions : List Binding} : b ∈ extend g solutions p ↔
    ∃ a ∈ solutions, ∃ triple ∈ g, p.match? triple a = some b := by
  simp only [extend, List.mem_flatMap, List.mem_filterMap, Graph.mem_def]

/-- What is found, here `b`, extends a binding of `solutions` and does what it should. -/
theorem of_mem_foldl_extend {solutions : List Binding}
    (found : b ∈ patterns.foldl (extend g) solutions) :
    ∃ a ∈ solutions, b.Extends a ∧ (∀ p ∈ patterns, ∃ triple ∈ g, p.instantiate? b = some triple) ∧
      ∀ name, (b.get? name).isSome ↔ (a.get? name).isSome ∨ ∃ p ∈ patterns, name ∈ p.vars := by
  induction patterns generalizing solutions with
  | nil =>
    refine ⟨b, found, .refl, ?_, fun name => ?_⟩
    · intro p listed
      cases listed
    · simp
  | cons p rest ih =>
    obtain ⟨c, extended, more, holds, bound⟩ := ih found
    obtain ⟨a, listed, triple, inGraph, matched⟩ := mem_extend.1 extended
    obtain ⟨first, given, boundFirst⟩ := TriplePattern.of_match? matched
    refine ⟨a, listed, more.trans first, ?_, fun name => ?_⟩
    · rw [List.forall_mem_cons]
      exact ⟨⟨triple, inGraph, instantiate?_mono more given⟩, holds⟩
    · rw [bound, boundFirst, or_assoc]
      simp only [List.mem_cons, or_and_right, exists_or, exists_eq_left]

/-- A binding `c` that does what it should extends one that is found. -/
theorem exists_mem_foldl_extend {solutions : List Binding} (listed : a ∈ solutions)
    (more : c.Extends a) (holds : ∀ p ∈ patterns, ∃ triple ∈ g, p.instantiate? c = some triple) :
    ∃ b ∈ patterns.foldl (extend g) solutions, c.Extends b := by
  induction patterns generalizing solutions a with
  | nil => exact ⟨a, listed, more⟩
  | cons p rest ih =>
    obtain ⟨⟨triple, inGraph, given⟩, later⟩ := List.forall_mem_cons.1 holds
    obtain ⟨b, matched, still⟩ := TriplePattern.exists_match? more given
    exact ih (mem_extend.2 ⟨a, listed, triple, inGraph, matched⟩) still later

/-- Matching finds exactly the bindings that `Solves` describes. -/
theorem mem_solve : b ∈ solve g patterns ↔ Solves g patterns b := by
  constructor
  · intro found
    obtain ⟨a, start, -, holds, bound⟩ := of_mem_foldl_extend found
    obtain rfl := List.mem_singleton.1 start
    refine ⟨fun name => ?_, holds⟩
    rw [bound, mem_patternVars]
    simp
  · intro solves
    obtain ⟨c, found, more⟩ :=
      exists_mem_foldl_extend (List.mem_singleton_self ∅) .empty solves.holds
    obtain ⟨a, start, -, -, bound⟩ := of_mem_foldl_extend found
    obtain rfl := List.mem_singleton.1 start
    -- Both give terms to the variables of the patterns and to no others.
    have same : b = c := more.eq_of_forall_isSome fun name given => by
      rw [solves.bound, mem_patternVars] at given
      exact (bound name).2 (.inr given)
    rw [same]
    exact found

theorem Solves.of_same_triples (same : ∀ triple, triple ∈ g ↔ triple ∈ h)
    (solves : Solves g patterns b) : Solves h patterns b := by
  refine ⟨solves.bound, fun p listed => ?_⟩
  obtain ⟨triple, inGraph, given⟩ := solves.holds p listed
  exact ⟨triple, (same triple).1 inGraph, given⟩

/-! ### The rows of a query -/

theorem mem_collect_none {r : ResultSet} {rows : List Binding} :
    b ∈ collect none r rows ↔ b ∈ r ∨ b ∈ rows := by
  induction rows generalizing r with
  | nil => simp [collect]
  | cons first rest ih =>
    simp only [collect, Option.any_none, Bool.false_eq_true, if_false, ih, ResultSet.mem_insert,
      List.mem_cons, eq_comm, or_assoc, or_left_comm]

/-- The rows of a query `q` without a limit are its solutions on the variables asked for. -/
theorem mem_select {q : Query} (unlimited : q.limit = none) :
    b ∈ q.select g ↔ ∃ solution, Solves g q.pattern solution ∧
      solution.project q.variables = b := by
  rw [Query.select, unlimited, mem_collect_none, or_iff_right ResultSet.mem_empty, List.mem_map]
  simp only [mem_solve]

theorem vars_collect {limit : Option Nat} {r : ResultSet} {rows : List Binding} :
    (collect limit r rows).vars = r.vars := by
  induction rows generalizing r with
  | nil => rfl
  | cons first rest ih =>
    rw [collect]
    split
    · rfl
    · exact ih

theorem vars_select {q : Query} : (q.select g).vars = q.variables := vars_collect

/-- Without a limit the rows of `q` depend on the triples of the graph alone. -/
theorem agrees_select {q : Query} (unlimited : q.limit = none)
    (same : ∀ triple, triple ∈ g ↔ triple ∈ h) : (q.select g).Agrees (q.select h) := by
  rw [ResultSet.agrees_iff]
  intro b
  rw [mem_select unlimited, mem_select unlimited]
  exact exists_congr fun solution => and_congr_left fun _ =>
    ⟨.of_same_triples same, .of_same_triples fun triple => (same triple).symm⟩

end Sparql

end GraphBroker
