import GraphBroker.Rdf.Term

/-!
# Solution bindings

A binding gives terms to finitely many variables. Bindings are listed by their
entries, sorted by variable name.

## Main definitions

* `Binding`: a finite map from variable names to terms.
* `Binding.project`: the binding on some of its variables.
* `Binding.order`: lexicographic on the entries; a proper initial part comes first.
-/

namespace GraphBroker

open Std

/-- A finite map from variable names to terms. -/
structure Binding where
  /-- The terms by name. -/
  terms : ExtTreeMap String Term
deriving DecidableEq

namespace Binding

/-- The binding of no variable. -/
def empty : Binding := ⟨∅⟩

instance : EmptyCollection Binding := ⟨empty⟩

instance : Inhabited Binding := ⟨∅⟩

/-- The term of the variable `name`. -/
def get? (b : Binding) (name : String) : Option Term :=
  b.terms[name]?

/-- The binding with `term` given to the variable `name`. -/
def insert (b : Binding) (name : String) (term : Term) : Binding :=
  ⟨b.terms.insert name term⟩

/-- The entries sorted by name. -/
def toList (b : Binding) : List (String × Term) :=
  b.terms.toList

/-- The binding with the given `entries`, of which a later one replaces an earlier one. -/
def ofList (entries : List (String × Term)) : Binding :=
  entries.foldl (fun b entry => b.insert entry.1 entry.2) ∅

/-- The number of variables bound. -/
def size (b : Binding) : Nat :=
  b.terms.size

/-- Whether no variable is bound. -/
def isEmpty (b : Binding) : Bool :=
  b.terms.isEmpty

/-- The binding on the variables `names` only. -/
def project (b : Binding) (names : List String) : Binding :=
  ⟨b.terms.filter fun name _ => names.contains name⟩

/-! ### Two bindings are equal when they give the same terms -/

@[ext] theorem ext {a b : Binding} (h : ∀ name, a.get? name = b.get? name) : a = b := by
  cases a; cases b
  exact congrArg mk (ExtTreeMap.ext_getElem? h)

@[simp] theorem get?_empty {name : String} : (∅ : Binding).get? name = none :=
  ExtTreeMap.getElem?_empty

theorem get?_insert {b : Binding} {name other : String} {term : Term} :
    (b.insert name term).get? other = if name = other then some term else b.get? other := by
  simp only [get?, insert, ExtTreeMap.getElem?_insert, LawfulEqCmp.compare_eq_iff_eq]

theorem get?_project {b : Binding} {names : List String} {name : String} :
    (b.project names).get? name = if name ∈ names then b.get? name else none := by
  simp only [get?, project, ExtTreeMap.getElem?_filter']
  by_cases h : name ∈ names <;> cases b.terms[name]? <;> simp [h]

theorem mem_toList_iff {b : Binding} {name : String} {term : Term} :
    (name, term) ∈ b.toList ↔ b.get? name = some term :=
  ExtTreeMap.mem_toList_iff_getElem?_eq_some

/-! ### Order -/

/-- Entries by name, then by term. -/
def entryOrder : String × Term → String × Term → Ordering :=
  compareLex (compareOn Prod.fst) (compareOn Prod.snd)

instance : TransCmp entryOrder :=
  inferInstanceAs (TransCmp (compareLex (compareOn Prod.fst) (compareOn Prod.snd)))

instance : LawfulEqCmp entryOrder where
  eq_of_compare {e f} h := by
    obtain ⟨hn, ht⟩ := compareLex_eq_eq.1 h
    exact Prod.ext (Std.compare_eq_iff_eq.1 hn) (Std.compare_eq_iff_eq.1 ht)

/-- Lexicographic on the entries. -/
def order (a b : Binding) : Ordering :=
  List.compareLex entryOrder a.toList b.toList

instance : Ord Binding := ⟨order⟩

theorem transCmp_entries : TransCmp (List.compareLex entryOrder) := inferInstance

theorem lawfulEqCmp_entries : LawfulEqCmp (List.compareLex entryOrder) := inferInstance

instance : TransOrd Binding where
  eq_swap := transCmp_entries.eq_swap
  isLE_trans := transCmp_entries.isLE_trans

instance : LawfulEqOrd Binding where
  eq_of_compare {a b} h := by
    have hl : a.toList = b.toList := lawfulEqCmp_entries.eq_of_compare h
    cases a; cases b
    exact congrArg mk (ExtTreeMap.toList_inj.1 hl)

end Binding

end GraphBroker
