import GraphBroker.Rdf.Term

/-!
# Graphs

A graph is a set of triples. It is kept as a list without repeats; the order of
the list is that in which the triples came and means nothing.

## Main definitions

* `Triple`, `Graph`.
* `Graph.insert`, `Graph.erase` and their forms for lists of triples.
-/

namespace GraphBroker

/-- A triple of terms. -/
structure Triple where
  /-- The subject. -/
  subject : Term
  /-- The predicate. -/
  predicate : Term
  /-- The object. -/
  object : Term
deriving DecidableEq, Repr, Inhabited

/-- A set of triples. -/
structure Graph where
  /-- The triples in the order in which they came. -/
  triples : List Triple
  /-- No triple is listed twice. -/
  nodup : triples.Nodup
deriving DecidableEq

namespace Graph

instance : EmptyCollection Graph := ⟨⟨[], List.nodup_nil⟩⟩

instance : Inhabited Graph := ⟨∅⟩

instance : Membership Triple Graph where
  mem g t := t ∈ g.triples

instance {t : Triple} {g : Graph} : Decidable (t ∈ g) :=
  inferInstanceAs (Decidable (t ∈ g.triples))

/-- The number of triples. -/
def size (g : Graph) : Nat := g.triples.length

/-- Whether there is no triple. -/
def isEmpty (g : Graph) : Bool := g.triples.isEmpty

/-- The graph with `t` in it. -/
def insert (g : Graph) (t : Triple) : Graph :=
  if h : t ∈ g.triples then g
  else ⟨t :: g.triples, List.nodup_cons.2 ⟨h, g.nodup⟩⟩

/-- The graph without `t`. -/
def erase (g : Graph) (t : Triple) : Graph :=
  ⟨g.triples.filter (· ≠ t), g.nodup.filter _⟩

/-- The graph with more triples. -/
def insertMany (g : Graph) (ts : List Triple) : Graph :=
  ts.foldl insert g

/-- The graph without some triples. -/
def eraseMany (g : Graph) (ts : List Triple) : Graph :=
  ts.foldl erase g

theorem mem_def {t : Triple} {g : Graph} : t ∈ g ↔ t ∈ g.triples := Iff.rfl

@[simp] theorem mem_empty {t : Triple} : t ∉ (∅ : Graph) :=
  List.not_mem_nil

@[simp] theorem mem_insert {s t : Triple} {g : Graph} : s ∈ g.insert t ↔ s = t ∨ s ∈ g := by
  simp only [mem_def, insert]
  split
  · rename_i h
    exact ⟨Or.inr, fun hs => hs.elim (fun he => he ▸ h) id⟩
  · exact List.mem_cons

@[simp] theorem mem_erase {s t : Triple} {g : Graph} : s ∈ g.erase t ↔ s ∈ g ∧ s ≠ t := by
  simp [mem_def, erase]

@[simp] theorem mem_insertMany {s : Triple} {ts : List Triple} {g : Graph} :
    s ∈ g.insertMany ts ↔ s ∈ ts ∨ s ∈ g := by
  induction ts generalizing g with
  | nil => simp [insertMany]
  | cons t ts ih =>
    rw [insertMany, List.foldl_cons, ← insertMany, ih, mem_insert, List.mem_cons]
    grind

@[simp] theorem mem_eraseMany {s : Triple} {ts : List Triple} {g : Graph} :
    s ∈ g.eraseMany ts ↔ s ∈ g ∧ s ∉ ts := by
  induction ts generalizing g with
  | nil => simp [eraseMany]
  | cons t ts ih =>
    rw [eraseMany, List.foldl_cons, ← eraseMany, ih, mem_erase, List.mem_cons]
    grind

end Graph

end GraphBroker
