import GraphBroker.Proofs.Engine.InMemory
import GraphBroker.Proofs.Scheduler.Effect

/-!
# A scheduler over the engine in memory

The scheduler asks the engine without changing the graph. Only an update that has been
read changes it, and nothing that a scheduler does changes who may use it.

## Main definitions

* `Scheduler.graph`, `Scheduler.authority`: what the world of a scheduler keeps.

## Main statements

* `mem_found`: the results found in a round are those of the graph as it is.
* `holdings_of_world_eq`, `holdings_reevaluate`: what handing messages over leaves alone.
* `graph_applied`: an update that succeeds has been read and applied.
-/

namespace GraphBroker.Scheduler

variable {ω : Type} [Surroundings ω] [InMemory ω] {s : Scheduler ω} {sub : Subscription}
  {gate : GateId} {message : Message} {sparql : String}

/-- The graph of the engine of `s`. -/
def graph (s : Scheduler ω) : Graph := InMemory.graph s.world

/-- Who may use the broker. -/
def authority (s : Scheduler ω) : Authority := InMemory.authority s.world

/-- What the world keeps, whatever gates are told. -/
def holdings (s : Scheduler ω) : Graph × Authority := (s.graph, s.authority)

/-! ### Asking -/

theorem execute_eq (pattern : Sparql.Pattern) :
    s.execute pattern = (s.graph.execute pattern, s) := by
  rw [execute, InMemory.execute_eq]
  rfl

theorem query_eq (pattern : Sparql.Pattern) (authorization : Option String) :
    (s.query pattern authorization).2 = s := by
  obtain ⟨fault, refused⟩ | asked := s.query_cases pattern authorization
  · rw [refused]
  · rw [asked, execute_eq]

theorem evaluate_eq (subs : List Subscription) :
    s.evaluate subs = (subs.map fun sub => (sub, s.graph.execute sub.pattern), s) := by
  induction subs with
  | nil => rfl
  | cons sub rest ih => rw [evaluate_cons, execute_eq, ih, List.map_cons]

theorem asked_eq : s.asked = s := by
  rw [asked, evaluate_eq]

/-- Every subscription `sub` of the table is asked for in the graph as it is. -/
theorem mem_found {outcome : Outcome ResultSet} : (sub, outcome) ∈ s.found ↔
    sub ∈ s.table.snapshot ∧ s.graph.execute sub.pattern = outcome := by
  rw [found, evaluate_eq, List.mem_map, ← (Surroundings.arrange_perm s.world _).mem_iff]
  constructor
  · rintro ⟨other, listed, same⟩
    cases same
    exact ⟨listed, rfl⟩
  · rintro ⟨listed, rfl⟩
    exact ⟨sub, listed, rfl⟩

/-! ### Handing messages over -/

theorem holdings_of_world_eq {s' : Scheduler ω}
    (told : s'.world = (Surroundings.dispatch gate message s.world).2) :
    s'.holdings = s.holdings := by
  simp only [holdings, graph, authority, InMemory.graph, told, InMemory.engine_dispatch,
    InMemory.authority_dispatch]

theorem holdings_tellIfFound (entry : Subscription × Outcome ResultSet) :
    (s.tellIfFound entry).holdings = s.holdings := by
  obtain ⟨sub, fault | results⟩ := entry
  · rfl
  · by_cases same : sub.last.Agrees results
    · rw [tellIfFound_ok, tell_of_agrees same]
    · exact holdings_of_world_eq (tell_of_not_agrees same).2

theorem holdings_reevaluate : s.reevaluate.holdings = s.holdings := by
  rw [reevaluate_eq, asked_eq]
  generalize s.found = entries
  induction entries generalizing s with
  | nil => rfl
  | cons first rest ih => rw [List.foldl_cons, ih, holdings_tellIfFound]

/-! ### Updates -/

/-- An update `sparql` that the engine applies is read, and the graph is as it says. -/
theorem graph_applied (done : (Surroundings.update sparql s.world).1 = .ok ()) :
    s.graph.update sparql = .ok (s.applied sparql).graph := by
  obtain ⟨operations, read, -, graph⟩ | ⟨e, -, failed, -⟩ :=
    InMemory.update_cases sparql s.world
  · rw [Graph.update_of_parse read]
    exact congrArg Except.ok graph.symm
  · rw [done] at failed
    cases failed

/-- The update `sparql` fails in the engine if and only if it cannot be read. -/
theorem update_eq_error {fault : Fault} : (Surroundings.update sparql s.world).1 = .error fault ↔
    ∃ e, Sparql.Operation.parseList sparql = .error e ∧ e.toFault = fault := by
  obtain ⟨operations, read, done, -⟩ | ⟨e, read, failed, -⟩ := InMemory.update_cases sparql s.world
  · simp [read, done]
  · simp [read, failed]

theorem holdings_applied_of_error {fault : Fault}
    (failed : (Surroundings.update sparql s.world).1 = .error fault) :
    (s.applied sparql).holdings = s.holdings := by
  obtain ⟨operations, -, done, -⟩ | ⟨e, -, -, graph⟩ := InMemory.update_cases sparql s.world
  · rw [failed] at done
    cases done
  · exact Prod.ext graph (InMemory.authority_update sparql s.world)

end GraphBroker.Scheduler
