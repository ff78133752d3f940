import GraphBroker.Broker.World
import GraphBroker.Engine.Memory
import GraphBroker.Proofs.Scheduler.Record

/-!
# Worlds with the engine in memory

A world whose engine keeps one graph in memory. It is asked without being changed, an
update changes it only if its text can be read, and handing messages to gates leaves it
alone. How gates answer is left open.

## Main definitions

* `InMemory`: such worlds, with the graph and the authority of each of their states.

## Main statements

* the world of a broker over the engine in memory is one, and so is any with a record.
-/

namespace GraphBroker

open Sparql

theorem ok_of_toOption {ε α : Type} {r : Except ε α} {value : α}
    (given : r.toOption = some value) : r = .ok value := by
  cases r with
  | ok other => exact congrArg Except.ok (Option.some.inj given)
  | error e => cases given

/-! ### Answers of the graph -/

section Answers

variable {g : Graph} {pattern : Pattern} {q : Query} {sparql : String} {fault : Fault}

theorem Graph.execute_of_parse (read : Query.parse pattern.render = .ok q) :
    g.execute pattern = .ok (q.select g) := by
  rw [execute, query, read]
  rfl

theorem Graph.execute_eq_ok {results : ResultSet} : g.execute pattern = .ok results ↔
    ∃ q, Query.parse pattern.render = .ok q ∧ q.select g = results := by
  cases read : Query.parse pattern.render with
  | ok q => simp [execute_of_parse read]
  | error e =>
    rw [execute, query, read]
    constructor
    · rintro ⟨⟩
    · rintro ⟨_, ⟨⟩, _⟩

theorem Graph.execute_eq_error : g.execute pattern = .error fault ↔
    ∃ e, Query.parse pattern.render = .error e ∧ e.toFault = fault := by
  cases read : Query.parse pattern.render with
  | ok q => simp [execute_of_parse read]
  | error e =>
    rw [execute, query, read]
    constructor
    · rintro ⟨⟩
      exact ⟨e, rfl, rfl⟩
    · rintro ⟨_, ⟨⟩, rfl⟩
      rfl

theorem Graph.update_of_parse {operations : List Operation}
    (read : Operation.parseList sparql = .ok operations) :
    g.update sparql = .ok (applyAll g operations) := by
  rw [update, read]
  rfl

theorem Memory.update_of_parse {operations : List Operation}
    (read : Operation.parseList sparql = .ok operations) :
    QueryEngine.update sparql (Memory.mk g) = (.given (.ok ()), ⟨applyAll g operations⟩) := by
  change ((Memory.mk g).update sparql).map _ _ = _
  rw [Memory.update, Graph.update_of_parse read]
  rfl

end Answers

/-- Surroundings whose engine keeps a graph in memory, and where an authority decides. -/
class InMemory (ω : Type) [Surroundings ω] where
  /-- The engine. -/
  engine : ω → Memory
  /-- The authority. -/
  authority : ω → Authority
  /-- The second that it is now. -/
  now : ω → Int
  /-- The authority decides and stays as it is. -/
  authorize_eq : ∀ authorization w, Surroundings.authorize authorization w =
    ((authority w).authorize (now w) authorization).map fun _ => ()
  /-- The engine answers `pattern` and stays as it is. -/
  execute_eq : ∀ pattern w, Surroundings.execute pattern w = ((engine w).graph.execute pattern, w)
  /-- The engine applies `sparql`. -/
  update_eq : ∀ sparql w, (Surroundings.update sparql w).map id engine = (engine w).update sparql
  /-- An update does not concern the authority. -/
  authority_update : ∀ sparql w, authority (Surroundings.update sparql w).2 = authority w
  /-- Handing `message` to `gate` does not concern the engine. -/
  engine_dispatch : ∀ gate message w, engine (Surroundings.dispatch gate message w).2 = engine w
  /-- Handing `message` to `gate` does not concern the authority. -/
  authority_dispatch : ∀ gate message w,
    authority (Surroundings.dispatch gate message w).2 = authority w

namespace World

variable {ε : Type} {w : World ε} {id : GateId} {message : Message}

theorem engine_dispatch : (w.dispatch id message).2.engine = w.engine := by
  unfold dispatch
  split <;> rfl

theorem authority_dispatch : (w.dispatch id message).2.authority = w.authority := by
  unfold dispatch
  split <;> rfl

end World

/-- How long an answer is waited for plays no part, since the engine in memory always answers. -/
instance : InMemory (World Memory) where
  engine := World.engine
  authority := World.authority
  now := World.now
  authorize_eq _ _ := rfl
  execute_eq _ _ := rfl
  update_eq _ _ := rfl
  authority_update _ _ := rfl
  engine_dispatch _ _ _ := World.engine_dispatch
  authority_dispatch _ _ _ := World.authority_dispatch

namespace InMemory

variable {ω : Type} [Surroundings ω] [InMemory ω]

instance : InMemory (Recorded ω) where
  engine r := engine r.world
  authority r := authority r.world
  now r := now r.world
  authorize_eq authorization r := authorize_eq authorization r.world
  execute_eq pattern r := by
    simp only [Surroundings.execute, execute_eq]
  update_eq sparql r := update_eq sparql r.world
  authority_update sparql r := authority_update sparql r.world
  engine_dispatch gate message r := engine_dispatch gate message r.world
  authority_dispatch gate message r := authority_dispatch gate message r.world

/-- The graph. -/
def graph (w : ω) : Graph := (engine w).graph

/-- The update `sparql` is read and all of it applied, or it cannot be read and none of it is. -/
theorem update_cases (sparql : String) (w : ω) :
    (∃ operations, Operation.parseList sparql = .ok operations ∧
      (Surroundings.update sparql w).1 = .ok () ∧
      graph (Surroundings.update sparql w).2 = applyAll (graph w) operations) ∨
    ∃ e, Operation.parseList sparql = .error e ∧
      (Surroundings.update sparql w).1 = .error e.toFault ∧
      graph (Surroundings.update sparql w).2 = graph w := by
  have answer := update_eq sparql w
  rw [Memory.update, Graph.update] at answer
  cases read : Operation.parseList sparql with
  | ok operations =>
    rw [read] at answer
    exact .inl ⟨operations, rfl, congrArg Prod.fst answer, congrArg (·.2.graph) answer⟩
  | error e =>
    rw [read] at answer
    exact .inr ⟨e, rfl, congrArg Prod.fst answer, congrArg (·.2.graph) answer⟩

end InMemory

end GraphBroker
