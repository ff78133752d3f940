import GraphBroker.Engine.Memory

/-!
# An engine behind switches

An engine in memory whose queries and updates can be made to fail.

## Main definitions

* `Trouble`: the ways in which an engine can fail.
* `Faulty`: the engine.
-/

namespace GraphBroker

/-- The ways in which an engine can fail. -/
inductive Trouble where
  /-- It refuses every request. -/
  | fail
  /-- It cannot be reached. -/
  | transport
  /-- It never answers. -/
  | stall
deriving DecidableEq, Repr

/-- The way with the given name. -/
def Trouble.ofName? : String → Option Trouble
  | "fail" => some fail
  | "transport" => some transport
  | "stall" => some stall
  | _ => none

/-- What a failing engine answers. -/
def Trouble.answer {α : Type} : Trouble → Answer α
  | fail => .given (.error (.execution "scripted failure"))
  | transport => .given (.error (.transport "scripted outage"))
  | stall => .silent

/-- An engine in memory behind switches. -/
structure Faulty where
  /-- The engine. -/
  memory : Memory := {}
  /-- What is wrong with queries. -/
  queries : Option Trouble := none
  /-- What is wrong with updates. -/
  updates : Option Trouble := none
deriving DecidableEq, Inhabited

instance : QueryEngine Faulty where
  name _ := "faulty"
  health engine :=
    match engine.queries with
    | some trouble => (trouble.answer, engine)
    | none => (.given (.ok true), engine)
  query text engine :=
    match engine.queries with
    | some trouble => (trouble.answer, engine)
    | none => (.given (engine.memory.graph.query text), engine)
  update text engine :=
    match engine.updates with
    | some trouble => (trouble.answer, engine)
    | none =>
      let (outcome, memory) := engine.memory.update text
      (.given outcome, { engine with memory })

end GraphBroker
