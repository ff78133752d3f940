import GraphBroker.Broker.Basic
import GraphBroker.Engine.Memory
import GraphBroker.Proofs.Gate.Calls

/-!
# The gates of a broker

What the operations of a broker leave of a gate: a message that is refused is a message to its
client, and one that is accepted a request for its worker.

## Main statements

* `gate?_putGate`, `gate?_openGate`, `gate?_reject`, `gate?_message`, `gate?_closeGate`: the gates
  after an operation.
* `mem_gateIds`: the gates that are listed are those that are known.
-/

namespace GraphBroker.Broker

open Std

variable {ε : Type} {b : Broker ε} {id other : GateId} {g : Gate}

theorem gate?_putGate : (b.putGate id g).gate? other =
    if id = other then some g else b.gate? other := by
  change (b.world.gates.insert id g)[other]? = _
  simp only [ExtTreeMap.getElem?_insert, LawfulEqCmp.compare_eq_iff_eq]
  rfl

@[simp] theorem gate?_putGate_self : (b.putGate id g).gate? id = some g := by
  rw [gate?_putGate, if_pos rfl]

theorem gate?_openGate (b : Broker ε) (path : String) : (b.openGate path).2.gate? other =
    if ⟨b.supply.uuid⟩ = other then some (.ofConfig path b.gateConfig) else b.gate? other :=
  gate?_putGate

theorem mem_gateIds : id ∈ b.gateIds ↔ (b.gate? id).isSome := by
  rw [gateIds, ExtTreeMap.map_fst_toList_eq_keys, ExtTreeMap.mem_keys,
    ExtTreeMap.mem_iff_isSome_getElem?]
  rfl

/-- The gate of a message that is refused is told of `fault`. -/
theorem gate?_reject (known : b.gate? id = some g) (fault : Fault) :
    (b.reject id fault).gate? id = some (g.perform (.send (.ofFault fault))) := by
  -- Counting the error does not touch the gates.
  have found : (b.count .errors).world.gate? id = some g := known
  simp only [reject, World.dispatch, found]
  split <;> exact gate?_putGate_self

/-- The gate of the message `text` is told why it is refused, or has a request for its worker.
Neither call closes it or reads a frame. -/
theorem gate?_message (known : b.gate? id = some g) (text : String) :
    ∃ call : Gate.Call, call.isFragment = false ∧ call.closes = false ∧
      (b.message id g text).gate? id = some (g.perform call) := by
  have counted : (b.count .messages).gate? id = some g := known
  unfold message
  split
  · exact ⟨_, rfl, rfl, gate?_reject counted _⟩
  · rename_i request _
    split
    · exact ⟨_, rfl, rfl, gate?_reject counted _⟩
    · rename_i accepted
      refine ⟨.forward request, rfl, rfl, ?_⟩
      rw [gate?_putGate_self, Gate.perform, accepted]

theorem gate?_closeGate : (b.closeGate id).2.gate? other =
    if id = other then none else b.gate? other := by
  unfold closeGate
  split
  · rename_i unknown
    split
    · rename_i same
      rw [← same, unknown]
    · rfl
  · change (b.world.gates.erase id)[other]? = _
    rw [ExtTreeMap.getElem?_erase]
    simp only [LawfulEqCmp.compare_eq_iff_eq]
    rfl

/-- A broker that everyone may use, without gates. -/
def unused (gateConfig : GateConfig) : Broker Memory where
  gateConfig
  scheduler.limit := 1
  scheduler.world.engine := {}
  scheduler.world.timeoutMs := 0
  scheduler.world.authority := ⟨⟨∅, {}, "", []⟩, "", false⟩
  scheduler.world.now := 0
  scheduler.world.gates := ∅

end GraphBroker.Broker
