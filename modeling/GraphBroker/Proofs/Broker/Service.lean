import GraphBroker.Proofs.Broker.Closing
import GraphBroker.Proofs.Broker.Verdicts

/-!
# A broker at work

Connections are opened and closed, frames arrive, workers take requests and carry them out, the
writers of connections take messages or go, and meanwhile the world changes. These steps come in
any order. A worker carries a request out some time after it has taken it, so that the gate may
have been closed in between.

What a worker does with a request that it has taken, from the authorization to the reply, is one
step (`Step.carries`), and so is an update with the notifications that follow from it
(`Step.amends`). A hand-off to a gate and what is put down of it, in the table and in the counters,
are never parted: no state of a run lies between the two. Where requests overlap stage by stage is
the subject of `GraphBroker.Proofs.Scheduler.Interleaving`.

## Main definitions

* `Service`: a broker with the requests in the hands of its workers.
* `Service.Step`, `Service.step`, `Service.run`: one step, and some in a row.
* `Service.log`: the messages that a step hands to gates.
* `Service.along`, `Service.Throughout`: what is gathered, and what holds, at every step of a run.

## Main statements

* `run_induction`: what each step keeps, a run keeps.
* `balance_run`: what comes in goes out in the same order, or is still there.
* `step_picks_carries`: a worker that takes a request and carries it out does what `Broker.work`
  does.
-/

namespace GraphBroker

open Std

namespace Broker

variable {ε : Type} {b b' : Broker ε} {id : GateId} {g : Gate} {request : Request}

/-- The request that the worker of the gate `id` takes, and the broker without it. -/
def pick? (b : Broker ε) (id : GateId) : Option (Request × Broker ε) :=
  match (b.anyGate? id).map Work.of with
  | some (.next request rest) => some (request, b.replaceGate id rest)
  | _ => none

theorem Work.of_eq_next {rest : Gate} (work : Work.of g = .next request rest) :
    ∃ later, g.requests = request :: later ∧ rest = { g with requests := later } := by
  unfold Work.of Gate.takeRequest? at work
  split at work
  · cases work
  · cases requests : g.requests with
    | nil =>
      rw [requests] at work
      cases work
    | cons first later =>
      rw [requests] at work
      cases work
      exact ⟨later, rfl, rfl⟩

/-- The worker of the gate `id` takes the oldest request, whether the gate is closed or not. -/
theorem pick?_eq_some (picked : b.pick? id = some (request, b')) :
    ∃ g later, b.anyGate? id = some g ∧ g.requests = request :: later ∧
      b' = b.replaceGate id { g with requests := later } := by
  unfold pick? at picked
  split at picked
  · rename_i work
    cases picked
    obtain ⟨g, found, work⟩ := Option.map_eq_some_iff.1 work
    obtain ⟨later, requests, rfl⟩ := Work.of_eq_next work
    exact ⟨g, later, found, requests, rfl⟩
  · cases picked

theorem anyGate?_of_known (known : b.gate? id = some g) : b.anyGate? id = some g := by
  rw [anyGate?, known, Option.some_or]

theorem anyGate?_of_unknown (unknown : b.gate? id = none) : b.anyGate? id = b.departed[id]? := by
  rw [anyGate?, unknown, Option.none_or]

theorem replaceGate_of_known (known : b.gate? id = some g) (g' : Gate) :
    b.replaceGate id g' = b.putGate id g' := by
  rw [replaceGate, known]
  rfl

theorem replaceGate_of_unknown (unknown : b.gate? id = none) (g' : Gate) :
    b.replaceGate id g' = { b with departed := b.departed.insert id g' } := by
  rw [replaceGate, unknown]
  rfl

theorem supply_replaceGate : (b.replaceGate id g).supply = b.supply := by
  unfold replaceGate
  split <;> rfl

theorem work_eq [QueryEngine ε] (b : Broker ε) (id : GateId) :
    b.work id = match b.pick? id with
      | some (request, picked) => (true, picked.carry id request)
      | none => (false, b) := by
  rw [work, pick?]
  rcases (b.anyGate? id).map Work.of with _ | _ | _ | ⟨request, rest⟩
  · rfl
  · rfl
  · rfl
  · dsimp only [carry]
    rw [supply_replaceGate]

end Broker

/-- A broker with the requests that its workers have taken and not yet carried out. -/
structure Service (ε : Type) where
  /-- The broker. -/
  broker : Broker ε
  /-- The request in the hands of the worker of a gate, or `none`. -/
  inHand : GateId → Option Request

namespace Service

/-- What may happen to a broker at work. -/
inductive Step (ε : Type) where
  /-- A connection is opened on `path`. -/
  | opens (path : String)
  /-- A `frame` arrives at the gate `id`. -/
  | arrives (id : GateId) (frame : Frame)
  /-- The worker of the gate `id` takes the oldest request. -/
  | picks (id : GateId)
  /-- The worker of the gate `id` carries out the request that it has taken. -/
  | carries (id : GateId)
  /-- The update `sparql` is applied, for which no gate has asked. -/
  | amends (sparql : String) (authorization : Option String)
  /-- The gate `id` is closed. -/
  | closes (id : GateId)
  /-- Everything ends. -/
  | ends
  /-- Nobody takes the messages of the gate `id` any more. -/
  | dropsWriter (id : GateId)
  /-- The writer of the gate `id` takes the oldest message. -/
  | takes (id : GateId)
  /-- The engine, the identities and the clock are changed by others, who may draw names too. -/
  | elapses (engine : ε) (authority : Authority) (now : Int) (supply : Supply)

variable {ε : Type} [QueryEngine ε]

/-- The service after a step. A worker has one request in hand at a time. -/
def step (s : Service ε) : Step ε → Service ε
  | .opens path => { s with broker := (s.broker.openGate path).2 }
  | .arrives id frame => { s with broker := s.broker.receive id frame }
  | .picks id =>
    match s.inHand id, s.broker.pick? id with
    | none, some (request, broker) =>
      { broker, inHand := Function.update s.inHand id (some request) }
    | _, _ => s
  | .carries id =>
    match s.inHand id with
    | some request =>
      { broker := s.broker.carry id request, inHand := Function.update s.inHand id none }
    | none => s
  | .amends sparql authorization => { s with broker := s.broker.amend sparql authorization }
  | .closes id => { s with broker := (s.broker.closeGate id).2 }
  | .ends => { s with broker := s.broker.shutdown }
  | .dropsWriter id => { s with broker := s.broker.dropWriter id }
  | .takes id => { s with broker := (s.broker.take id).2 }
  | .elapses engine authority now supply =>
    let world := { s.broker.world with engine, authority, now }
    { s with broker := { s.broker.setWorld world with supply } }

/-- The subscriptions. -/
def table (s : Service ε) : SubscriptionTable := s.broker.scheduler.table

/-- The service after the `steps`, one after another. -/
def run (s : Service ε) (steps : List (Step ε)) : Service ε :=
  steps.foldl step s

/-- The messages that a step hands to gates, with their answers. -/
def log (s : Service ε) : Step ε → List Handed
  | .arrives id frame => s.broker.frameLog id frame
  | .carries id =>
    match s.inHand id with
    | some request => s.broker.carryLog id request
    | none => []
  | .amends sparql authorization => s.broker.amendLog sparql authorization
  | _ => []

/-- What is gathered at each step of a run by `what`, the earliest first. -/
def along {α : Type} (what : Service ε → Step ε → List α) : Service ε → List (Step ε) → List α
  | _, [] => []
  | s, next :: rest => what s next ++ (s.step next).along what rest

/-- Each step of a run `holds`, with the service as the step finds it. -/
def Throughout (holds : Service ε → Step ε → Prop) : Service ε → List (Step ε) → Prop
  | _, [] => True
  | s, next :: rest => holds s next ∧ (s.step next).Throughout holds rest

instance decidableThroughout {holds : Service ε → Step ε → Prop}
    [∀ s next, Decidable (holds s next)] :
    (s : Service ε) → (steps : List (Step ε)) → Decidable (s.Throughout holds steps)
  | _, [] => inferInstanceAs (Decidable True)
  | s, next :: rest =>
    have : Decidable ((s.step next).Throughout holds rest) := decidableThroughout _ rest
    inferInstanceAs (Decidable (holds s next ∧ (s.step next).Throughout holds rest))

variable {s : Service ε} {id : GateId} {steps : List (Step ε)} {holds : Service ε → Step ε → Prop}

/-- What each step keeps, a run keeps. -/
theorem run_induction {motive : Service ε → Prop} (start : motive s)
    (throughout : s.Throughout holds steps)
    (step : ∀ s next, holds s next → motive s → motive (s.step next)) : motive (s.run steps) := by
  induction steps generalizing s with
  | nil => exact start
  | cons next rest ih => exact ih (step s next throughout.1 start) throughout.2

theorem Throughout.imp {holds' : Service ε → Step ε → Prop} (throughout : s.Throughout holds steps)
    (step : ∀ s next, holds s next → holds' s next) : s.Throughout holds' steps := by
  induction steps generalizing s with
  | nil => trivial
  | cons next rest ih => exact ⟨step s next throughout.1, ih throughout.2⟩

theorem along_map {α β : Type} (f : α → β) (what : Service ε → Step ε → List α) :
    s.along (fun s next => (what s next).map f) steps = (s.along what steps).map f := by
  induction steps generalizing s with
  | nil => rfl
  | cons next rest ih => rw [along, along, ih, List.map_append]

/-- If each step adds to the end of `stock` what is `arriving` and takes from its front what is
`leaving`, so does a run. -/
theorem balance_run {α : Type} {stock : Service ε → List α}
    {arriving leaving : Service ε → Step ε → List α} (throughout : s.Throughout holds steps)
    (step : ∀ s next, holds s next →
      stock s ++ arriving s next = leaving s next ++ stock (s.step next)) :
    stock s ++ s.along arriving steps = s.along leaving steps ++ stock (s.run steps) := by
  induction steps generalizing s with
  | nil => exact List.append_nil _
  | cons next rest ih =>
    -- What the first step leaves in stock is what the other steps begin with.
    calc stock s ++ (arriving s next ++ (s.step next).along arriving rest)
      _ = stock s ++ arriving s next ++ (s.step next).along arriving rest := by
        rw [List.append_assoc]
      _ = leaving s next ++ (stock (s.step next) ++ (s.step next).along arriving rest) := by
        rw [step s next throughout.1, List.append_assoc]
      _ = leaving s next ++ ((s.step next).along leaving rest ++
          stock ((s.step next).run rest)) := by rw [ih throughout.2]
      _ = _ := (List.append_assoc ..).symm

/-! ### Workers -/

/-- The worker of the gate `id` takes a `request` if it has none in hand and one waits. -/
theorem step_picks_cases (s : Service ε) (id : GateId) :
    s.step (.picks id) = s ∨ ∃ request b, s.inHand id = none ∧
      s.broker.pick? id = some (request, b) ∧
      s.step (.picks id) = ⟨b, Function.update s.inHand id (some request)⟩ := by
  cases held : s.inHand id with
  | some request => exact .inl (by simp [step, held])
  | none =>
    cases picked : s.broker.pick? id with
    | none => exact .inl (by simp [step, held, picked])
    | some found =>
      obtain ⟨request, b⟩ := found
      exact .inr ⟨request, b, rfl, rfl, by simp [step, held, picked]⟩

/-- The worker of the gate `id` carries out the `request` that it has in hand. -/
theorem carries_of_held {request : Request} (held : s.inHand id = some request) :
    s.step (.carries id) =
        ⟨s.broker.carry id request, Function.update s.inHand id none⟩ ∧
      s.log (.carries id) = s.broker.carryLog id request := by
  simp [step, log, held]

theorem carries_of_idle (idle : s.inHand id = none) :
    s.step (.carries id) = s ∧ s.log (.carries id) = [] := by
  simp [step, log, idle]

/-- A worker that takes a request and carries it out does what `Broker.work` does. -/
theorem step_picks_carries (free : s.inHand id = none) :
    ((s.step (.picks id)).step (.carries id)).broker = (s.broker.work id).2 := by
  rw [Broker.work_eq]
  cases picked : s.broker.pick? id with
  | none => simp [step, free, picked]
  | some taken =>
    obtain ⟨request, broker⟩ := taken
    simp [step, free, picked]

/-- A broker that nobody uses yet. -/
def unused : Service Memory := ⟨.unused {}, fun _ => none⟩

/-- A frame that asks to be told of all triples. -/
def subscribesToAll : Frame :=
  .text "\x7b\"type\":\"subscribe\",\"sparql\":\"SELECT * WHERE \x7b ?s ?p ?o \x7d\"\x7d" true

end Service

end GraphBroker
