import GraphBroker.Broker.Basic
import GraphBroker.Proofs.Gate.Calls
import GraphBroker.Proofs.Scheduler.Carrying

/-!
# What is handed to the gates of a broker

A scheduler reaches the gates only by handing messages to them. Whatever it does, each gate is in
the end as if it had been sent its messages one after another, and a gate that is not known has
answered that it is closed.

## Main definitions

* `Scheduler.Kept`: a property that nothing breaks that a scheduler calls on.
* `Handed.taken`: the messages that a gate has taken.
* `Gate.Told`, `World.Handing`: a gate, or a world, after some messages have been handed over.
* `Broker.carry`, `Broker.carryLog`: a request is carried out, and what it hands over.
* `Broker.amend`, `Broker.amendLog`: an update that no gate has asked for, and what it hands over.

## Main statements

* `Handing.told`, `Handing.unknown`: what becomes of each gate.
* `Told.outbound`, `Told.opened`, `Told.shut`: the queue of a gate, what it takes to stay open, and
  a gate that is not open.
* `carried_carry`, `rounded_amend`: what a request and an update hand over.
-/

namespace GraphBroker

/-! ### What nothing breaks that a scheduler calls on -/

namespace Scheduler

variable {ω : Type} [Surroundings ω] {P : ω → Prop} {s : Scheduler ω} {gate : GateId}
  {id : SubscriptionId}

/-- Neither the engine nor a gate breaks `P` when it is called on. -/
structure Kept (P : ω → Prop) : Prop where
  /-- The query `pattern` keeps it. -/
  execute : ∀ pattern w, P w → P (Surroundings.execute pattern w).2
  /-- The update `sparql` of the graph keeps it. -/
  apply : ∀ sparql w, P w → P (Surroundings.update sparql w).2
  /-- Handing `message` to `gate` keeps it. -/
  dispatch : ∀ gate message w, P w → P (Surroundings.dispatch gate message w).2

namespace Kept

theorem enter (kept : Kept P) (start : P s.world) (sub : Subscription) :
    P (s.enter sub).2.world := by
  have told := kept.dispatch sub.gate sub.greeting _ start
  by_cases taken : (Surroundings.dispatch sub.gate sub.greeting s.world).1 = .delivered
  · rwa [(enter_of_delivered taken).2.2]
  · rwa [(enter_of_not_delivered taken).2.2]

theorem tellIfFound (kept : Kept P) (start : P s.world)
    (entry : Subscription × Outcome ResultSet) : P (s.tellIfFound entry).world := by
  obtain ⟨sub, _ | results⟩ := entry
  · exact start
  · by_cases same : sub.last.Agrees results
    · rwa [tellIfFound_ok, tell_of_agrees same]
    · rw [tellIfFound_ok, (tell_of_not_agrees same).2]
      exact kept.dispatch _ _ _ start

theorem evaluate (kept : Kept P) (start : P s.world) (subs : List Subscription) :
    P (s.evaluate subs).2.world := by
  induction subs generalizing s with
  | nil => exact start
  | cons sub rest ih => exact ih (kept.execute sub.pattern _ start)

theorem reevaluate (kept : Kept P) (start : P s.world) : P s.reevaluate.world := by
  have told (asked : Scheduler ω) (start : P asked.world)
      (entries : List (Subscription × Outcome ResultSet)) :
      P (entries.foldl Scheduler.tellIfFound asked).world := by
    induction entries generalizing asked with
    | nil => exact start
    | cons entry rest ih => exact ih _ (kept.tellIfFound start entry)
  exact told s.asked (kept.evaluate start _) s.found

theorem update (kept : Kept P) (start : P s.world) (sparql : String)
    (authorization : Option String) : P (s.update sparql authorization).2.world := by
  have applied : P (s.applied sparql).world := kept.apply sparql _ start
  obtain ⟨_, refused⟩ | ⟨_, _, failed⟩ | ⟨_, done⟩ := s.update_cases sparql authorization
  · rwa [refused]
  · rwa [failed]
  · rw [done]
    exact kept.reevaluate applied

theorem reply (kept : Kept P) (start : P s.world) (message : Message) (counter : Option Counter) :
    P (s.reply gate message counter).world := by
  rw [world_reply]
  exact kept.dispatch gate message _ start

theorem process (kept : Kept P) (start : P s.world) (request : Request) :
    P (s.process id gate request).world := by
  cases request with
  | subscribe pattern label authorization =>
    have done : P (s.subscribe id gate pattern label
        (Request.subscribe pattern label authorization).bearer?).2.world := by
      obtain ⟨_, refused⟩ | ⟨_, failed⟩ | ⟨initial, -, entered⟩ :=
        s.subscribe_cases id gate pattern label _
      · rwa [refused]
      · rw [failed]
        exact kept.execute pattern _ start
      · rw [entered]
        exact kept.enter (kept.execute pattern _ start) _
    rw [Scheduler.process]
    generalize s.subscribe id gate pattern label _ = answer at done ⊢
    obtain ⟨_ | _, after⟩ := answer
    · exact kept.reply done _ _
    · exact done
  | unsubscribe other authorization => exact kept.reply (s := s.unsubscribe gate other) start _ _
  | update sparql authorization =>
    have done := kept.update start sparql (Request.update sparql authorization).bearer?
    rw [Scheduler.process]
    generalize s.update sparql _ = answer at done ⊢
    obtain ⟨_ | _, after⟩ := answer <;> exact kept.reply done _ _
  | query pattern authorization =>
    have done : P (s.query pattern (Request.query pattern authorization).bearer?).2.world := by
      obtain ⟨_, refused⟩ | asked := s.query_cases pattern _
      · rwa [refused]
      · rw [asked]
        exact kept.execute pattern _ start
    rw [Scheduler.process]
    generalize s.query pattern _ = answer at done ⊢
    obtain ⟨_ | _, after⟩ := answer <;> exact kept.reply done _ _

end Kept

end Scheduler

/-! ### One gate -/

/-- The messages in `log` that a gate has taken, the oldest first. -/
def Handed.taken (log : List Handed) : List Message :=
  (log.filter (·.delivery = .delivered)).map (·.message)

/-- What was handed to the gate `id`. -/
def Handed.toGate (log : List Handed) (id : GateId) : List Handed :=
  log.filter (·.gate = id)

open Handed (taken)

theorem taken_append (log log' : List Handed) : taken (log ++ log') = taken log ++ taken log' := by
  simp only [taken, List.filter_append, List.map_append]

theorem taken_singleton (gate : GateId) (message : Message) (delivery : Delivery) :
    taken [⟨gate, message, delivery⟩] = if delivery = .delivered then [message] else [] := by
  cases delivery <;> rfl

theorem taken_of_delivered {log : List Handed}
    (delivered : ∀ handed ∈ log, handed.delivery = .delivered) :
    taken log = log.map (·.message) := by
  rw [taken, List.filter_eq_self.2 fun handed listed => decide_eq_true (delivered handed listed)]

theorem toGate_append (log log' : List Handed) (id : GateId) :
    Handed.toGate (log ++ log') id = Handed.toGate log id ++ Handed.toGate log' id :=
  List.filter_append ..

theorem mem_toGate {log : List Handed} {handed : Handed} {id : GateId} :
    handed ∈ Handed.toGate log id ↔ handed ∈ log ∧ handed.gate = id := by
  rw [Handed.toGate, List.mem_filter, decide_eq_true_iff]

theorem toGate_singleton (handed : Handed) (id : GateId) :
    Handed.toGate [handed] id = if handed.gate = id then [handed] else [] := by
  by_cases same : handed.gate = id <;> simp [Handed.toGate, same]

/-- The gate `g` after it was handed the messages, with its answers. -/
inductive Gate.Told (g : Gate) : List Handed → Gate → Prop
  /-- Nothing was handed over. -/
  | start : Told g [] g
  /-- One more `message` was handed over. -/
  | send {log : List Handed} {g' : Gate} (id : GateId) (message : Message) (told : Told g log g') :
    Told g (log ++ [⟨id, message, (g'.send message).1⟩]) (g'.send message).2

namespace Gate

variable {g g' : Gate} {log : List Handed}

/-- Sending puts `message` into the queue if it is taken. Apart from that, at most the state
changes. -/
theorem send_eq (g : Gate) (message : Message) :
    (g.send message).2 = { g with
      outbound := g.outbound ++ if (g.send message).1 = .delivered then [message] else []
      state := (g.send message).2.state } := by
  obtain ⟨-, sent⟩ | ⟨-, -, sent⟩ | ⟨-, -, -, sent⟩ | ⟨-, -, -, sent⟩ := g.send_cases message <;>
    rw [sent] <;> simp

theorem send_of_delivered {message : Message} (taken : (g.send message).1 = .delivered) :
    (g.send message).2 = { g with outbound := g.outbound ++ [message] } := by
  obtain ⟨-, sent⟩ | ⟨-, -, sent⟩ | ⟨-, -, -, sent⟩ | ⟨-, -, -, sent⟩ := g.send_cases message <;>
    rw [sent] at taken ⊢ <;> cases taken

theorem send_of_shut (shut : g.isOpen = false) (message : Message) :
    g.send message = (.gateClosed, g) := by
  simp [send, shut]

/-- A gate that is open after `message` was open before, and has not answered `.gateClosed`. -/
theorem isOpen_of_send {message : Message} (opened : (g.send message).2.isOpen) :
    g.isOpen ∧ (g.send message).1 ≠ .gateClosed := by
  obtain ⟨shut, sent⟩ | ⟨-, -, sent⟩ | ⟨opened', -, -, sent⟩ | ⟨opened', -, -, sent⟩ :=
    g.send_cases message <;> rw [sent] at opened ⊢
  · rw [shut] at opened
    cases opened
  · rw [isOpen_iff] at opened
    cases state : g.state <;> simp [state, GateState.advance, GateState.isAfter, GateState.rank]
      at opened
  · exact ⟨opened', nofun⟩
  · exact ⟨opened', nofun⟩

namespace Told

/-- What a gate takes of what is in `log` is put into its queue. Apart from that, at most the state
changes. -/
theorem eq (told : g.Told log g') :
    ∃ state, g' = { g with outbound := g.outbound ++ taken log, state } := by
  induction told with
  | start => exact ⟨g.state, by simp [taken]⟩
  | send id message _ ih =>
    obtain ⟨state, rfl⟩ := ih
    exact ⟨_, by rw [send_eq, taken_append, taken_singleton, List.append_assoc]⟩

/-- The messages in `log` that the gate takes are put into its queue. -/
theorem outbound (told : g.Told log g') : g'.outbound = g.outbound ++ taken log := by
  obtain ⟨state, rfl⟩ := told.eq
  rfl

/-- A gate `g'` that is still open has never answered `.gateClosed`. -/
theorem opened (told : g.Told log g') (opened : g'.isOpen) :
    g.isOpen ∧ ∀ handed ∈ log, handed.delivery ≠ .gateClosed := by
  induction told with
  | start => exact ⟨opened, nofun⟩
  | send id message _ ih =>
    obtain ⟨before, answer⟩ := isOpen_of_send opened
    obtain ⟨first, others⟩ := ih before
    exact ⟨first, List.forall_mem_append.2 ⟨others, List.forall_mem_singleton.2 answer⟩⟩

/-- A gate that is not open answers `.gateClosed` every time, and stays as it is. -/
theorem shut (told : g.Told log g') (shut : g.isOpen = false) :
    g' = g ∧ ∀ handed ∈ log, handed.delivery = .gateClosed := by
  induction told with
  | start => exact ⟨rfl, nofun⟩
  | send id message _ ih =>
    obtain ⟨rfl, answers⟩ := ih
    rw [send_of_shut shut]
    exact ⟨rfl, List.forall_mem_append.2 ⟨answers, List.forall_mem_singleton.2 rfl⟩⟩

/-- A gate that takes all messages changes in nothing but its queue. -/
theorem eq_of_delivered (told : g.Told log g')
    (delivered : ∀ handed ∈ log, handed.delivery = .delivered) :
    g' = { g with outbound := g.outbound ++ log.map (·.message) } := by
  induction told with
  | start => simp
  | send id message _ ih =>
    obtain ⟨others, last⟩ := List.forall_mem_append.1 delivered
    rw [send_of_delivered (last _ (List.mem_singleton_self _)), ih others, List.map_append,
      List.append_assoc]
    rfl

theorem eq_of_nil (told : g.Told [] g') : g' = g := by
  -- A record with a last message is not empty.
  generalize none : ([] : List Handed) = log at told
  cases told with
  | start => rfl
  | send => simp at none

end Told

end Gate

/-! ### All gates -/

namespace World

variable {ε : Type} {w w' : World ε} {log : List Handed} {id : GateId} {g : Gate}

/-- The world after messages were handed to the gates of `w`, with their answers. The engine may
have changed as well. -/
inductive Handing (w : World ε) : List Handed → World ε → Prop
  /-- Nothing has happened. -/
  | start : Handing w [] w
  /-- The engine has changed to `engine`. -/
  | engine {log : List Handed} {w' : World ε} (engine : ε) (handing : Handing w log w') :
    Handing w log { w' with engine }
  /-- One more `message` was handed over, to `gate`. -/
  | dispatch {log : List Handed} {w' : World ε} (gate : GateId) (message : Message)
    (handing : Handing w log w') :
    Handing w (log ++ [⟨gate, message, (w'.dispatch gate message).1⟩]) (w'.dispatch gate message).2

theorem gate?_putGate {other : GateId} :
    (w.putGate id g).gate? other = if id = other then some g else w.gate? other := by
  simp only [gate?, putGate, Std.ExtTreeMap.getElem?_insert, Std.LawfulEqCmp.compare_eq_iff_eq]

theorem dispatch_of_unknown (unknown : w.gate? id = none) (message : Message) :
    w.dispatch id message = (.gateClosed, w) := by
  rw [dispatch, unknown]

theorem dispatch_of_known (known : w.gate? id = some g) (message : Message) :
    w.dispatch id message = ((g.send message).1, w.putGate id (g.send message).2) := by
  rw [dispatch, known]

theorem gate?_dispatch_of_ne {other : GateId} (different : id ≠ other) (message : Message) :
    (w.dispatch id message).2.gate? other = w.gate? other := by
  cases found : w.gate? id with
  | none => rw [dispatch_of_unknown found]
  | some g => rw [dispatch_of_known found, gate?_putGate, if_neg different]

namespace Handing

/-- A gate `id` that is not known stays so, and has answered `.gateClosed`. -/
theorem unknown (handing : w.Handing log w') (unknown : w.gate? id = none) :
    w'.gate? id = none ∧ ∀ handed ∈ log, handed.gate = id → handed.delivery = .gateClosed := by
  induction handing with
  | start => exact ⟨unknown, nofun⟩
  | engine engine _ ih => exact ih
  | @dispatch log w' gate message _ ih =>
    obtain ⟨still, answers⟩ := ih
    by_cases same : gate = id
    · rw [same, dispatch_of_unknown still]
      exact ⟨still, List.forall_mem_append.2 ⟨answers, List.forall_mem_singleton.2 fun _ => rfl⟩⟩
    · rw [gate?_dispatch_of_ne same]
      exact ⟨still, List.forall_mem_append.2
        ⟨answers, List.forall_mem_singleton.2 fun asked => absurd asked same⟩⟩

/-- A gate `id` that is known has been sent what was handed to it. -/
theorem told (handing : w.Handing log w') (known : w.gate? id = some g) :
    ∃ g', w'.gate? id = some g' ∧ g.Told (Handed.toGate log id) g' := by
  induction handing with
  | start => exact ⟨g, known, .start⟩
  | engine engine _ ih => exact ih
  | @dispatch log w' gate message _ ih =>
    obtain ⟨before, found, told⟩ := ih
    rw [toGate_append, toGate_singleton]
    by_cases same : gate = id
    · subst same
      rw [if_pos rfl, dispatch_of_known found, gate?_putGate, if_pos rfl]
      exact ⟨_, rfl, .send gate message told⟩
    · -- A message to another gate is not in the record of this one.
      rw [if_neg same, List.append_nil, gate?_dispatch_of_ne same]
      exact ⟨before, found, told⟩

/-- The same gates are known. -/
theorem isSome_gate? (handing : w.Handing log w') (id : GateId) :
    (w'.gate? id).isSome = (w.gate? id).isSome := by
  cases known : w.gate? id with
  | none => rw [(handing.unknown known).1]
  | some g =>
    obtain ⟨g', after, -⟩ := handing.told known
    rw [after]
    rfl

/-- A gate `id` to which nothing was handed is as it was. -/
theorem gate?_eq (handing : w.Handing log w') (apart : Handed.toGate log id = []) :
    w'.gate? id = w.gate? id := by
  cases found : w.gate? id with
  | none => exact (handing.unknown found).1
  | some g =>
    obtain ⟨g', after, told⟩ := handing.told found
    rw [apart] at told
    rw [after, told.eq_of_nil]

end Handing

/-- Handing messages over, with a record of it, is all that a scheduler does to the gates. -/
theorem kept_handing [QueryEngine ε] (w : World ε) :
    Scheduler.Kept fun r : Recorded (World ε) => w.Handing r.log r.world where
  execute _ _ handing := handing.engine _
  apply _ _ handing := handing.engine _
  dispatch gate message _ handing := handing.dispatch gate message

end World

/-! ### What a request and an update hand over -/

namespace Broker

variable {ε : Type} [QueryEngine ε] {b : Broker ε} {id : GateId} {request : Request}

/-- The scheduler of the broker with an empty record. -/
def recorded (b : Broker ε) : Scheduler (Recorded (World ε)) where
  limit := b.scheduler.limit
  table := b.scheduler.table
  metrics := b.scheduler.metrics
  world := { world := b.world }

/-- The `request` of the gate `id` is carried out. A subscription is made under the next name. -/
def carry (b : Broker ε) (id : GateId) (request : Request) : Broker ε :=
  { b with
    supply := b.supply.rest
    scheduler := b.scheduler.process ⟨b.supply.uuid⟩ id request }

/-- What carrying out `request` hands over. -/
def carryLog (b : Broker ε) (id : GateId) (request : Request) : List Handed :=
  (b.recorded.process ⟨b.supply.uuid⟩ id request).world.log

/-- The update `sparql` is applied, for which no gate has asked. -/
def amend (b : Broker ε) (sparql : String) (authorization : Option String) : Broker ε :=
  { b with scheduler := (b.scheduler.update sparql authorization).2 }

/-- What `amend` hands over. -/
def amendLog (b : Broker ε) (sparql : String) (authorization : Option String) : List Handed :=
  (b.recorded.update sparql authorization).2.world.log

/-- The names of new subscriptions are not in use. -/
def NewName (b : Broker ε) : Prop :=
  b.scheduler.table.get? ⟨b.supply.uuid⟩ = none

/-- What is recorded makes no difference to `request`. -/
theorem scheduler_carry (b : Broker ε) (id : GateId) (request : Request) :
    (b.carry id request).scheduler =
      (b.recorded.process ⟨b.supply.uuid⟩ id request).forget :=
  (Scheduler.forget_process (s := b.recorded) _ request).symm

/-- What is recorded makes no difference to the update `sparql`. -/
theorem scheduler_amend (b : Broker ε) (sparql : String) (authorization : Option String) :
    (b.amend sparql authorization).scheduler =
      (b.recorded.update sparql authorization).2.forget :=
  congrArg Prod.snd (Scheduler.forget_update (s := b.recorded) sparql authorization).symm

theorem carried_carry (b : Broker ε) (id : GateId) (request : Request) :
    b.recorded.Carried ⟨b.supply.uuid⟩ id request (b.carry id request).scheduler.table
      (b.carryLog id request) := by
  obtain ⟨log, same, carried⟩ := b.recorded.carried_process ⟨b.supply.uuid⟩ id request
  rw [scheduler_carry, carryLog, same]
  exact carried

theorem handing_carry (b : Broker ε) (id : GateId) (request : Request) :
    b.world.Handing (b.carryLog id request) (b.carry id request).world := by
  change b.world.Handing _ (b.carry id request).scheduler.world
  rw [scheduler_carry]
  exact (World.kept_handing b.world).process (s := b.recorded) .start request

/-- The update `sparql` hands nothing but notifications over. -/
theorem notifies_amend (b : Broker ε) (sparql : String) (authorization : Option String) :
    Scheduler.Notifies (b.amendLog sparql authorization) := by
  obtain ⟨offers, log, notifies, -⟩ := b.recorded.rounded_update sparql authorization
  rw [amendLog, log]
  exact notifies

theorem rounded_amend (wf : b.scheduler.table.WellFormed) (sparql : String)
    (authorization : Option String) :
    Scheduler.Rounded b.scheduler.table (b.amend sparql authorization).scheduler.table
      (b.amendLog sparql authorization) := by
  obtain ⟨offers, log, -, ends⟩ := b.recorded.rounded_update sparql authorization
  rw [scheduler_amend, amendLog, log]
  obtain ⟨-, rounded⟩ | ⟨-, rfl, same⟩ := ends
  · exact rounded wf
  · rw [Scheduler.forget, same]
    exact .refl wf

theorem handing_amend (b : Broker ε) (sparql : String) (authorization : Option String) :
    b.world.Handing (b.amendLog sparql authorization) (b.amend sparql authorization).world := by
  change b.world.Handing _ (b.amend sparql authorization).scheduler.world
  rw [scheduler_amend]
  exact (World.kept_handing b.world).update (s := b.recorded) .start sparql authorization

end Broker

end GraphBroker
