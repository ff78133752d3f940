import GraphBroker.Proofs.Scheduler.Effect

/-!
# Runs of a scheduler, with a record of what was handed to gates

A run is a sequence of calls, each of which is carried out as a whole. Between calls
the world may change in any way: time passes, gates are drained, identities come and
go. So that one can speak of what gates were told, the world is joined by a record of
every message that was handed over and of what came of it. The record is never read:
without it the scheduler does the same.

## Main definitions

* `Handed`, `Recorded`: a message handed to a gate, and a world with a record.
* `Scheduler.Call`, `Scheduler.perform`: what a scheduler can be asked to do.
* `Scheduler.Ledger`: the table with the record.
* `Scheduler.Reached`: what runs lead to.

## Main statements

* `forget_perform`: the record has no influence.
-/

namespace GraphBroker

/-- A message handed to a gate, with what came of it. -/
structure Handed where
  /-- The gate. -/
  gate : GateId
  /-- The message. -/
  message : Message
  /-- What came of it. -/
  delivery : Delivery

/-- The subscription that a message is about, if it names one. -/
def Message.subject? : Message → Option SubscriptionId
  | .subscribed id _ _ => some id
  | .unsubscribed id => some id
  | .notification n => some n.subscription
  | _ => none

/-- The subscription whose results a message carries, if it does. -/
def Message.carries? : Message → Option SubscriptionId
  | .subscribed id _ _ => some id
  | .notification n => some n.subscription
  | _ => none

/-- A world with a record of what was handed to gates. -/
structure Recorded (ω : Type) where
  /-- The world. -/
  world : ω
  /-- What was handed to gates, the oldest first. -/
  log : List Handed := []

instance {ω : Type} [Surroundings ω] : Surroundings (Recorded ω) where
  authorize authorization r := Surroundings.authorize authorization r.world
  execute pattern r :=
    let (results, world) := Surroundings.execute pattern r.world
    (results, { r with world })
  update sparql r :=
    let (outcome, world) := Surroundings.update sparql r.world
    (outcome, { r with world })
  dispatch gate message r :=
    let (delivery, world) := Surroundings.dispatch gate message r.world
    (delivery, { world, log := r.log ++ [⟨gate, message, delivery⟩] })
  arrange r := Surroundings.arrange r.world
  arrange_perm r := Surroundings.arrange_perm r.world

namespace Scheduler

variable {ω : Type}

/-- What a scheduler can be asked to do. -/
inductive Call where
  /-- A subscription is to be made under the name `id`. -/
  | subscribe (id : SubscriptionId) (gate : GateId) (pattern : Sparql.Pattern)
    (label authorization : Option String)
  /-- The subscription `id` is to end, if it is one of `gate`. -/
  | unsubscribe (gate : GateId) (id : SubscriptionId)
  /-- The update `sparql` is to be applied. -/
  | update (sparql : String) (authorization : Option String)
  /-- The query `pattern` is to be answered. -/
  | query (pattern : Sparql.Pattern) (authorization : Option String)
  /-- All subscriptions of `gate` are to end. -/
  | unregister (gate : GateId)
  /-- All subscriptions are to end. -/
  | shutdown
  /-- The `request` of `gate` is to be carried out and replied to. A subscription is made under the
  name `id`. -/
  | process (id : SubscriptionId) (gate : GateId) (request : Request)

/-- The name under which the call makes a subscription, if it does. -/
def Call.name? : Call → Option SubscriptionId
  | .subscribe id .. => some id
  | .process id _ (.subscribe ..) => some id
  | _ => none

/-- The scheduler after a call. -/
def perform [Surroundings ω] (s : Scheduler ω) : Call → Scheduler ω
  | .subscribe id gate pattern label authorization =>
    (s.subscribe id gate pattern label authorization).2
  | .unsubscribe gate id => s.unsubscribe gate id
  | .update sparql authorization => (s.update sparql authorization).2
  | .query pattern authorization => (s.query pattern authorization).2
  | .unregister gate => (s.unregisterGate gate).2
  | .shutdown => s.shutdown
  | .process id gate request => s.process id gate request

/-! ### The record -/

/-- The table with the record of what was handed over. -/
structure Ledger where
  /-- The table. -/
  table : SubscriptionTable
  /-- What was handed to gates, the oldest first. -/
  log : List Handed

/-- No subscription in `l` has the name `id`, and no message has named it. -/
def Ledger.Unseen (l : Ledger) (id : SubscriptionId) : Prop :=
  l.table.get? id = none ∧ ∀ handed ∈ l.log, handed.message.subject? ≠ some id

/-- The table of `s` with its record. -/
def ledger (s : Scheduler (Recorded ω)) : Ledger := ⟨s.table, s.world.log⟩

/-- The scheduler `s` without its record. -/
def forget (s : Scheduler (Recorded ω)) : Scheduler ω :=
  { limit := s.limit, table := s.table, metrics := s.metrics, world := s.world.world }

/-- What runs lead to that start without subscriptions. A subscription is made under a name that is
`Unseen`. -/
inductive Reached [Surroundings ω] : Scheduler (Recorded ω) → Prop
  /-- There is no subscription at the start. -/
  | start (limit : Nat) (world : ω) : Reached { limit, world := { world } }
  /-- A `call` is carried out. -/
  | call {s : Scheduler (Recorded ω)} (call : Call) (reached : Reached s)
    (fresh : ∀ id, call.name? = some id → s.ledger.Unseen id) : Reached (s.perform call)
  /-- Something else changes the world, which is now `world`. -/
  | meanwhile {s : Scheduler (Recorded ω)} (world : ω) (reached : Reached s) :
    Reached { s with world := { s.world with world } }

/-! ### The record has no influence -/

section Forget

variable [Surroundings ω] {s : Scheduler (Recorded ω)} {gate : GateId} {message : Message}

theorem dispatch_recorded {r : Recorded ω} : Surroundings.dispatch gate message r =
    ((Surroundings.dispatch gate message r.world).1,
      { world := (Surroundings.dispatch gate message r.world).2
        log := r.log ++ [⟨gate, message, (Surroundings.dispatch gate message r.world).1⟩] }) := rfl

theorem forget_enter (sub : Subscription) :
    (s.enter sub).map id forget = s.forget.enter sub := by
  simp only [enter, dispatch, dispatch_recorded, forget]
  rcases Surroundings.dispatch sub.gate (.subscribed sub.id sub.label sub.last) s.world.world
    with ⟨delivery, world⟩
  cases delivery <;> rfl

theorem forget_execute (pattern : Sparql.Pattern) :
    (s.execute pattern).map id forget = s.forget.execute pattern := rfl

theorem forget_subscribe (name : SubscriptionId) (pattern : Sparql.Pattern)
    (label authorization : Option String) :
    (s.subscribe name gate pattern label authorization).map id forget =
      s.forget.subscribe name gate pattern label authorization := by
  have allowed : Surroundings.authorize authorization s.forget.world =
      Surroundings.authorize authorization s.world := rfl
  rw [subscribe, subscribe, allowed, ← forget_execute]
  rcases Surroundings.authorize authorization s.world with _ | _
  · rfl
  · simp only [show s.forget.limit = s.limit from rfl, show s.forget.table = s.table from rfl]
    split
    · rfl
    · rcases s.execute pattern with ⟨_ | initial, asked⟩
      · rfl
      · exact forget_enter _

theorem forget_query (pattern : Sparql.Pattern) (authorization : Option String) :
    (s.query pattern authorization).map id forget = s.forget.query pattern authorization := by
  have allowed : Surroundings.authorize authorization s.forget.world =
      Surroundings.authorize authorization s.world := rfl
  rw [query, query, allowed, ← forget_execute]
  rcases Surroundings.authorize authorization s.world with _ | _ <;> rfl

theorem forget_evaluate (subs : List Subscription) :
    (s.evaluate subs).map id forget = s.forget.evaluate subs := by
  induction subs generalizing s with
  | nil => rfl
  | cons sub rest ih =>
    rw [evaluate_cons, evaluate_cons, ← forget_execute, Prod.map_snd, ← ih]
    rfl

theorem forget_tell (sub : Subscription) (results : ResultSet) :
    (s.tell sub results).forget = s.forget.tell sub results := by
  simp only [tell, dispatch, dispatch_recorded, forget]
  split
  · rfl
  · rcases Surroundings.dispatch sub.gate _ s.world.world with ⟨delivery, world⟩
    cases delivery with
    | delivered =>
      simp only
      rcases s.table.commit sub.id results (sub.sequence + 1) with ⟨_ | _, table⟩ <;> rfl
    | gateClosed => rfl
    | busy => rfl

theorem forget_tellIfFound (entry : Subscription × Outcome ResultSet) :
    (s.tellIfFound entry).forget = s.forget.tellIfFound entry := by
  rcases entry with ⟨sub, _ | results⟩
  · rfl
  · exact forget_tell sub results

theorem forget_reevaluate : s.reevaluate.forget = s.forget.reevaluate := by
  have found : s.forget.found = s.found := congrArg Prod.fst (forget_evaluate _).symm
  have asked : s.forget.asked = s.asked.forget := congrArg Prod.snd (forget_evaluate _).symm
  rw [reevaluate_eq, reevaluate_eq, found, asked]
  refine (List.foldl_hom forget fun s entry => ?_).symm
  exact (forget_tellIfFound entry).symm

theorem forget_update (sparql : String) (authorization : Option String) :
    (s.update sparql authorization).map id forget = s.forget.update sparql authorization := by
  have allowed : Surroundings.authorize authorization s.forget.world =
      Surroundings.authorize authorization s.world := rfl
  have changed : Surroundings.update sparql s.world =
      ((Surroundings.update sparql s.forget.world).1,
        { s.world with world := (Surroundings.update sparql s.forget.world).2 }) := rfl
  rw [update, update, allowed, changed]
  rcases Surroundings.authorize authorization s.world with _ | _
  · rfl
  · rcases Surroundings.update sparql s.forget.world with ⟨_ | _, world⟩
    · rfl
    · exact Prod.ext rfl forget_reevaluate

theorem forget_reply (counter : Option Counter) :
    (s.reply gate message counter).forget = s.forget.reply gate message counter := by
  simp only [reply, dispatch, dispatch_recorded, forget]
  rcases Surroundings.dispatch gate message s.world.world with ⟨delivery, world⟩
  cases delivery <;> cases counter <;> rfl

theorem forget_process (name : SubscriptionId) (request : Request) :
    (s.process name gate request).forget = s.forget.process name gate request := by
  cases request with
  | subscribe pattern label authorization =>
    rw [process, process, ← forget_subscribe]
    rcases s.subscribe name gate pattern label _ with ⟨_ | _, done⟩
    · exact forget_reply _
    · rfl
  | unsubscribe other authorization => exact forget_reply _
  | update sparql authorization =>
    rw [process, process, ← forget_update]
    rcases s.update sparql _ with ⟨_ | _, done⟩ <;> exact forget_reply _
  | query pattern authorization =>
    rw [process, process, ← forget_query]
    rcases s.query pattern _ with ⟨_ | _, done⟩ <;> exact forget_reply _

/-- Without its record a scheduler does the same, whatever the `call`. -/
theorem forget_perform (call : Call) : (s.perform call).forget = s.forget.perform call := by
  cases call with
  | subscribe name gate pattern label authorization =>
    exact congrArg Prod.snd (forget_subscribe name pattern label authorization)
  | update sparql authorization => exact congrArg Prod.snd (forget_update sparql authorization)
  | query pattern authorization => exact congrArg Prod.snd (forget_query pattern authorization)
  | unsubscribe gate name => rfl
  | unregister gate => rfl
  | shutdown => rfl
  | process name gate request => exact forget_process name request

end Forget

end Scheduler

end GraphBroker
