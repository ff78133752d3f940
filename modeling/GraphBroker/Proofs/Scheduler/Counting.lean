import GraphBroker.Proofs.Scheduler.Change

/-!
# What a scheduler counts

A scheduler counts the messages that gates take from it: the replies to subscriptions and to their
ends, notifications and errors. A message that a gate does not take is not counted, and neither is
anything else.

## Main definitions

* `Metrics.value`, `Metrics.countAll`: the value of a counter, and one more for each in a list.
* `Handed.counter?`: the counter of a message that was handed to a gate.
* `Scheduler.Counted`: the counters have gone up by what gates have taken.

## Main statements

* `value_countAll`: how far a counter has gone up.
* `Counted.update`, `Counted.process`: nothing else is counted by updates and requests.
-/

namespace GraphBroker

/-! ### Counters -/

namespace Metrics

variable {m : Metrics} {counter other : Counter} {counters : List Counter}

/-- The value of a counter. -/
def value (m : Metrics) : Counter → Nat
  | .messages => m.messages
  | .fragmented => m.fragmented
  | .errors => m.errors
  | .subscribeResponses => m.subscribeResponses
  | .unsubscribeResponses => m.unsubscribeResponses
  | .notifications => m.notifications
  | .errorResponses => m.errorResponses

/-- One more of each of the `counters`, as often as it is listed. -/
def countAll (m : Metrics) (counters : List Counter) : Metrics :=
  counters.foldl count m

theorem countAll_append (m : Metrics) (counters more : List Counter) :
    m.countAll (counters ++ more) = (m.countAll counters).countAll more :=
  List.foldl_append ..

theorem value_count :
    (m.count counter).value other = m.value other + if counter = other then 1 else 0 := by
  cases counter <;> cases other <;> rfl

/-- A counter goes up once for each time that `counters` has it. -/
theorem value_countAll :
    (m.countAll counters).value counter = m.value counter + counters.count counter := by
  induction counters generalizing m with
  | nil => rfl
  | cons first rest ih =>
    calc ((m.count first).countAll rest).value counter
      _ = (m.count first).value counter + rest.count counter := ih
      _ = m.value counter + ((if first = counter then 1 else 0) + rest.count counter) := by
        rw [value_count, Nat.add_assoc]
      _ = m.value counter + (first :: rest).count counter := by
        rw [List.count_cons, Nat.add_comm (rest.count counter)]
        simp only [beq_iff_eq]

theorem value_reset : m.reset.value counter = 0 := by
  cases counter <;> rfl

theorem value_opened : m.opened.value counter = m.value counter := by
  cases counter <;> rfl

theorem value_closed : m.closed.value counter = m.value counter := by
  cases counter <;> rfl

/-- Of the counters of gates, `m` and `m'` have the same values. -/
structure SameGates (m m' : Metrics) : Prop where
  /-- As many gates are open. -/
  active : m'.active = m.active
  /-- As many gates have been opened. -/
  openedGates : m'.openedGates = m.openedGates
  /-- As many gates have been closed. -/
  closedGates : m'.closedGates = m.closedGates

/-- What `countAll` counts does not concern the counters of gates. -/
theorem sameGates_countAll : m.SameGates (m.countAll counters) := by
  induction counters generalizing m with
  | nil => exact ⟨rfl, rfl, rfl⟩
  | cons first rest ih =>
    obtain ⟨active, openedGates, closedGates⟩ := ih (m := m.count first)
    refine ⟨active.trans ?_, openedGates.trans ?_, closedGates.trans ?_⟩ <;> cases first <;> rfl

end Metrics

/-- The counter of the messages of this kind that gates take. -/
def Message.counter? : Message → Option Counter
  | subscribed .. => some .subscribeResponses
  | unsubscribed _ => some .unsubscribeResponses
  | notification _ => some .notifications
  | error _ => some .errorResponses
  | updated | results _ => none

/-- The counter that goes up when `handed` was handed to a gate. A message that is not taken is not
counted. -/
def Handed.counter? (handed : Handed) : Option Counter :=
  if handed.delivery = .delivered then handed.message.counter? else none

namespace Scheduler

/-! ### One message -/

section

variable {ω : Type} [Surroundings ω] {s : Scheduler ω} {gate : GateId} {message : Message}
  {sub : Subscription} {results : ResultSet}

/-- What is counted when `message` is handed to `gate` now. -/
def countersOf (s : Scheduler ω) (gate : GateId) (message : Message) : List Counter :=
  (Handed.counter? ⟨gate, message, (Surroundings.dispatch gate message s.world).1⟩).toList

theorem metrics_reply : (s.reply gate message message.counter?).metrics =
    s.metrics.countAll (s.countersOf gate message) := by
  simp only [reply, dispatch, countersOf, Handed.counter?]
  rcases Surroundings.dispatch gate message s.world with ⟨delivery, world⟩
  cases delivery <;> cases message.counter? <;> rfl

theorem metrics_enter : (s.enter sub).2.metrics =
    s.metrics.countAll (s.countersOf sub.gate sub.greeting) := by
  unfold Subscription.greeting
  rcases answer : Surroundings.dispatch sub.gate (.subscribed sub.id sub.label sub.last) s.world
    with ⟨delivery, world⟩
  cases delivery <;> simp [enter, dispatch, countersOf, Handed.counter?, Message.counter?, answer,
    count, Metrics.countAll]

/-- A notification that is taken is counted, since `sub` is still there. -/
theorem metrics_tell (stands : s.table.get? sub.id = some sub)
    (differ : ¬sub.last.Agrees results) : (s.tell sub results).metrics =
      s.metrics.countAll (s.countersOf sub.gate (sub.offer results)) := by
  rw [tell, if_neg (mt ResultDiff.isEmpty_diff.1 differ)]
  unfold Subscription.offer
  rcases answer : Surroundings.dispatch sub.gate
    (.notification ⟨sub.id, sub.sequence + 1, sub.last.diff results⟩) s.world
    with ⟨delivery, world⟩
  cases delivery <;> simp [dispatch, countersOf, Handed.counter?, Message.counter?, answer,
    SubscriptionTable.commit, stands, count, Metrics.countAll]

@[simp] theorem metrics_evaluate (subs : List Subscription) :
    (s.evaluate subs).2.metrics = s.metrics := by
  induction subs generalizing s with
  | nil => rfl
  | cons sub rest ih =>
    rw [evaluate_cons, ih]
    rfl

end

/-! ### Updates and requests -/

variable {ω : Type} [Surroundings ω] {m : Metrics} {s after : Scheduler (Recorded ω)}
  {id : SubscriptionId} {gate : GateId} {message : Message}

/-- Beginning with `m`, the counters have gone up by what gates have taken since the beginning of
the record. -/
def Counted (m : Metrics) (s : Scheduler (Recorded ω)) : Prop :=
  s.metrics = m.countAll (s.world.log.filterMap Handed.counter?)

namespace Counted

/-- One more message has been handed over and counted. -/
theorem told (counted : Counted m s)
    (world : after.world = (Surroundings.dispatch gate message s.world).2)
    (metrics : after.metrics = s.metrics.countAll (s.countersOf gate message)) :
    Counted m after := by
  have singleton (handed : Handed) :
      [handed].filterMap Handed.counter? = handed.counter?.toList := by
    cases found : handed.counter? <;> simp [found]
  -- The message is the last one of the record, and nothing else is counted.
  rw [Counted, metrics, world, log_dispatch, List.filterMap_append, Metrics.countAll_append,
    ← counted, singleton]
  rfl

omit [Surroundings ω] in
/-- Nothing has been handed over, and nothing has been counted. -/
theorem silent (counted : Counted m s) (log : after.world.log = s.world.log)
    (metrics : after.metrics = s.metrics) : Counted m after := by
  rw [Counted, metrics, log]
  exact counted

theorem reply (counted : Counted m s) (gate : GateId) (message : Message) :
    Counted m (s.reply gate message message.counter?) :=
  counted.told world_reply metrics_reply

theorem execute (counted : Counted m s) (pattern : Sparql.Pattern) :
    Counted m (s.execute pattern).2 :=
  counted.silent rfl rfl

theorem enter (counted : Counted m s) (sub : Subscription) : Counted m (s.enter sub).2 := by
  refine counted.told ?_ metrics_enter
  by_cases taken : (Surroundings.dispatch sub.gate sub.greeting s.world).1 = .delivered
  · exact (enter_of_delivered taken).2.2
  · exact (enter_of_not_delivered taken).2.2

theorem tellIfFound (counted : Counted m s) {entry : Subscription × Outcome ResultSet}
    (stands : s.table.get? entry.1.id = some entry.1) : Counted m (s.tellIfFound entry) := by
  obtain ⟨sub, _ | results⟩ := entry
  · exact counted
  · rw [tellIfFound_ok]
    by_cases same : sub.last.Agrees results
    · rwa [tell_of_agrees same]
    · exact counted.told (tell_of_not_agrees same).2 (metrics_tell stands same)

theorem reevaluate (counted : Counted m s) (wf : s.table.WellFormed) :
    Counted m s.reevaluate := by
  have asked : Counted m s.asked :=
    counted.silent (congrArg Ledger.log ledger_asked) (metrics_evaluate _)
  -- Every subscription that is told is still in the table as it was found.
  rw [reevaluate_eq]
  exact foldl_tellIfFound_induction (current_found wf) asked
    fun s entry _ stands counted => counted.tellIfFound stands

/-- The `update` counts the notifications that are taken. -/
theorem update (counted : Counted m s) (wf : s.table.WellFormed) (sparql : String)
    (authorization : Option String) : Counted m (s.update sparql authorization).2 := by
  have applied : Counted m (s.applied sparql) := counted.silent rfl rfl
  obtain ⟨_, refused⟩ | ⟨_, _, failed⟩ | ⟨_, done⟩ := s.update_cases sparql authorization
  · rwa [refused]
  · rwa [failed]
  · rw [done]
    exact applied.reevaluate wf

theorem subscribe (counted : Counted m s) (pattern : Sparql.Pattern)
    (label authorization : Option String) :
    Counted m (s.subscribe id gate pattern label authorization).2 := by
  obtain ⟨_, refused⟩ | ⟨_, failed⟩ | ⟨initial, -, entered⟩ :=
    s.subscribe_cases id gate pattern label authorization
  · rwa [refused]
  · rw [failed]
    exact counted.execute pattern
  · rw [entered]
    exact (counted.execute pattern).enter _

theorem query (counted : Counted m s) (pattern : Sparql.Pattern)
    (authorization : Option String) : Counted m (s.query pattern authorization).2 := by
  obtain ⟨_, refused⟩ | asked := s.query_cases pattern authorization
  · rwa [refused]
  · rw [asked]
    exact counted.execute pattern

/-- The `request` counts what gates take, its reply among it. -/
theorem process (counted : Counted m s) (wf : s.table.WellFormed) (id : SubscriptionId)
    (gate : GateId) (request : Request) : Counted m (s.process id gate request) := by
  cases request with
  | subscribe pattern label authorization =>
    have done : Counted m (s.subscribe id gate pattern label
        (Request.subscribe pattern label authorization).bearer?).2 :=
      counted.subscribe pattern label _
    rw [Scheduler.process]
    generalize s.subscribe id gate pattern label _ = answer at done ⊢
    obtain ⟨fault | _, after⟩ := answer
    · exact done.reply gate (.ofFault fault)
    · exact done
  | unsubscribe other authorization =>
    have ended : Counted m (s.unsubscribe gate other) := counted.silent rfl rfl
    exact ended.reply gate (.unsubscribed other)
  | update sparql authorization =>
    have done := counted.update wf sparql (Request.update sparql authorization).bearer?
    rw [Scheduler.process]
    generalize s.update sparql _ = answer at done ⊢
    obtain ⟨fault | _, after⟩ := answer
    · exact done.reply gate (.ofFault fault)
    · exact done.reply gate .updated
  | query pattern authorization =>
    have done := counted.query pattern (Request.query pattern authorization).bearer?
    rw [Scheduler.process]
    generalize s.query pattern _ = answer at done ⊢
    obtain ⟨fault | results, after⟩ := answer
    · exact done.reply gate (.ofFault fault)
    · exact done.reply gate (.results results)

end Counted

end Scheduler

end GraphBroker
