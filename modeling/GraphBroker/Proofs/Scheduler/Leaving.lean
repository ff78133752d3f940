import GraphBroker.Proofs.Scheduler.Round

/-!
# How a subscription leaves the table

A subscription stays in the table until a call ends it, or until its gate is found closed when it
is to be told of a change. Nothing else takes it out: neither a gate that is busy, nor an engine
that fails, nor what becomes of other subscriptions.

## Main definitions

* `Call.Ends`: a call that ends a subscription, whatever engine and gates answer.
* `FoundClosed`: the gate of a subscription was found closed.

## Main statements

* `leavesIff_update`: what an update does to one subscription.
* `leavesIff_perform`: a call takes a subscription out if and only if it ends it, or finds its gate
  closed.
-/

namespace GraphBroker.Scheduler

/-- The call ends `sub`: it asks for just that on behalf of the gate that owns `sub`, or it
unregisters this gate, or it ends everything. -/
def Call.Ends (sub : Subscription) : Call → Prop
  | .unsubscribe gate id => id = sub.id ∧ sub.gate = gate
  | .process _ gate (.unsubscribe id _) => id = sub.id ∧ sub.gate = gate
  | .unregister gate => sub.gate = gate
  | .shutdown => True
  | _ => False

/-- A gate that was handed results of the subscription `id` has answered `.gateClosed`. -/
def FoundClosed (log : List Handed) (id : SubscriptionId) : Prop :=
  ∃ handed ∈ log, handed.message.carries? = some id ∧ handed.delivery = .gateClosed

/-- From `l` to `l'` the subscription `id` leaves the table if and only if `ends` holds or its gate
is found closed. -/
def LeavesIff (ends : Prop) (id : SubscriptionId) (l l' : Ledger) : Prop :=
  ∃ more, l'.log = l.log ++ more ∧ (l'.table.get? id = none ↔ ends ∨ FoundClosed more id)

variable {ω : Type} {s : Scheduler (Recorded ω)} {l l' l'' : Ledger} {sub : Subscription}
  {id : SubscriptionId} {ends : Prop} {handed : Handed}

theorem subject?_of_carries? {message : Message} (carried : message.carries? = some id) :
    message.subject? = some id := by
  cases message with
  | subscribed => exact carried
  | notification => exact carried
  | _ => cases carried

theorem not_foundClosed_nil : ¬FoundClosed [] id := by
  rintro ⟨handed, listed, -⟩
  cases listed

namespace LeavesIff

/-- A subscription `id` that is there before and after, with nothing handed over. -/
theorem stays (stands : l'.table.get? id = some sub) (log : l'.log = l.log) :
    LeavesIff False id l l' :=
  ⟨[], by rw [log, List.append_nil], by simp [stands, not_foundClosed_nil]⟩

/-- A message that carries no results of `id` makes no difference. -/
theorem concat (before : LeavesIff ends id l l') (table : l''.table.get? id = l'.table.get? id)
    (log : l''.log = l'.log ++ [handed]) (other : handed.message.carries? ≠ some id) :
    LeavesIff ends id l l'' := by
  obtain ⟨more, same, leaves⟩ := before
  refine ⟨more ++ [handed], by rw [log, same, List.append_assoc], ?_⟩
  rw [table, leaves]
  simp [FoundClosed, or_and_right, exists_or, other]

/-- Without a message, the `table` decides. -/
theorem ended {table : SubscriptionTable} (leaves : table.get? id = none ↔ ends) :
    LeavesIff ends id l { l with table } :=
  ⟨[], by simp, by simp [leaves, not_foundClosed_nil]⟩

end LeavesIff

/-- In a round, `sub` leaves the table if and only if the answer to its own notification is
`.gateClosed`. -/
theorem Settled.get?_eq_none_iff {after : SubscriptionTable} {offers : List Handed}
    {outcome : Outcome ResultSet} (settled : Settled after offers sub outcome) :
    after.get? sub.id = none ↔ FoundClosed offers sub.id := by
  have told (closed : FoundClosed offers sub.id) :
      ∃ handed ∈ about offers sub.id, handed.delivery = .gateClosed := by
    obtain ⟨handed, listed, carried, closed⟩ := closed
    exact ⟨handed, List.mem_filter.2 ⟨listed, by simp [subject?_of_carries? carried]⟩, closed⟩
  by_cases quiet : ∀ results, ¬Due sub outcome results
  · obtain ⟨nothing, kept⟩ := settled.quiet quiet
    rw [nothing] at told
    rw [kept]
    exact iff_of_false nofun fun closed => by simpa using told closed
  · obtain ⟨results, due⟩ := Classical.not_forall_not.1 quiet
    obtain ⟨delivery, one, kept⟩ := settled.due results due
    have offered : ⟨sub.gate, sub.offer results, delivery⟩ ∈ about offers sub.id := by simp [one]
    rw [kept]
    refine ⟨fun gone => ?_, fun closed => ?_⟩
    · cases delivery with
      | gateClosed => exact ⟨_, (List.mem_filter.1 offered).1, rfl, rfl⟩
      | delivered => cases gone
      | busy => cases gone
    · obtain ⟨handed, listed, answer⟩ := told closed
      rw [one, List.mem_singleton] at listed
      rw [listed] at answer
      rw [show delivery = .gateClosed from answer]
      rfl

/-! ### What a call does to one subscription -/

theorem leavesIff_unsubscribe (stands : s.table.get? sub.id = some sub) (gate : GateId)
    (name : SubscriptionId) : LeavesIff (name = sub.id ∧ sub.gate = gate) sub.id s.ledger
      (s.unsubscribe gate name).ledger := by
  refine .ended ?_
  rw [table_unsubscribe, SubscriptionTable.get?_removeOwned, stands]
  by_cases same : name = sub.id <;> simp [same, stands]

theorem leavesIff_unregister (wf : s.table.WellFormed)
    (stands : s.table.get? sub.id = some sub) (gate : GateId) :
    LeavesIff (sub.gate = gate) sub.id s.ledger (s.unregisterGate gate).2.ledger := by
  refine .ended ?_
  rw [table_unregisterGate, SubscriptionTable.get?_removeGate, stands]
  simp [wf.mem_owned, stands]

theorem leavesIff_shutdown (stands : s.table.get? sub.id = some sub) :
    LeavesIff True sub.id s.ledger s.shutdown.ledger := by
  have listed : sub.id ∈ s.table.snapshot.map (·.id) :=
    List.mem_map_of_mem (SubscriptionTable.mem_snapshot.2 ⟨_, stands⟩)
  refine .ended ?_
  rw [table_shutdown, SubscriptionTable.get?_foldl_remove, if_pos listed]
  simp

variable [Surroundings ω]

/-- A subscription `made` under another name leaves `sub` alone, whether its gate takes the reply
or not. -/
theorem leavesIff_enter (wf : s.table.WellFormed) (made : Subscription)
    (different : made.id ≠ sub.id) (fresh : s.table.get? made.id = none)
    (quiet : LeavesIff False sub.id l s.ledger) :
    LeavesIff False sub.id l (s.enter made).2.ledger := by
  have other : made.greeting.carries? ≠ some sub.id := different ∘ Option.some.inj
  by_cases taken : (Surroundings.dispatch made.gate made.greeting s.world).1 = .delivered
  · obtain ⟨-, table, world⟩ := enter_of_delivered taken
    refine quiet.concat ?_ (congrArg Recorded.log world) other
    rw [ledger, table, SubscriptionTable.get?_insert, if_neg different]
    rfl
  · obtain ⟨-, table, world⟩ := enter_of_not_delivered taken
    refine quiet.concat ?_ (congrArg Recorded.log world) other
    rw [ledger, table, wf.remove_insert fresh]
    rfl

theorem leavesIff_subscribe (wf : s.table.WellFormed) (stands : s.table.get? sub.id = some sub)
    (name : SubscriptionId) (gate : GateId) (pattern : Sparql.Pattern)
    (label authorization : Option String) (fresh : s.table.get? name = none) :
    LeavesIff False sub.id s.ledger
      (s.subscribe name gate pattern label authorization).2.ledger := by
  have quiet : LeavesIff False sub.id s.ledger s.ledger := .stays stands rfl
  obtain ⟨_, refused⟩ | ⟨_, failed⟩ | ⟨initial, -, entered⟩ :=
    s.subscribe_cases name gate pattern label authorization
  · rwa [refused]
  · rwa [failed, ledger_execute]
  · rw [entered]
    refine leavesIff_enter (s := (s.execute pattern).2) wf _ ?_ fresh quiet
    rintro rfl
    rw [fresh] at stands
    cases stands

theorem leavesIff_update (wf : s.table.WellFormed) (stands : s.table.get? sub.id = some sub)
    (sparql : String) (authorization : Option String) :
    LeavesIff False sub.id s.ledger (s.update sparql authorization).2.ledger := by
  obtain ⟨_, refused⟩ | ⟨_, _, failed⟩ | ⟨_, done⟩ := s.update_cases sparql authorization
  · rw [refused]
    exact .stays stands rfl
  · rw [failed, ledger_applied]
    exact .stays stands rfl
  · rw [done]
    obtain ⟨offers, log, -, settled⟩ := settled_reevaluate (s := s.applied sparql) wf
    obtain ⟨outcome, entry⟩ := exists_mem_found (s := s.applied sparql) (wf.mem_snapshot.2 stands)
    exact ⟨offers, log, by rw [false_or]; exact (settled sub outcome entry).get?_eq_none_iff⟩

theorem LeavesIff.reply (before : LeavesIff ends id l s.ledger) (gate : GateId) (message : Message)
    (counter : Option Counter) (plain : message.carries? = none) :
    LeavesIff ends id l (s.reply gate message counter).ledger := by
  have log : (s.reply gate message counter).world.log = s.world.log ++
      [⟨gate, message, (Surroundings.dispatch gate message s.world).1⟩] :=
    congrArg Recorded.log world_reply
  refine before.concat ?_ log (by rw [plain]; exact nofun)
  rw [ledger, table_reply]
  rfl

theorem leavesIff_process (wf : s.table.WellFormed) (stands : s.table.get? sub.id = some sub)
    (name : SubscriptionId) (gate : GateId) (request : Request)
    (fresh : ∀ other, (Call.process name gate request).name? = some other →
      s.table.get? other = none) :
    LeavesIff ((Call.process name gate request).Ends sub) sub.id s.ledger
      (s.process name gate request).ledger := by
  cases request with
  | subscribe pattern label authorization =>
    have leaves := leavesIff_subscribe wf stands name gate pattern label
      (Request.subscribe pattern label authorization).bearer? (fresh name rfl)
    rw [process]
    generalize s.subscribe name gate pattern label _ = answer at leaves ⊢
    obtain ⟨fault | _, done⟩ := answer
    · exact leaves.reply gate (.ofFault fault) _ rfl
    · exact leaves
  | unsubscribe other authorization =>
    exact (leavesIff_unsubscribe stands gate other).reply gate (.unsubscribed other) _ rfl
  | update sparql authorization =>
    have leaves := leavesIff_update wf stands sparql (Request.update sparql authorization).bearer?
    rw [process]
    generalize s.update sparql _ = answer at leaves ⊢
    obtain ⟨fault | _, done⟩ := answer
    · exact leaves.reply gate (.ofFault fault) _ rfl
    · exact leaves.reply gate .updated _ rfl
  | query pattern authorization =>
    have leaves : LeavesIff False sub.id s.ledger
        (s.query pattern (Request.query pattern authorization).bearer?).2.ledger := by
      rw [ledger_query]
      exact .stays stands rfl
    rw [process]
    generalize s.query pattern _ = answer at leaves ⊢
    obtain ⟨fault | results, done⟩ := answer
    · exact leaves.reply gate (.ofFault fault) _ rfl
    · exact leaves.reply gate (.results results) _ rfl

/-- A call takes `sub` out of the table if and only if it ends `sub`, or finds the gate of `sub`
closed when it is to be told of a change. -/
theorem leavesIff_perform (wf : s.table.WellFormed) (stands : s.table.get? sub.id = some sub)
    (call : Call) (fresh : ∀ other, call.name? = some other → s.table.get? other = none) :
    LeavesIff (call.Ends sub) sub.id s.ledger (s.perform call).ledger := by
  cases call with
  | subscribe name gate pattern label authorization =>
    exact leavesIff_subscribe wf stands name gate pattern label authorization (fresh name rfl)
  | unsubscribe gate name => exact leavesIff_unsubscribe stands gate name
  | update sparql authorization => exact leavesIff_update wf stands sparql authorization
  | query pattern authorization =>
    rw [perform, ledger_query]
    exact .stays stands rfl
  | unregister gate => exact leavesIff_unregister wf stands gate
  | shutdown => exact leavesIff_shutdown stands
  | process name gate request => exact leavesIff_process wf stands name gate request fresh

end GraphBroker.Scheduler
