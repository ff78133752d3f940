import GraphBroker.Proofs.Rdf.Changes
import GraphBroker.Proofs.Subscription.Lookup
import GraphBroker.Scheduler.Basic

/-!
# What requests do to the table and to the world

Each request of a scheduler is described by the table and the world that it leaves.
The metrics play no part. Telling one subscription touches no other, so that the
round after an update can be followed one subscription at a time.

## Main definitions

* `Subscription.offer`: the notification that a subscription is due.
* `SubscriptionTable.settle`: the table after the answer to that notification.

## Main statements

* `tell_of_agrees`, `tell_of_not_agrees`: what telling one subscription does.
* `enter_of_delivered`, `enter_of_not_delivered`: what entering a subscription does.
* `foldl_tellIfFound_induction`: what each telling keeps, a whole round keeps.
-/

namespace GraphBroker

/-- The reply with the first results, when `sub` has just been made. -/
def Subscription.greeting (sub : Subscription) : Message :=
  .subscribed sub.id sub.label sub.last

/-- The notification that a subscription is due when its results are now `results`. -/
def Subscription.offer (sub : Subscription) (results : ResultSet) : Message :=
  .notification ⟨sub.id, sub.sequence + 1, sub.last.diff results⟩

/-- The subscription after its gate has taken a notification of `results`. -/
def Subscription.told (sub : Subscription) (results : ResultSet) : Subscription :=
  { sub with last := results, sequence := sub.sequence + 1 }

/-- What is kept of `sub` after the answer of its gate to a notification of `results`. -/
def Subscription.settled? (sub : Subscription) (results : ResultSet) :
    Delivery → Option Subscription
  | .delivered => some (sub.told results)
  | .gateClosed => none
  | .busy => some sub

/-- The table after the answer of a gate to a notification that `sub` has `results` now. -/
def SubscriptionTable.settle (t : SubscriptionTable) (sub : Subscription) (results : ResultSet) :
    Delivery → SubscriptionTable
  | .delivered => (t.commit sub.id results (sub.sequence + 1)).2
  | .gateClosed => (t.remove sub.id).2
  | .busy => t

namespace SubscriptionTable

variable {t : SubscriptionTable} {sub : Subscription} {results : ResultSet} {delivery : Delivery}
  {id : SubscriptionId}

theorem get?_settle (current : t.get? sub.id = some sub) :
    (t.settle sub results delivery).get? id =
      if sub.id = id then sub.settled? results delivery else t.get? id := by
  cases delivery with
  | delivered => simp only [settle, get?_commit, current, Option.map_some,
      Subscription.settled?, Subscription.told]
  | gateClosed => simp only [settle, get?_remove, Subscription.settled?]
  | busy =>
    simp only [settle, Subscription.settled?]
    split
    · rename_i same
      rw [← same, current]
    · rfl

theorem WellFormed.settle (wf : t.WellFormed) : (t.settle sub results delivery).WellFormed := by
  cases delivery with
  | delivered => exact wf.commit
  | gateClosed => exact wf.remove
  | busy => exact wf

end SubscriptionTable

namespace Scheduler

variable {ω : Type} {s : Scheduler ω} {gate : GateId} {counter : Counter}

@[simp] theorem table_count : (s.count counter).table = s.table := rfl

@[simp] theorem world_count : (s.count counter).world = s.world := rfl

/-! ### Ending subscriptions -/

theorem table_unsubscribe {id : SubscriptionId} :
    (s.unsubscribe gate id).table = (s.table.removeOwned gate id).2 := rfl

theorem table_unregisterGate : (s.unregisterGate gate).2.table = (s.table.removeGate gate).2 := rfl

theorem table_shutdown : s.shutdown.table =
    s.table.snapshot.foldl (fun table entry => (table.remove entry.id).2) s.table := rfl

variable [Surroundings ω] {message : Message} {pattern : Sparql.Pattern} {sub : Subscription}
  {results : ResultSet}

/-! ### Asking the engine -/

@[simp] theorem execute_fst :
    (s.execute pattern).1 = (Surroundings.execute pattern s.world).1 := rfl

@[simp] theorem table_execute : (s.execute pattern).2.table = s.table := rfl

/-! ### Entering a subscription -/

theorem enter_of_delivered
    (taken : (Surroundings.dispatch sub.gate sub.greeting s.world).1 = .delivered) :
    (s.enter sub).1 = .ok sub.id ∧ (s.enter sub).2.table = s.table.insert sub ∧
      (s.enter sub).2.world = (Surroundings.dispatch sub.gate sub.greeting s.world).2 := by
  unfold Subscription.greeting at taken ⊢
  rcases answer : Surroundings.dispatch sub.gate (.subscribed sub.id sub.label sub.last) s.world
    with ⟨delivery, world⟩
  obtain rfl : delivery = .delivered := by rw [← taken, answer]
  simp [enter, dispatch, answer]

theorem enter_of_not_delivered
    (missed : (Surroundings.dispatch sub.gate sub.greeting s.world).1 ≠ .delivered) :
    (s.enter sub).1 =
        .error (notDelivered (Surroundings.dispatch sub.gate sub.greeting s.world).1) ∧
      (s.enter sub).2.table = ((s.table.insert sub).remove sub.id).2 ∧
      (s.enter sub).2.world = (Surroundings.dispatch sub.gate sub.greeting s.world).2 := by
  unfold Subscription.greeting at missed ⊢
  rcases answer : Surroundings.dispatch sub.gate (.subscribed sub.id sub.label sub.last) s.world
    with ⟨delivery, world⟩
  rw [answer] at missed
  cases delivery with
  | delivered => exact absurd rfl missed
  | gateClosed => simp [enter, dispatch, answer]
  | busy => simp [enter, dispatch, answer]

theorem enter_eq_error {fault : Fault} : (s.enter sub).1 = .error fault ↔
    ∃ delivery, (Surroundings.dispatch sub.gate sub.greeting s.world).1 = delivery ∧
      delivery ≠ .delivered ∧ notDelivered delivery = fault := by
  by_cases taken : (Surroundings.dispatch sub.gate sub.greeting s.world).1 = .delivered
  · rw [(enter_of_delivered taken).1]
    simp [taken]
  · rw [(enter_of_not_delivered taken).1]
    simp [taken]

/-- A request to subscribe is refused, or the engine fails, or the subscription is entered with the
results `initial` of the engine. -/
theorem subscribe_cases (s : Scheduler ω) (id : SubscriptionId) (gate : GateId)
    (pattern : Sparql.Pattern) (label authorization : Option String) :
    (∃ fault, s.subscribe id gate pattern label authorization = (.error fault, s)) ∨
    (∃ fault, s.subscribe id gate pattern label authorization =
      (.error fault, (s.execute pattern).2)) ∨
    ∃ initial, (Surroundings.execute pattern s.world).1 = .ok initial ∧
      s.subscribe id gate pattern label authorization =
        (s.execute pattern).2.enter { id, gate, pattern, label, last := initial } := by
  unfold subscribe
  rcases Surroundings.authorize authorization s.world with fault | _
  · exact .inl ⟨fault, rfl⟩
  · simp only
    split
    · exact .inl ⟨_, rfl⟩
    · right
      rw [← execute_fst]
      rcases s.execute pattern with ⟨fault | initial, asked⟩
      · exact .inl ⟨fault, rfl⟩
      · exact .inr ⟨initial, rfl, rfl⟩

/-- A query is refused, or the engine is asked. -/
theorem query_cases (s : Scheduler ω) (pattern : Sparql.Pattern) (authorization : Option String) :
    (∃ fault, s.query pattern authorization = (.error fault, s)) ∨
      s.query pattern authorization = s.execute pattern := by
  unfold query
  rcases Surroundings.authorize authorization s.world with fault | _
  · exact .inl ⟨fault, rfl⟩
  · exact .inr rfl

/-- The scheduler after the engine has been asked to apply `sparql`. -/
def applied (s : Scheduler ω) (sparql : String) : Scheduler ω :=
  { s with world := (Surroundings.update sparql s.world).2 }

/-- An update is refused, or the engine fails, or `sparql` is applied and gates are told. -/
theorem update_cases (s : Scheduler ω) (sparql : String) (authorization : Option String) :
    (∃ fault, s.update sparql authorization = (.error fault, s)) ∨
    (∃ fault, (Surroundings.update sparql s.world).1 = .error fault ∧
      s.update sparql authorization = (.error fault, s.applied sparql)) ∨
    ((Surroundings.update sparql s.world).1 = .ok () ∧
      s.update sparql authorization = (.ok (), (s.applied sparql).reevaluate)) := by
  unfold update applied
  rcases Surroundings.authorize authorization s.world with fault | _
  · exact .inl ⟨fault, rfl⟩
  · right
    rcases Surroundings.update sparql s.world with ⟨fault | _, world⟩
    · exact .inl ⟨fault, rfl, rfl⟩
    · exact .inr ⟨rfl, rfl⟩

/-- An update that answers `.ok ()` has been applied, and gates have been told. -/
theorem update_of_ok {sparql : String} {authorization : Option String}
    (done : (s.update sparql authorization).1 = .ok ()) :
    (Surroundings.update sparql s.world).1 = .ok () ∧
      (s.update sparql authorization).2 = (s.applied sparql).reevaluate := by
  obtain ⟨_, refused⟩ | ⟨_, _, failed⟩ | ⟨applies, told⟩ := s.update_cases sparql authorization
  · rw [refused] at done
    cases done
  · rw [failed] at done
    cases done
  · exact ⟨applies, congrArg Prod.snd told⟩

@[simp] theorem table_reply {counter : Option Counter} :
    (s.reply gate message counter).table = s.table := by
  simp only [reply, dispatch]
  rcases Surroundings.dispatch gate message s.world with ⟨delivery, world⟩
  cases delivery <;> cases counter <;> rfl

@[simp] theorem world_reply {counter : Option Counter} :
    (s.reply gate message counter).world = (Surroundings.dispatch gate message s.world).2 := by
  simp only [reply, dispatch]
  rcases Surroundings.dispatch gate message s.world with ⟨delivery, world⟩
  cases delivery <;> cases counter <;> rfl

/-! ### Telling what has changed -/

theorem tell_of_agrees (same : sub.last.Agrees results) : s.tell sub results = s := by
  simp only [tell, if_pos (ResultDiff.isEmpty_diff.2 same)]

theorem tell_of_not_agrees (differ : ¬sub.last.Agrees results) :
    (s.tell sub results).table = s.table.settle sub results
        (Surroundings.dispatch sub.gate (sub.offer results) s.world).1 ∧
      (s.tell sub results).world =
        (Surroundings.dispatch sub.gate (sub.offer results) s.world).2 := by
  rw [tell, if_neg (mt ResultDiff.isEmpty_diff.1 differ)]
  simp only [dispatch, Subscription.offer]
  rcases Surroundings.dispatch sub.gate (.notification _) s.world with ⟨delivery, world⟩
  cases delivery with
  | delivered =>
    -- A subscription that is no longer there is not committed, and the table stays.
    cases found : s.table.get? sub.id <;> simp [SubscriptionTable.settle,
      SubscriptionTable.commit, found]
  | gateClosed => exact ⟨rfl, rfl⟩
  | busy => exact ⟨rfl, rfl⟩

theorem tellIfFound_ok : s.tellIfFound (sub, .ok results) = s.tell sub results := rfl

/-- Telling the subscription of `entry` leaves any other one, `id`, as it is. -/
theorem get?_tellIfFound_of_ne {entry : Subscription × Outcome ResultSet} {id : SubscriptionId}
    (other : entry.1.id ≠ id) : (s.tellIfFound entry).table.get? id = s.table.get? id := by
  obtain ⟨sub, _ | results⟩ := entry
  · rfl
  · by_cases same : sub.last.Agrees results
    · rw [tellIfFound_ok, tell_of_agrees same]
    · rw [tellIfFound_ok, (tell_of_not_agrees same).1]
      cases (Surroundings.dispatch sub.gate (sub.offer results) s.world).1 with
      | delivered => simp only [SubscriptionTable.settle, SubscriptionTable.get?_commit,
          if_neg other]
      | gateClosed => simp only [SubscriptionTable.settle, SubscriptionTable.get?_remove,
          if_neg other]
      | busy => rfl

/-- The entries of `found` are subscriptions of the table as they stand, each listed once. -/
structure Current (s : Scheduler ω) (found : List (Subscription × Outcome ResultSet)) : Prop where
  distinct : (found.map (·.1.id)).Nodup
  stands : ∀ entry ∈ found, s.table.get? entry.1.id = some entry.1

/-- What each telling of a subscription keeps, a whole round keeps, as long as the subscriptions in
`found` are `Current`. -/
theorem foldl_tellIfFound_induction {motive : Scheduler ω → Prop}
    {found : List (Subscription × Outcome ResultSet)} (current : s.Current found) (start : motive s)
    (step : ∀ s entry, entry ∈ found → s.table.get? entry.1.id = some entry.1 → motive s →
      motive (s.tellIfFound entry)) : motive (found.foldl tellIfFound s) := by
  induction found generalizing s with
  | nil => exact start
  | cons first rest ih =>
    -- Telling the first leaves the others as they stand, since names are distinct.
    obtain ⟨apart, distinct⟩ := List.nodup_cons.1 current.distinct
    have stands : ∀ entry ∈ first :: rest, s.table.get? entry.1.id = some entry.1 := current.stands
    refine ih ⟨distinct, fun entry listed => ?_⟩
      (step s first List.mem_cons_self (stands first List.mem_cons_self) start)
      fun s entry listed => step s entry (List.mem_cons_of_mem _ listed)
    rw [get?_tellIfFound_of_ne, stands entry (List.mem_cons_of_mem _ listed)]
    exact fun same => apart (List.mem_map.2 ⟨entry, listed, same.symm⟩)

/-! ### The round after an update -/

theorem evaluate_cons {rest : List Subscription} : s.evaluate (sub :: rest) =
    ((sub, (s.execute sub.pattern).1) :: ((s.execute sub.pattern).2.evaluate rest).1,
      ((s.execute sub.pattern).2.evaluate rest).2) := rfl

theorem map_fst_evaluate (subs : List Subscription) : (s.evaluate subs).1.map (·.1) = subs := by
  induction subs generalizing s with
  | nil => rfl
  | cons sub rest ih => rw [evaluate_cons, List.map_cons, ih]

@[simp] theorem table_evaluate (subs : List Subscription) :
    (s.evaluate subs).2.table = s.table := by
  induction subs generalizing s with
  | nil => rfl
  | cons sub rest ih => rw [evaluate_cons, ih, table_execute]

/-- The subscriptions in the order in which they are gone through, each with its results. -/
def found (s : Scheduler ω) : List (Subscription × Outcome ResultSet) :=
  (s.evaluate (Surroundings.arrange s.world s.table.snapshot)).1

/-- The scheduler that has asked for the results of all subscriptions. -/
def asked (s : Scheduler ω) : Scheduler ω :=
  (s.evaluate (Surroundings.arrange s.world s.table.snapshot)).2

theorem reevaluate_eq : s.reevaluate = s.found.foldl tellIfFound s.asked := rfl

@[simp] theorem table_asked : s.asked.table = s.table := table_evaluate _

theorem map_fst_found : (s.found.map (·.1)).Perm s.table.snapshot := by
  rw [found, map_fst_evaluate]
  exact Surroundings.arrange_perm _ _

theorem exists_mem_found (listed : sub ∈ s.table.snapshot) :
    ∃ outcome, (sub, outcome) ∈ s.found := by
  obtain ⟨⟨_, outcome⟩, entry, rfl⟩ := List.mem_map.1 (map_fst_found.mem_iff.2 listed)
  exact ⟨outcome, entry⟩

theorem current_found (wf : s.table.WellFormed) : s.asked.Current s.found where
  distinct := by
    have names : s.found.map (·.1.id) = (s.found.map (·.1)).map (·.id) := by rw [List.map_map]; rfl
    rw [names]
    exact (map_fst_found.map _).nodup_iff.2 wf.nodup_ids
  stands entry listed := by
    rw [table_asked, ← wf.mem_snapshot]
    exact map_fst_found.mem_iff.1 (List.mem_map_of_mem listed)

end Scheduler

end GraphBroker
