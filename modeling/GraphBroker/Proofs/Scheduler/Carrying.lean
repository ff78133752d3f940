import GraphBroker.Proofs.Scheduler.Rejection
import GraphBroker.Proofs.Scheduler.Round

/-!
# What carrying out a request does

A request of a gate is carried out in one of a few ways. Each of them leaves a table and hands
over some messages. All messages go to the gate that has asked, except the notifications of a
round after an update.

## Main definitions

* `Scheduler.Notifies`: nothing but notifications is handed over.
* `Scheduler.Rounded`: the table and the notifications that a round leaves.
* `Scheduler.Carried`: the table and the messages that a request leaves, one case for each way in
  which it can end.

## Main statements

* `rounded_reevaluate`: a round.
* `carried_process`: a request.
-/

namespace GraphBroker.Scheduler

variable {ω : Type} [Surroundings ω] {s : Scheduler (Recorded ω)} {t t' : SubscriptionTable}
  {id : SubscriptionId} {gate : GateId} {sub : Subscription} {results : ResultSet}

/-! ### A round -/

/-- Nothing but notifications is handed over in `log`. -/
def Notifies (log : List Handed) : Prop :=
  ∀ handed ∈ log, ∃ n, handed.message = .notification n

/-- After a round the table `t'` has only subscriptions that `t` had before, as they were but for
what has been told of them. The `offers` are nothing but notifications of subscriptions to their
gates, and a subscription is gone only if its gate has answered `.gateClosed`. -/
structure Rounded (t t' : SubscriptionTable) (offers : List Handed) : Prop where
  /-- The table `t'` is well formed. -/
  wellFormed : t'.WellFormed
  /-- Notifications go to the gates of their subscriptions. -/
  offered : ∀ handed ∈ offers, ∃ sub n, t.get? sub.id = some sub ∧ handed.gate = sub.gate ∧
    handed.message = .notification n ∧ n.subscription = sub.id
  /-- Subscriptions change only in `last` and `sequence`, which is what has been told. -/
  kept : ∀ {id sub'}, t'.get? id = some sub' → ∃ sub, t.get? id = some sub ∧
    sub' = { sub with last := sub'.last, sequence := sub'.sequence }
  /-- A subscription is gone only if its gate has answered `.gateClosed`. -/
  lost : ∀ {id sub}, t.get? id = some sub → t'.get? id = none →
    ∃ handed ∈ offers, handed.gate = sub.gate ∧ handed.delivery = .gateClosed

/-- Nothing is told. -/
theorem Rounded.refl (wf : t.WellFormed) : Rounded t t [] where
  wellFormed := wf
  offered := nofun
  kept stands := ⟨_, stands, rfl⟩
  lost stands gone := by
    rw [stands] at gone
    cases gone

theorem mem_about {log : List Handed} {handed : Handed} (listed : handed ∈ about log id) :
    handed ∈ log :=
  (List.mem_filter.1 listed).1

/-- What becomes of `sub` in a round: it stays, with other results at most, or its gate was
closed. -/
theorem Settled.cases {offers : List Handed} {outcome : Outcome ResultSet}
    (settled : Settled t' offers sub outcome) :
    (∃ last sequence, t'.get? sub.id = some { sub with last, sequence }) ∨
      t'.get? sub.id = none ∧
        ∃ handed ∈ offers, handed.gate = sub.gate ∧ handed.delivery = .gateClosed := by
  by_cases quiet : ∀ results, ¬Due sub outcome results
  · exact .inl ⟨sub.last, sub.sequence, (settled.quiet quiet).2⟩
  · obtain ⟨results, due⟩ := Classical.not_forall_not.1 quiet
    obtain ⟨delivery, offer, after⟩ := settled.due results due
    cases delivery with
    | delivered => exact .inl ⟨results, sub.sequence + 1, after⟩
    | busy => exact .inl ⟨sub.last, sub.sequence, after⟩
    | gateClosed =>
      exact .inr ⟨after, _, mem_about (offer ▸ List.mem_singleton_self _), rfl, rfl⟩

theorem wellFormed_reevaluate (wf : s.table.WellFormed) : s.reevaluate.table.WellFormed :=
  (changes_induction (motive := fun _ => True) (fun _ _ _ _ _ => trivial) (changes_reevaluate wf)
    wf trivial).2

/-- A round hands nothing but notifications over, here called `offers`. -/
theorem notifies_reevaluate :
    ∃ offers, s.reevaluate.world.log = s.world.log ++ offers ∧ Notifies offers := by
  obtain ⟨offers, log, offered⟩ := log_foldl_tellIfFound (s := s.asked) s.found
  have asked : s.asked.world.log = s.world.log := congrArg Ledger.log ledger_asked
  refine ⟨offers, by rw [reevaluate_eq, log, asked], fun handed listed => ?_⟩
  obtain ⟨sub, outcome, results, -, -, -, message⟩ := offered handed listed
  exact ⟨_, message⟩

theorem rounded_reevaluate {offers : List Handed} (wf : s.table.WellFormed)
    (log : s.reevaluate.world.log = s.world.log ++ offers) :
    Rounded s.table s.reevaluate.table offers := by
  obtain ⟨same, log', offered, settled⟩ := settled_reevaluate wf
  obtain rfl : same = offers := List.append_cancel_left (log'.symm.trans log)
  have becomes {id : SubscriptionId} {sub : Subscription} (stands : s.table.get? id = some sub) :
      (∃ last sequence, s.reevaluate.table.get? id = some { sub with last, sequence }) ∨
        s.reevaluate.table.get? id = none ∧
          ∃ handed ∈ same, handed.gate = sub.gate ∧ handed.delivery = .gateClosed := by
    obtain rfl := wf.id_eq stands
    obtain ⟨outcome, listed⟩ := exists_mem_found (wf.mem_snapshot.2 stands)
    exact (settled sub outcome listed).cases
  refine ⟨wellFormed_reevaluate wf, fun handed listed => ?_, fun {id sub'} after => ?_,
    fun {id sub} stands gone => ?_⟩
  · obtain ⟨sub, outcome, results, entry, -, owner, message⟩ := offered handed listed
    have stands := (current_found wf).stands _ entry
    rw [table_asked] at stands
    exact ⟨sub, _, stands, owner, message, rfl⟩
  · cases before : s.table.get? id with
    | none =>
      -- A name that is not in the table is not gone through.
      have other : ∀ entry ∈ s.found, entry.1.id ≠ id := by
        rintro entry listed rfl
        have stands := (current_found wf).stands entry listed
        rw [table_asked, before] at stands
        cases stands
      rw [reevaluate_eq, get?_foldl_tellIfFound_of_ne other, table_asked, before] at after
      cases after
    | some sub =>
      refine ⟨sub, rfl, ?_⟩
      obtain ⟨last, sequence, same⟩ | ⟨gone, -⟩ := becomes before
      · rw [after, Option.some_inj] at same
        rw [same]
      · rw [after] at gone
        cases gone
  · obtain ⟨last, sequence, same⟩ | ⟨-, told⟩ := becomes stands
    · rw [gone] at same
      cases same
    · exact told

/-- An update that is applied makes a round; with any other there is none, and no `offers`. -/
theorem rounded_update (s : Scheduler (Recorded ω)) (sparql : String)
    (authorization : Option String) :
    ∃ offers, (s.update sparql authorization).2.world.log = s.world.log ++ offers ∧
      Notifies offers ∧
      ((s.update sparql authorization).1 = .ok () ∧ (s.table.WellFormed →
          Rounded s.table (s.update sparql authorization).2.table offers) ∨
        (s.update sparql authorization).1 ≠ .ok () ∧ offers = [] ∧
          (s.update sparql authorization).2.table = s.table) := by
  obtain ⟨_, refused⟩ | ⟨_, _, failed⟩ | ⟨_, done⟩ := s.update_cases sparql authorization
  · rw [refused]
    exact ⟨[], (List.append_nil _).symm, nofun, .inr ⟨nofun, rfl, rfl⟩⟩
  · rw [failed]
    exact ⟨[], (List.append_nil _).symm, nofun, .inr ⟨nofun, rfl, rfl⟩⟩
  · rw [done]
    obtain ⟨offers, log, notifies⟩ := notifies_reevaluate (s := s.applied sparql)
    exact ⟨offers, log, notifies, .inl ⟨rfl, fun wf =>
      rounded_reevaluate (s := s.applied sparql) wf log⟩⟩

/-! ### A request -/

/-- The ways in which `request` of `gate` can end, each with what its operation answers in `s` and
with the table and the messages that it leaves. A subscription is made under the name `id`. -/
inductive Carried (s : Scheduler (Recorded ω)) (id : SubscriptionId) (gate : GateId) :
    Request → SubscriptionTable → List Handed → Prop
  /-- The request fails with `fault` before anything is handed over. -/
  | failed {request : Request} {fault : Fault} (fails : s.Fails id gate request fault)
    (delivery : Delivery) :
    Carried s id gate request s.table [⟨gate, .ofFault fault, delivery⟩]
  /-- The engine has found `initial`, but the gate does not take it. The request fails, and its
  subscription is removed. -/
  | undelivered {pattern : Sparql.Pattern} {label authorization : Option String}
    {delivery : Delivery} {initial : ResultSet}
    (found : (Surroundings.execute pattern s.world).1 = .ok initial)
    (fails : s.Fails id gate (.subscribe pattern label authorization) (notDelivered delivery))
    (missed : delivery ≠ .delivered) (last : Delivery) :
    Carried s id gate (.subscribe pattern label authorization)
      ((s.table.insert { id, gate, pattern, label, last := initial }).remove id).2
      [⟨gate, .subscribed id label initial, delivery⟩,
        ⟨gate, .ofFault (notDelivered delivery), last⟩]
  /-- `Scheduler.subscribe` has answered with `id`. The subscription starts with `initial`, which
  the engine has found. -/
  | subscribed {pattern : Sparql.Pattern} {label authorization : Option String}
    {initial : ResultSet}
    (found : (Surroundings.execute pattern s.world).1 = .ok initial)
    (made : (s.subscribe id gate pattern label
      (Request.subscribe pattern label authorization).bearer?).1 = .ok id) :
    Carried s id gate (.subscribe pattern label authorization)
      (s.table.insert { id, gate, pattern, label, last := initial })
      [⟨gate, .subscribed id label initial, .delivered⟩]
  /-- The subscription `other` is ended, if it is one of `gate`. This never fails. -/
  | unsubscribed {other : SubscriptionId} {authorization : Option String} (delivery : Delivery) :
    Carried s id gate (.unsubscribe other authorization) (s.table.removeOwned gate other).2
      [⟨gate, .unsubscribed other, delivery⟩]
  /-- `Scheduler.update` has succeeded, and gates are told. -/
  | updated {sparql : String} {authorization : Option String} {t' : SubscriptionTable}
    {offers : List Handed}
    (applied : (s.update sparql (Request.update sparql authorization).bearer?).1 = .ok ())
    (notifies : Notifies offers)
    (rounded : s.table.WellFormed → Rounded s.table t' offers) (delivery : Delivery) :
    Carried s id gate (.update sparql authorization) t'
      (offers ++ [⟨gate, .updated, delivery⟩])
  /-- `Scheduler.query` has answered with the results `r`. -/
  | results {pattern : Sparql.Pattern} {authorization : Option String} {r : ResultSet}
    (found : (s.query pattern (Request.query pattern authorization).bearer?).1 = .ok r)
    (delivery : Delivery) :
    Carried s id gate (.query pattern authorization) s.table [⟨gate, .results r, delivery⟩]

theorem log_reply (message : Message) (counter : Option Counter) :
    (s.reply gate message counter).world.log = s.world.log ++
      [⟨gate, message, (Surroundings.dispatch gate message s.world).1⟩] := by
  rw [world_reply, log_dispatch]

/-- A subscription `sub` that is entered is told its first results. If they are not taken it is
removed, and the answer is `notDelivered`. -/
theorem enter_cases (s : Scheduler (Recorded ω)) (sub : Subscription) :
    (s.enter sub).1 = .ok sub.id ∧ (s.enter sub).2.table = s.table.insert sub ∧
      (s.enter sub).2.world.log = s.world.log ++ [⟨sub.gate, sub.greeting, .delivered⟩] ∨
    ∃ delivery, delivery ≠ .delivered ∧ (s.enter sub).1 = .error (notDelivered delivery) ∧
      (s.enter sub).2.table = ((s.table.insert sub).remove sub.id).2 ∧
      (s.enter sub).2.world.log = s.world.log ++ [⟨sub.gate, sub.greeting, delivery⟩] := by
  by_cases taken : (Surroundings.dispatch sub.gate sub.greeting s.world).1 = .delivered
  · obtain ⟨made, table, world⟩ := enter_of_delivered taken
    exact .inl ⟨made, table, by rw [world, log_dispatch, taken]⟩
  · obtain ⟨missed, table, world⟩ := enter_of_not_delivered taken
    exact .inr ⟨_, taken, missed, table, by rw [world, log_dispatch]⟩

/-- A request that fails with `fault` before anything is handed over leaves the table of `s`, and
then the gate is told of `fault`. -/
theorem carried_of_fails {request : Request} {fault : Fault} {done : Scheduler (Recorded ω)}
    (fails : s.Fails id gate request fault) (table : done.table = s.table)
    (log : done.world.log = s.world.log) :
    ∃ log, (done.replyFault gate fault).world.log = s.world.log ++ log ∧
      Carried s id gate request (done.replyFault gate fault).table log := by
  refine ⟨_, by rw [replyFault, log_reply, log], ?_⟩
  rw [replyFault, table_reply, table]
  exact .failed fails _

theorem carried_subscribe (s : Scheduler (Recorded ω)) (id : SubscriptionId) (gate : GateId)
    (pattern : Sparql.Pattern) (label authorization : Option String) :
    ∃ log, (s.process id gate (.subscribe pattern label authorization)).world.log =
        s.world.log ++ log ∧
      Carried s id gate (.subscribe pattern label authorization)
        (s.process id gate (.subscribe pattern label authorization)).table log := by
  have fails (fault : Fault) : s.Fails id gate (.subscribe pattern label authorization) fault ↔
      (s.subscribe id gate pattern label
        (Request.subscribe pattern label authorization).bearer?).1 = .error fault := .rfl
  rw [process]
  obtain ⟨fault, refused⟩ | ⟨fault, failed⟩ | ⟨initial, found, entered⟩ :=
    s.subscribe_cases id gate pattern label (Request.subscribe pattern label authorization).bearer?
  · rw [refused]
    exact carried_of_fails ((fails fault).2 (by rw [refused])) rfl rfl
  · rw [failed]
    exact carried_of_fails ((fails fault).2 (by rw [failed])) rfl rfl
  · have answered := congrArg Prod.fst entered
    rw [entered]
    have ends := (s.execute pattern).2.enter_cases { id, gate, pattern, label, last := initial }
    -- From here on only what entering has answered and left matters.
    generalize (s.execute pattern).2.enter _ = answer at answered ends ⊢
    obtain ⟨fault | name, done⟩ := answer
    · obtain ⟨⟨⟩, -⟩ | ⟨delivery, missed, refused, table, log⟩ := ends
      cases refused
      dsimp only [replyFault]
      refine ⟨_, by rw [log_reply, log, List.append_assoc]; rfl, ?_⟩
      rw [table_reply, table]
      exact .undelivered found ((fails _).2 answered) missed _
    · obtain ⟨made, table, log⟩ | ⟨delivery, missed, ⟨⟩, -⟩ := ends
      exact ⟨_, log, by rw [table]; exact .subscribed found (answered.trans made)⟩

theorem carried_process (s : Scheduler (Recorded ω)) (id : SubscriptionId) (gate : GateId)
    (request : Request) :
    ∃ log, (s.process id gate request).world.log = s.world.log ++ log ∧
      Carried s id gate request (s.process id gate request).table log := by
  cases request with
  | subscribe pattern label authorization =>
    exact s.carried_subscribe id gate pattern label authorization
  | unsubscribe other authorization =>
    exact ⟨_, log_reply .., by rw [process, table_reply]; exact .unsubscribed _⟩
  | update sparql authorization =>
    obtain ⟨offers, log, notifies, round⟩ :=
      s.rounded_update sparql (Request.update sparql authorization).bearer?
    have fails (fault : Fault) : s.Fails id gate (.update sparql authorization) fault ↔
      (s.update sparql (Request.update sparql authorization).bearer?).1 = .error fault := .rfl
    rw [process]
    generalize answered : s.update sparql _ = answer at log round fails ⊢
    obtain ⟨fault | _, done⟩ := answer
    · obtain ⟨⟨⟩, -⟩ | ⟨-, rfl, table⟩ := round
      exact carried_of_fails ((fails fault).2 rfl) table (by rw [log, List.append_nil])
    · obtain ⟨-, rounded⟩ | ⟨failed, -⟩ := round
      · refine ⟨_, by rw [log_reply, log, List.append_assoc], ?_⟩
        rw [table_reply]
        exact .updated (congrArg Prod.fst answered) notifies rounded _
      · exact absurd rfl failed
  | query pattern authorization =>
    have fails (fault : Fault) : s.Fails id gate (.query pattern authorization) fault ↔
      (s.query pattern (Request.query pattern authorization).bearer?).1 = .error fault := .rfl
    have same := ledger_query (s := s) pattern (Request.query pattern authorization).bearer?
    rw [process]
    generalize answered : s.query pattern _ = answer at fails same ⊢
    rw [ledger, ledger, Ledger.mk.injEq] at same
    obtain ⟨fault | r, done⟩ := answer
    · exact carried_of_fails ((fails fault).2 rfl) same.1 same.2
    · refine ⟨_, by rw [log_reply, same.2], ?_⟩
      rw [table_reply, same.1]
      exact .results (congrArg Prod.fst answered) _

end GraphBroker.Scheduler
