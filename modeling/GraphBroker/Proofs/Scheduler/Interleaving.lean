import GraphBroker.Proofs.Scheduler.Effect
import Mathlib.Logic.Function.Basic

/-!
# Requests that overlap

A request is carried out in stages: a subscription is first admitted, then its first results are
asked for, then it is entered, and at last its gate is told. Between two stages of a request others
may go on with theirs, so that requests of different gates overlap in any way. The requests of one
gate are carried out one after another. The lock that keeps requests out of a round after an update
is left out here: there are more runs than it allows.

## Main definitions

* `Scheduler.Round`, `Round.next`: what is left of an update, and its next stage.
* `Scheduler.Stage`, `Stage.next`: what is left of a request of a gate, and its next stage.
* `Traffic`, `Traffic.step`: a scheduler with all that is left of requests and updates.

## Main statements

* `run_process`, `run_update`: a request or an update during which nobody else does anything is
  carried out as a whole.
-/

namespace GraphBroker

variable {ω : Type} [Surroundings ω]

namespace Scheduler

/-! ### Updates -/

/-- What is left of an update. -/
inductive Round where
  /-- The engine is to apply `sparql`. -/
  | applying (sparql : String)
  /-- It has been applied. The subscriptions are to be listed. -/
  | listing
  /-- Some subscriptions have been `found` with their results, and those that are `due` are to be
  asked for. -/
  | asking (found : List (Subscription × Outcome ResultSet)) (due : List Subscription)
  /-- The gates of the subscriptions that are `due` are to be told. -/
  | telling (due : List (Subscription × Outcome ResultSet))
  /-- The gate of `sub` has answered `delivery`, which the table does not know yet. -/
  | settling (sub : Subscription) (results : ResultSet) (delivery : Delivery)
    (due : List (Subscription × Outcome ResultSet))

/-- Keeps what has become of `sub` when its gate was told that it has `results` now. -/
def settle (s : Scheduler ω) (sub : Subscription) (results : ResultSet) :
    Delivery → Scheduler ω
  | .delivered =>
    match s.table.commit sub.id results (sub.sequence + 1) with
    | (true, table) => { s with table }.count .notifications
    | (false, _) => s
  | .gateClosed => { s with table := (s.table.remove sub.id).2 }
  | .busy => s

/-- The next stage of an update: what is left of it then, or how it has ended. -/
def Round.next : Round → Scheduler ω → (Round ⊕ Outcome Unit) × Scheduler ω
  | applying sparql, s =>
    match Surroundings.update sparql s.world with
    | (.error fault, world) => (.inr (.error fault), { s with world })
    | (.ok (), world) => (.inl .listing, { s with world })
  | listing, s => (.inl (.asking [] (Surroundings.arrange s.world s.table.snapshot)), s)
  | asking found [], s => (.inl (.telling found), s)
  | asking found (sub :: rest), s =>
    let (results, asked) := s.execute sub.pattern
    (.inl (.asking (found ++ [(sub, results)]) rest), asked)
  | telling [], s => (.inr (.ok ()), s)
  | telling ((_, .error _) :: rest), s => (.inl (.telling rest), s)
  | telling ((sub, .ok results) :: rest), s =>
    if (sub.last.diff results).isEmpty then (.inl (.telling rest), s)
    else
      let (delivery, told) := s.dispatch sub.gate (sub.offer results)
      (.inl (.settling sub results delivery rest), told)
  | settling sub results delivery rest, s => (.inl (.telling rest), s.settle sub results delivery)

/-- How an update ends of which a `Round` is left, if nobody else does anything. -/
inductive Round.Completes : Round → Scheduler ω → Outcome Unit × Scheduler ω → Prop
  /-- It has ended. -/
  | done {round : Round} {s s' : Scheduler ω} {outcome : Outcome Unit}
    (next : round.next s = (.inr outcome, s')) : Completes round s (outcome, s')
  /-- There is more to do. -/
  | step {round later : Round} {s s' : Scheduler ω} {done : Outcome Unit × Scheduler ω}
    (next : round.next s = (.inl later, s')) (completes : Completes later s' done) :
    Completes round s done

variable {s : Scheduler ω} {gate : GateId} {id : SubscriptionId} {sub : Subscription}
  {results : ResultSet}

/-- A gate is told, and what has become of `sub` is kept: these are the two stages of `tell`. -/
theorem tell_eq (s : Scheduler ω) (sub : Subscription) (results : ResultSet) :
    s.tell sub results =
      if (sub.last.diff results).isEmpty then s
      else (s.dispatch sub.gate (sub.offer results)).2.settle sub results
        (s.dispatch sub.gate (sub.offer results)).1 := by
  rw [tell, Subscription.offer]
  dsimp only
  generalize s.dispatch sub.gate _ = answer
  obtain ⟨_ | _ | _, told⟩ := answer <;> rfl

theorem completes_telling (entries : List (Subscription × Outcome ResultSet)) :
    (Round.telling entries).Completes s (.ok (), entries.foldl tellIfFound s) := by
  induction entries generalizing s with
  | nil => exact .done rfl
  | cons entry rest ih =>
    obtain ⟨sub, fault | results⟩ := entry
    · exact .step rfl ih
    · rw [List.foldl_cons, tellIfFound_ok, tell_eq]
      by_cases same : (sub.last.diff results).isEmpty
      · rw [if_pos same]
        exact .step (by rw [Round.next, if_pos same]) ih
      · rw [if_neg same]
        exact .step (by rw [Round.next, if_neg same]) (.step rfl ih)

theorem completes_asking (found : List (Subscription × Outcome ResultSet))
    (due : List Subscription) : (Round.asking found due).Completes s
      (.ok (), (found ++ (s.evaluate due).1).foldl tellIfFound (s.evaluate due).2) := by
  induction due generalizing s found with
  | nil =>
    rw [evaluate, List.append_nil]
    exact .step rfl (completes_telling found)
  | cons sub rest ih =>
    -- What has been found is kept in its order, and the next one comes behind it.
    have asked := ih (s := (s.execute sub.pattern).2) (found ++ [(sub, (s.execute sub.pattern).1)])
    rw [List.append_assoc] at asked
    exact .step rfl asked

/-- The update `sparql`, if it may go ahead and nobody else does anything, is carried out as a
whole. -/
theorem completes_update {sparql : String} {authorization : Option String}
    (authorized : Surroundings.authorize authorization s.world = .ok ()) :
    (Round.applying sparql).Completes s (s.update sparql authorization) := by
  rw [update, authorized]
  dsimp only
  rcases applied : Surroundings.update sparql s.world with ⟨fault | _, world⟩
  · exact .done (by rw [Round.next, applied])
  · exact .step (by rw [Round.next, applied]) (.step rfl (completes_asking [] _))

/-! ### Requests -/

/-- What is left of a request of a gate. -/
inductive Stage where
  /-- The subscription `id` has been admitted. Its first results are to be asked for. -/
  | admitted (id : SubscriptionId) (pattern : Sparql.Pattern) (label : Option String)
  /-- The subscription `id` is to be entered with the results `initial`. -/
  | found (id : SubscriptionId) (pattern : Sparql.Pattern) (label : Option String)
    (initial : ResultSet)
  /-- The subscription `sub` has been entered. Its gate is to be told. -/
  | entered (sub : Subscription)
  /-- The gate has not taken the first results of `sub`, which is to be removed. -/
  | missed (sub : Subscription) (delivery : Delivery)
  /-- An update goes on. -/
  | updates (round : Round)
  /-- The query `pattern` is to be answered. -/
  | queries (pattern : Sparql.Pattern)
  /-- The gate is to be told by `message` how its request has ended. -/
  | replies (message : Message) (counter : Option Counter)

/-- The gate is to be told of `fault`. -/
def Stage.fails (fault : Fault) : Stage :=
  .replies (.ofFault fault) (some .errorResponses)

/-- Whether `gate` may make one more subscription. -/
def permit (s : Scheduler ω) (gate : GateId) (authorization : Option String) : Outcome Unit :=
  match Surroundings.authorize authorization s.world with
  | .error fault => .error fault
  | .ok () =>
    if s.limit ≤ s.table.countFor gate then .error (limitReached s.limit) else .ok ()

/-- The `request` of `gate` begins. A subscription is to be made under the name `id`. -/
def begin (s : Scheduler ω) (id : SubscriptionId) (gate : GateId) (request : Request) :
    Stage × Scheduler ω :=
  match request with
  | .subscribe pattern label _ =>
    match s.permit gate request.bearer? with
    | .ok () => (.admitted id pattern label, s)
    | .error fault => (.fails fault, s)
  | .unsubscribe other _ =>
    (.replies (.unsubscribed other) (some .unsubscribeResponses), s.unsubscribe gate other)
  | .update sparql _ =>
    match Surroundings.authorize request.bearer? s.world with
    | .ok () => (.updates (.applying sparql), s)
    | .error fault => (.fails fault, s)
  | .query pattern _ =>
    match Surroundings.authorize request.bearer? s.world with
    | .ok () => (.queries pattern, s)
    | .error fault => (.fails fault, s)

/-- The next stage of a request of `gate`, if it has not ended. -/
def Stage.next (gate : GateId) : Stage → Scheduler ω → Option Stage × Scheduler ω
  | admitted id pattern label, s =>
    match s.execute pattern with
    | (.ok initial, asked) => (some (.found id pattern label initial), asked)
    | (.error fault, asked) => (some (.fails fault), asked)
  | found id pattern label initial, s =>
    let sub := { id, gate, pattern, label, last := initial }
    (some (.entered sub), { s with table := s.table.insert sub })
  | entered sub, s =>
    match s.dispatch sub.gate sub.greeting with
    | (.delivered, told) => (none, told.count .subscribeResponses)
    | (delivery, told) => (some (.missed sub delivery), told)
  | missed sub delivery, s =>
    (some (.fails (notDelivered delivery)), { s with table := (s.table.remove sub.id).2 })
  | updates round, s =>
    match round.next s with
    | (.inl later, done) => (some (.updates later), done)
    | (.inr (.ok ()), done) => (some (.replies .updated none), done)
    | (.inr (.error fault), done) => (some (.fails fault), done)
  | queries pattern, s =>
    match s.execute pattern with
    | (.ok results, asked) => (some (.replies (.results results) none), asked)
    | (.error fault, asked) => (some (.fails fault), asked)
  | replies message counter, s => (none, s.reply gate message counter)

/-- How what is left of a request of `gate` ends, if nobody else does anything. -/
inductive Stage.Finishes (gate : GateId) : Option Stage → Scheduler ω → Scheduler ω → Prop
  /-- Nothing is left of it. -/
  | done {s : Scheduler ω} : Finishes gate none s s
  /-- There is more to do. -/
  | step {stage : Stage} {s s' : Scheduler ω}
    (finishes : Finishes gate (stage.next gate s).1 (stage.next gate s).2 s') :
    Finishes gate (some stage) s s'

theorem finishes_fails (fault : Fault) :
    Stage.Finishes gate (some (.fails fault)) s (s.replyFault gate fault) :=
  .step .done

/-- A subscription `id` that was `found` with its first results is entered, and its gate is told. -/
theorem finishes_found {pattern : Sparql.Pattern} {label : Option String} {initial : ResultSet} :
    Stage.Finishes gate (some (.found id pattern label initial)) s
      (match s.enter { id, gate, pattern, label, last := initial } with
        | (.ok _, done) => done
        | (.error fault, done) => done.replyFault gate fault) := by
  refine .step (.step ?_)
  rw [enter]
  simp only [Stage.next, Subscription.greeting, dispatch]
  generalize Surroundings.dispatch gate _ s.world = answer
  -- A gate that has not taken its first results is told of a fault.
  obtain ⟨_ | _ | _, world⟩ := answer
  · exact .done
  · exact .step (finishes_fails _)
  · exact .step (finishes_fails _)

theorem finishes_updates {round : Round} {done : Outcome Unit × Scheduler ω}
    (completes : round.Completes s done) : Stage.Finishes gate (some (.updates round)) s
      (match done.1 with
        | .ok () => done.2.reply gate .updated none
        | .error fault => done.2.replyFault gate fault) := by
  -- The stages of the update are those of the request, until the gate is told how it has ended.
  induction completes with
  | @done round s s' outcome next =>
    refine .step ?_
    rw [Stage.next, next]
    obtain fault | _ := outcome
    · exact finishes_fails fault
    · exact .step .done
  | step next _ ih =>
    refine .step ?_
    rw [Stage.next, next]
    exact ih

/-- A `request` during which nobody else does anything is carried out as a whole, as `process` does
it. -/
theorem finishes_process (s : Scheduler ω) (id : SubscriptionId) (gate : GateId)
    (request : Request) : Stage.Finishes gate (some (s.begin id gate request).1)
      (s.begin id gate request).2 (s.process id gate request) := by
  cases request with
  | subscribe pattern label authorization =>
    rw [process, begin, subscribe, permit]
    rcases Surroundings.authorize _ s.world with fault | _
    · exact finishes_fails fault
    · by_cases full : s.limit ≤ s.table.countFor gate
      · simp only [if_pos full]
        exact finishes_fails _
      · simp only [if_neg full]
        refine .step ?_
        rw [Stage.next]
        rcases s.execute pattern with ⟨fault | initial, asked⟩
        · exact finishes_fails fault
        · exact finishes_found
  | unsubscribe other authorization => exact .step .done
  | update sparql authorization =>
    rw [process, begin]
    cases authorized : Surroundings.authorize
        (Request.update sparql authorization).bearer? s.world with
    | error fault =>
      rw [update, authorized]
      exact finishes_fails fault
    | ok _ =>
      have completes : (Round.applying sparql).Completes s _ := completes_update authorized
      generalize s.update sparql _ = answer at completes ⊢
      obtain ⟨fault | _, done⟩ := answer <;> exact finishes_updates completes
  | query pattern authorization =>
    rw [process, begin, query]
    rcases Surroundings.authorize _ s.world with fault | _
    · exact finishes_fails fault
    · refine .step ?_
      dsimp only
      rw [Stage.next]
      rcases s.execute pattern with ⟨fault | results, asked⟩
      · exact finishes_fails fault
      · exact .step .done

end Scheduler

/-! ### Requests that overlap -/

open Scheduler (Round Stage)

/-- A scheduler with what is left of the requests of gates and of other updates. -/
structure Traffic (ω : Type) where
  /-- The scheduler. -/
  scheduler : Scheduler ω
  /-- What is left of the request of a gate, or `none`. A gate has one request at a time. -/
  stage : GateId → Option Stage := fun _ => none
  /-- What is left of the updates that no gate has asked for. -/
  round : Nat → Option Round := fun _ => none

namespace Traffic

/-- What may happen next. -/
inductive Step (ω : Type) where
  /-- The next `request` of `gate` is taken up. A subscription is to be made under the name `id`. -/
  | begins (gate : GateId) (id : SubscriptionId) (request : Request)
  /-- The request of `gate` goes on. -/
  | proceeds (gate : GateId)
  /-- The update `sparql`, for which no gate has asked, is taken up under the number `n`. -/
  | amends (n : Nat) (sparql : String) (authorization : Option String)
  /-- The update of the number `n` goes on. -/
  | advances (n : Nat)
  /-- All subscriptions of `gate` end. -/
  | unregisters (gate : GateId)
  /-- All subscriptions end. -/
  | ends
  /-- The world is changed by others, to `world`. -/
  | elapses (world : ω)

/-- The subscriptions. -/
def table (x : Traffic ω) : SubscriptionTable := x.scheduler.table

/-- What has happened next. A request is taken up when nothing is left of the one before. -/
def step (x : Traffic ω) : Step ω → Traffic ω
  | .begins gate id request =>
    match x.stage gate with
    | some _ => x
    | none =>
      let (stage, scheduler) := x.scheduler.begin id gate request
      { x with scheduler, stage := Function.update x.stage gate (some stage) }
  | .proceeds gate =>
    match x.stage gate with
    | none => x
    | some stage =>
      let (later, scheduler) := stage.next gate x.scheduler
      { x with scheduler, stage := Function.update x.stage gate later }
  | .amends n sparql authorization =>
    match x.round n, Surroundings.authorize authorization x.scheduler.world with
    | none, .ok () => { x with round := Function.update x.round n (some (.applying sparql)) }
    | _, _ => x
  | .advances n =>
    match x.round n with
    | none => x
    | some round =>
      let (later, scheduler) := round.next x.scheduler
      { x with scheduler, round := Function.update x.round n later.getLeft? }
  | .unregisters gate => { x with scheduler := (x.scheduler.unregisterGate gate).2 }
  | .ends => { x with scheduler := x.scheduler.shutdown }
  | .elapses world => { x with scheduler := { x.scheduler with world } }

/-- What has happened after the `steps`, one after another. -/
def run (x : Traffic ω) (steps : List (Step ω)) : Traffic ω :=
  steps.foldl step x

variable {x : Traffic ω} {gate : GateId} {n : Nat} {stage : Stage} {round : Round}

theorem step_begins (free : x.stage gate = none) (id : SubscriptionId) (request : Request) :
    x.step (.begins gate id request) =
      { x with
        scheduler := (x.scheduler.begin id gate request).2
        stage := Function.update x.stage gate (some (x.scheduler.begin id gate request).1) } := by
  rw [step, free]

theorem step_proceeds (left : x.stage gate = some stage) : x.step (.proceeds gate) =
    { x with
      scheduler := (stage.next gate x.scheduler).2
      stage := Function.update x.stage gate (stage.next gate x.scheduler).1 } := by
  rw [step, left]

theorem step_advances (left : x.round n = some round) : x.step (.advances n) =
    { x with
      scheduler := (round.next x.scheduler).2
      round := Function.update x.round n (round.next x.scheduler).1.getLeft? } := by
  rw [step, left]

/-- If nobody else does anything, what is left of a request, in `k` stages, is carried out as a
whole. -/
theorem run_finishes {left : Option Stage} {s s' : Scheduler ω}
    (finishes : Stage.Finishes gate left s s') : ∃ k, ∀ x : Traffic ω,
      x.stage gate = left → x.scheduler = s → x.run (List.replicate k (.proceeds gate)) =
        { x with scheduler := s', stage := Function.update x.stage gate none } := by
  -- Each stage that is left is one more step, whatever else there is in the traffic.
  induction finishes with
  | done =>
    refine ⟨0, fun x left scheduler => ?_⟩
    rw [← left, Function.update_eq_self, ← scheduler]
    rfl
  | @step stage s s' _ ih =>
    obtain ⟨k, rest⟩ := ih
    refine ⟨k + 1, fun x left scheduler => ?_⟩
    rw [List.replicate_succ, run, List.foldl_cons, step_proceeds left, scheduler]
    refine (rest _ (Function.update_self ..) rfl).trans ?_
    rw [Function.update_idem]

/-- A `request` that begins when nothing is left of the one before, and during which nobody else
does anything, is carried out in `k` stages, which do what `Scheduler.process` does. -/
theorem run_process (free : x.stage gate = none) (id : SubscriptionId) (request : Request) :
    ∃ k, x.run (.begins gate id request :: List.replicate k (.proceeds gate)) =
      { x with scheduler := x.scheduler.process id gate request } := by
  obtain ⟨k, rest⟩ := run_finishes (x.scheduler.finishes_process id gate request)
  refine ⟨k, ?_⟩
  rw [run, List.foldl_cons, step_begins free]
  refine (rest _ (Function.update_self ..) rfl).trans ?_
  rw [Function.update_idem, ← free, Function.update_eq_self]

/-- If nobody else does anything, what is left of an update, in `k` stages, is carried out as a
whole. -/
theorem run_completes {s : Scheduler ω} {done : Outcome Unit × Scheduler ω}
    (completes : round.Completes s done) : ∃ k, ∀ x : Traffic ω,
      x.round n = some round → x.scheduler = s → x.run (List.replicate k (.advances n)) =
        { x with scheduler := done.2, round := Function.update x.round n none } := by
  induction completes with
  | done next =>
    refine ⟨1, fun x left scheduler => ?_⟩
    rw [List.replicate_one, run, List.foldl_cons, step_advances left, scheduler, next]
    rfl
  | step next _ ih =>
    obtain ⟨k, rest⟩ := ih
    refine ⟨k + 1, fun x left scheduler => ?_⟩
    rw [List.replicate_succ, run, List.foldl_cons, step_advances left, scheduler, next]
    refine (rest _ (Function.update_self ..) rfl).trans ?_
    rw [Function.update_idem]

/-- The update `sparql`, if it may go ahead and nobody else does anything, is carried out in `k`
stages, which do what `Scheduler.update` does. -/
theorem run_update {sparql : String} {authorization : Option String} (free : x.round n = none)
    (authorized : Surroundings.authorize authorization x.scheduler.world = .ok ()) :
    ∃ k, x.run (.amends n sparql authorization :: List.replicate k (.advances n)) =
      { x with scheduler := (x.scheduler.update sparql authorization).2 } := by
  have completes : (Round.applying sparql).Completes x.scheduler
      (x.scheduler.update sparql authorization) := Scheduler.completes_update authorized
  obtain ⟨k, rest⟩ := run_completes (n := n) completes
  refine ⟨k, ?_⟩
  rw [run, List.foldl_cons, step, free, authorized]
  refine (rest { x with round := Function.update x.round n (some (.applying sparql)) }
    (Function.update_self ..) rfl).trans ?_
  rw [Function.update_idem, ← free, Function.update_eq_self]

end Traffic

end GraphBroker
