import GraphBroker.Proofs.Broker.Neighbours
import Mathlib.Data.List.Forall2

/-!
# One reply to each request

As long as a gate is open and its queue of messages has room, each request that its worker carries
out is answered by one message, of the kind that belongs to the request or an error, and in the
order in which the requests were accepted. A frame that is refused is answered by one error and
goes no further.

## Main definitions

* `Scheduler.Answers`: the messages that answer a request.
* `Broker.Handles`: what a frame does, be it refused or not.
* `Service.pending`, `Service.queue`: the requests and the messages that wait at a gate.
* `Service.Undisturbed`: a gate stays open in a step, and what is handed to it is taken.
* `Service.Served`: requests, frames and messages are accounted for along a run.

## Main statements

* `handles_receive`: a frame.
* `balanced_step`: what comes to a gate and leaves it in one step.
* `answered_step`, `plain_put_step`: the messages other than notifications that come to a gate.
* `one_reply_to_each_request`: all of it, along every run.
-/

namespace GraphBroker

open Handed (taken toGate)

/-- Whether the message is a notification. -/
def Message.isNotification : Message → Bool
  | notification _ => true
  | _ => false

/-- What the gate `id` has taken that is no notification. -/
def Handed.plain (log : List Handed) (id : GateId) : List Message :=
  (taken (toGate log id)).filter (!·.isNotification)

open Handed (plain)

theorem plain_append (log log' : List Handed) (id : GateId) :
    plain (log ++ log') id = plain log id ++ plain log' id := by
  simp only [plain, toGate_append, taken_append, List.filter_append]

theorem plain_singleton {message : Message} (id : GateId)
    (other : message.isNotification = false) :
    plain [⟨id, message, .delivered⟩] id = [message] := by
  simp [plain, toGate_singleton, taken_singleton, other]

/-! ### What answers a request -/

namespace Scheduler

variable {ω : Type} [Surroundings ω] {s : Scheduler (Recorded ω)} {t' : SubscriptionTable}
  {name : SubscriptionId} {gate id : GateId} {request : Request} {log : List Handed}

theorem Notifies.plain_eq_nil (notifies : Notifies log) : plain log id = [] := by
  refine List.filter_eq_nil_iff.2 fun message found => ?_
  obtain ⟨handed, listed, rfl⟩ := List.mem_map.1 found
  obtain ⟨n, same⟩ := notifies handed (mem_toGate.1 (List.mem_filter.1 listed).1).1
  simp [same, Message.isNotification]

/-- The messages that answer `request` of `gate`: if its operation succeeds in `s`, one of the kind
that belongs to the request, with what the operation has found, and if it fails with a fault, the
error of this fault. A subscription is made under `name`. -/
inductive Answers (s : Scheduler (Recorded ω)) (name : SubscriptionId) (gate : GateId) :
    Request → Message → Prop
  /-- The request fails with `fault`. -/
  | failed {request : Request} {fault : Fault} (fails : s.Fails name gate request fault) :
    Answers s name gate request (.ofFault fault)
  /-- `Scheduler.subscribe` has answered with `name`. The gate is told the `label` that was asked
  for and the results `initial` that the engine has found. -/
  | subscribed {pattern : Sparql.Pattern} {label authorization : Option String}
    {initial : ResultSet}
    (found : (Surroundings.execute pattern s.world).1 = .ok initial)
    (made : (s.subscribe name gate pattern label
      (Request.subscribe pattern label authorization).bearer?).1 = .ok name) :
    Answers s name gate (.subscribe pattern label authorization)
      (.subscribed name label initial)
  /-- The subscription `other` that was named is no more. This never fails. -/
  | unsubscribed {other : SubscriptionId} {authorization : Option String} :
    Answers s name gate (.unsubscribe other authorization) (.unsubscribed other)
  /-- `Scheduler.update` has succeeded. -/
  | updated {sparql : String} {authorization : Option String}
    (applied : (s.update sparql (Request.update sparql authorization).bearer?).1 = .ok ()) :
    Answers s name gate (.update sparql authorization) .updated
  /-- `Scheduler.query` has answered with the results `r`. -/
  | results {pattern : Sparql.Pattern} {authorization : Option String} {r : ResultSet}
    (found : (s.query pattern (Request.query pattern authorization).bearer?).1 = .ok r) :
    Answers s name gate (.query pattern authorization) (.results r)

/-- A `gate` that takes what it is handed is answered once, by `reply`. -/
theorem Carried.answered (carried : s.Carried name gate request t' log)
    (taken : ∀ handed ∈ log, handed.gate = gate → handed.delivery = .delivered) :
    ∃ reply, s.Answers name gate request reply ∧ plain log gate = [reply] := by
  cases carried with
  | failed fails delivery =>
    obtain rfl : delivery = .delivered := taken _ (List.mem_singleton_self _) rfl
    exact ⟨_, .failed fails, plain_singleton gate rfl⟩
  | undelivered found fails missed last =>
    -- The fault would come as a second answer, but the first one has been taken.
    exact absurd (taken _ List.mem_cons_self rfl) missed
  | subscribed found made => exact ⟨_, .subscribed found made, plain_singleton gate rfl⟩
  | unsubscribed delivery =>
    obtain rfl : delivery = .delivered := taken _ (List.mem_singleton_self _) rfl
    exact ⟨_, .unsubscribed, plain_singleton gate rfl⟩
  | updated applied notifies rounded delivery =>
    obtain rfl : delivery = .delivered :=
      taken _ (List.mem_append_right _ (List.mem_singleton_self _)) rfl
    refine ⟨_, .updated applied, ?_⟩
    -- What the gate is told of the round comes first, and is no answer.
    rw [plain_append, notifies.plain_eq_nil, plain_singleton gate rfl, List.nil_append]
  | results found delivery =>
    obtain rfl : delivery = .delivered := taken _ (List.mem_singleton_self _) rfl
    exact ⟨_, .results found, plain_singleton gate rfl⟩

/-- Gates other than `gate` take nothing but notifications. -/
theorem Carried.plain_eq_nil (carried : s.Carried name gate request t' log)
    (different : gate ≠ id) : plain log id = [] := by
  cases carried with
  | updated applied notifies rounded delivery =>
    rw [plain_append, notifies.plain_eq_nil]
    simp [plain, toGate_singleton, different, taken]
  | failed | undelivered | subscribed | unsubscribed | results =>
    simp [plain, toGate, different, taken]

end Scheduler

/-! ### Frames -/

namespace Broker

variable {ε : Type} {b b' : Broker ε} {id : GateId} {g : Gate} {frame : Frame}

/-- What `frame` does that arrives at a gate `g` whose queue of messages has room. -/
inductive Handles (b b' : Broker ε) (id : GateId) (g : Gate) (frame : Frame) : Prop
  /-- It is refused with `fault`. One error waits for the client, and no request for the worker. -/
  | refused {fault : Fault} (reason : g.Refuses b.gateConfig frame fault)
    (told : b.AtGate b' id { g.joined frame with outbound := g.outbound ++ [.ofFault fault] })
  /-- It is not refused. A request that it completes waits for the worker, and no message for the
  client. -/
  | admitted (sound : ∀ fault, ¬g.Refuses b.gateConfig frame fault)
    (left : b.AtGate b' id
      { g.joined frame with requests := g.requests ++ (b.verdict id frame).requests })

theorem handles_receive (known : b.gate? id = some g)
    (delivered : ∀ handed ∈ b.frameLog id frame, handed.delivery = .delivered) :
    b.Handles (b.receive id frame) id g frame := by
  have left := atGate_receive known frame
  obtain ⟨g', told, after⟩ := told_receive known frame
  obtain rfl := told.eq_of_delivered delivered
  rw [after] at left
  rw [frameLog] at left
  cases outcome : b.verdict id frame with
  | refused fault =>
    refine .refused ((verdict_eq_refused_iff known).1 outcome) ?_
    simpa [outcome, Verdict.requests, Gate.joined] using left
  | dropped | kept | accepted request =>
    have sound (fault : Fault) : ¬g.Refuses b.gateConfig frame fault := fun reason => by
      rw [(verdict_eq_refused_iff known).2 reason] at outcome
      cases outcome
    refine .admitted sound ?_
    simpa [outcome, Verdict.requests, Gate.joined] using left

end Broker

/-- The message `reply` answers a `request` of the gate `id` that `b` carries out now. -/
def Broker.Answers {ε : Type} [QueryEngine ε] (b : Broker ε) (id : GateId) (request : Request)
    (reply : Message) : Prop :=
  b.recorded.Answers ⟨b.supply.uuid⟩ id request reply

/-! ### Writers -/

/-- The message that the writer of a gate has found, if there was one. -/
def Gate.Received.messages : Gate.Received → List Message
  | message m => [m]
  | ended | waiting => []

/-- What the writer of `g` takes, as long as the gate is open, was in front of the queue. -/
theorem Gate.receive_of_open {g : Gate} (opened : g.isOpen) :
    g.outbound = g.receive.1.messages ++ g.receive.2.outbound ∧
      g.receive.2.requests = g.requests := by
  unfold receive
  split
  · exact ⟨rfl, rfl⟩
  · split <;> rename_i waiting <;> simp [Received.messages, waiting]

/-! ### One step -/

namespace Service

variable {ε : Type} {s : Service ε} {next : Step ε} {id : GateId} {g g' : Gate}
  {steps : List (Step ε)}

/-- The requests of the gate `id` that are not carried out yet, beginning with the one in the hands
of its worker. -/
def pending (s : Service ε) (id : GateId) : List Request :=
  (s.inHand id).toList ++ ((s.broker.gate? id).map (·.requests)).getD []

/-- The messages that wait at the gate `id`. -/
def queue (s : Service ε) (id : GateId) : List Message :=
  ((s.broker.gate? id).map (·.outbound)).getD []

theorem pending_of_known (known : s.broker.gate? id = some g) :
    s.pending id = (s.inHand id).toList ++ g.requests := by
  rw [pending, known]
  rfl

theorem queue_of_known (known : s.broker.gate? id = some g) : s.queue id = g.outbound := by
  rw [queue, known]
  rfl

/-- The requests that a step leaves to the worker of the gate `id`. -/
def accepted (id : GateId) (s : Service ε) : Step ε → List Request
  | .arrives other frame => if other = id then (s.broker.verdict id frame).requests else []
  | _ => []

/-- The faults for which a step refuses a frame of the gate `id`. -/
def refusals (id : GateId) (s : Service ε) : Step ε → List Fault
  | .arrives other frame => if other = id then (s.broker.verdict id frame).faults else []
  | _ => []

/-- The requests that the worker of the gate `id` carries out in a step, each with the broker as it
finds it. -/
def carried (id : GateId) (s : Service ε) : Step ε → List (Broker ε × Request)
  | .carries other => if other = id then (s.inHand id).toList.map (s.broker, ·) else []
  | _ => []

/-- The messages that the writer of the gate `id` takes in a step. -/
def written (id : GateId) (s : Service ε) : Step ε → List Message
  | .takes other => if other = id then (s.broker.take id).1.messages else []
  | _ => []

/-- Another gate takes the place of the gate `id`, or nobody takes its messages any more. -/
def Unsettles (s : Service ε) (id : GateId) : Step ε → Prop
  | .opens _ => ⟨s.broker.supply.uuid⟩ = id
  | .dropsWriter other => other = id
  | _ => False

instance : Decidable (s.Unsettles id next) :=
  match next with
  | .opens _ | .dropsWriter _ => inferInstanceAs (Decidable (_ = _))
  | .arrives .. | .picks _ | .carries _ | .amends .. | .closes _ | .ends | .takes _
  | .elapses .. => inferInstanceAs (Decidable False)

variable [QueryEngine ε]

/-- The messages that the step `next` puts into the queue of the gate `id`. -/
def put (id : GateId) (s : Service ε) (next : Step ε) : List Message :=
  taken (toGate (s.log next) id)

/-- The messages other than notifications that the worker of the gate `id` puts into its queue. -/
def replies (id : GateId) (s : Service ε) : Step ε → List Message
  | .carries other => if other = id then Handed.plain (s.log (.carries id)) id else []
  | _ => []

/-- The gate `id` stays open, and its queue has room for whatever is handed to it. -/
structure Undisturbed (id : GateId) (s : Service ε) (next : Step ε) : Prop where
  /-- It is open before the step. -/
  before : (s.broker.gate? id).any (·.isOpen)
  /-- It is open after the step. -/
  after : ((s.step next).broker.gate? id).any (·.isOpen)
  /-- It is the same gate, and keeps its writer. -/
  settled : ¬s.Unsettles id next
  /-- It never answers `.busy`. -/
  ready : ∀ handed ∈ s.log next, handed.gate = id → handed.delivery ≠ .busy

instance : Decidable (Undisturbed id s next) :=
  decidable_of_iff
    ((s.broker.gate? id).any (·.isOpen) ∧ ((s.step next).broker.gate? id).any (·.isOpen) ∧
      ¬s.Unsettles id next ∧ ∀ handed ∈ s.log next, handed.gate = id → handed.delivery ≠ .busy)
    ⟨fun ⟨before, after, settled, ready⟩ => ⟨before, after, settled, ready⟩,
      fun quiet => ⟨quiet.before, quiet.after, quiet.settled, quiet.ready⟩⟩

/-- What comes to the gate `id` and leaves it in the step `next`. -/
structure Balanced (id : GateId) (s : Service ε) (next : Step ε) : Prop where
  /-- What is handed to the gate is taken. -/
  delivered : ∀ handed ∈ s.log next, handed.gate = id → handed.delivery = .delivered
  /-- Requests come from frames, and leave when they are carried out. -/
  requests : s.pending id ++ accepted id s next =
    (carried id s next).map Prod.snd ++ (s.step next).pending id
  /-- Messages come from whoever hands them over, and leave when the writer takes them. -/
  messages : s.queue id ++ put id s next = written id s next ++ (s.step next).queue id

/-- A gate that is open in the end, and never answers `.busy`, takes all that is handed to it. -/
theorem delivered_of_told (quiet : Undisturbed id s next)
    (after : (s.step next).broker.gate? id = some g') {h h' : Gate}
    (told : h.Told (toGate (s.log next) id) h') (state : h'.state = g'.state) :
    ∀ handed ∈ s.log next, handed.gate = id → handed.delivery = .delivered := by
  intro handed listed asked
  have opened : h'.isOpen := by
    have opened := quiet.after
    rw [after, Option.any_some] at opened
    rwa [Gate.isOpen, state]
  have closed := (told.opened opened).2 handed (mem_toGate.2 ⟨listed, asked⟩)
  have busy := quiet.ready handed listed asked
  cases answer : handed.delivery with
  | delivered => rfl
  | gateClosed => exact absurd answer closed
  | busy => exact absurd answer busy

/-- A step `next` that leaves the gate `id` as it was, and hands nothing to it. -/
theorem Balanced.of_eq (gate : (s.step next).broker.gate? id = s.broker.gate? id)
    (hand : (s.step next).inHand id = s.inHand id) (silent : toGate (s.log next) id = [])
    (unasked : accepted id s next = []) (idle : carried id s next = [])
    (unwritten : written id s next = []) : Balanced id s next where
  delivered handed listed asked := by
    have found := mem_toGate.2 ⟨listed, asked⟩
    rw [silent] at found
    cases found
  requests := by simp [pending, gate, hand, unasked, idle]
  messages := by simp [queue, put, gate, silent, unwritten, taken]

/-- A step that hands nothing over. -/
theorem Balanced.of_silent (silent : s.log next = [])
    (requests : s.pending id ++ accepted id s next =
      (carried id s next).map Prod.snd ++ (s.step next).pending id)
    (messages : s.queue id = written id s next ++ (s.step next).queue id) :
    Balanced id s next where
  delivered handed listed asked := by
    rw [silent] at listed
    cases listed
  requests := requests
  messages := by
    rw [put, silent, ← messages]
    exact List.append_nil _

/-- A step `next` that at most hands messages to the gate `id`. -/
theorem Balanced.of_told (quiet : Undisturbed id s next) (known : s.broker.gate? id = some g)
    (after : (s.step next).broker.gate? id = some g')
    (told : g.Told (toGate (s.log next) id) g') (unwritten : written id s next = [])
    (unasked : accepted id s next = [])
    (hand : (s.inHand id).toList = (carried id s next).map Prod.snd ++
      ((s.step next).inHand id).toList) : Balanced id s next where
  delivered := delivered_of_told quiet after told rfl
  requests := by
    obtain ⟨state, rfl⟩ := told.eq
    rw [pending_of_known known, pending_of_known after, unasked, hand, List.append_nil,
      List.append_assoc]
  messages := by
    rw [queue_of_known known, queue_of_known after, unwritten, told.outbound]
    rfl

theorem balanced_arrives {other : GateId} {frame : Frame}
    (quiet : Undisturbed id s (.arrives other frame)) (known : s.broker.gate? id = some g) :
    Balanced id s (.arrives other frame) := by
  by_cases same : other = id
  · subst same
    obtain ⟨h, told, after⟩ := Broker.told_receive known frame
    have gate : (s.step (.arrives other frame)).broker.gate? other = _ :=
      ((Broker.atGate_receive known frame).gates other).trans (if_pos rfl)
    rw [after] at gate
    have here : toGate (s.log (.arrives other frame)) other = s.broker.frameLog other frame :=
      Broker.toGate_frameLog.trans (if_pos rfl)
    rw [← here] at told
    refine ⟨delivered_of_told quiet gate told rfl, ?_, ?_⟩
    · rw [pending_of_known known, pending_of_known gate, accepted, if_pos rfl,
        List.append_assoc]
      rfl
    · rw [queue_of_known known, queue_of_known gate, told.outbound]
      rfl
  · exact .of_eq (Broker.spared_receive frame same).gate rfl
      (Broker.toGate_frameLog.trans (if_neg same)) (if_neg same) rfl rfl

theorem balanced_picks {other : GateId} (known : s.broker.gate? id = some g) :
    Balanced id s (.picks other) := by
  obtain still | ⟨request, b, held, picked, after⟩ := s.step_picks_cases other
  · exact .of_eq (by rw [still]) (by rw [still]) rfl rfl rfl rfl
  by_cases same : other = id
  · subst same
    -- The oldest request goes from the queue into the hands of the worker.
    obtain ⟨h, later, found, requests, rfl⟩ := Broker.pick?_eq_some picked
    rw [Broker.anyGate?_of_known known, Option.some_inj] at found
    subst found
    rw [Broker.replaceGate_of_known known] at after
    have gate : (s.step (.picks other)).broker.gate? other =
        some { g with requests := later } := by
      rw [after]
      exact Broker.gate?_putGate_self
    have hand : (s.step (.picks other)).inHand other = some request := by
      rw [after]
      exact Function.update_self ..
    refine .of_silent rfl ?_ ?_
    · rw [pending_of_known known, pending_of_known gate, held, hand, requests]
      exact List.append_nil _
    · rw [queue_of_known known, queue_of_known gate]
      rfl
  · refine .of_eq ?_ ?_ rfl rfl rfl rfl
    · rw [after]
      exact (Broker.spared_pick picked same).gate
    · rw [after]
      exact Function.update_of_ne (Ne.symm same) _ _

theorem balanced_carries {other : GateId} (quiet : Undisturbed id s (.carries other))
    (known : s.broker.gate? id = some g) : Balanced id s (.carries other) := by
  cases held : s.inHand other with
  | none =>
    obtain ⟨still, silent⟩ := carries_of_idle held
    have idle : carried id s (.carries other) = [] := by
      by_cases same : other = id
      · simp [carried, ← same, held]
      · exact if_neg same
    exact .of_eq (by rw [still]) (by rw [still]) (by rw [silent]; rfl) rfl idle rfl
  | some request =>
    obtain ⟨after, handed⟩ := carries_of_held held
    obtain ⟨g', found, told⟩ := (Broker.handing_carry s.broker other request).told known
    rw [← handed] at told
    refine .of_told quiet known (by rw [after]; exact found) told rfl rfl ?_
    rw [after]
    by_cases same : other = id
    · simp [carried, ← same, held]
    · simp [carried, same, Function.update_of_ne (Ne.symm same)]

theorem balanced_takes {other : GateId} (known : s.broker.gate? id = some g) (opened : g.isOpen) :
    Balanced id s (.takes other) := by
  by_cases same : other = id
  · subst same
    obtain ⟨front, requests⟩ := Gate.receive_of_open opened
    have taken : s.broker.take other = (g.receive.1, s.broker.putGate other g.receive.2) := by
      rw [Broker.take, known]
    have gate : (s.step (.takes other)).broker.gate? other = some g.receive.2 := by
      rw [step, taken]
      exact Broker.gate?_putGate_self
    refine .of_silent rfl ?_ ?_
    · rw [pending_of_known known, pending_of_known gate, requests]
      exact List.append_nil _
    · rw [queue_of_known known, queue_of_known gate, written, if_pos rfl, taken]
      exact front
  · exact .of_eq (Broker.spared_take same).gate rfl rfl rfl rfl (if_neg same)

/-- Every step `next` keeps account of the requests and the messages of the gate `id`. -/
theorem balanced_step (quiet : Undisturbed id s next) : Balanced id s next := by
  obtain ⟨g, known, opened⟩ := (Option.any_eq_true _ _).1 quiet.before
  obtain ⟨g', after, -⟩ := (Option.any_eq_true _ _).1 quiet.after
  cases next with
  | opens path =>
    have apart : ⟨s.broker.supply.uuid⟩ ≠ id := quiet.settled
    exact .of_eq (by rw [step, Broker.gate?_openGate, if_neg apart]) rfl rfl rfl rfl rfl
  | arrives other frame => exact balanced_arrives quiet known
  | picks other => exact balanced_picks known
  | carries other => exact balanced_carries quiet known
  | amends sparql authorization =>
    obtain ⟨h, found, told⟩ := (Broker.handing_amend s.broker sparql authorization).told known
    exact .of_told quiet known found told rfl rfl rfl
  | closes other =>
    have apart : other ≠ id := by
      rintro rfl
      rw [step, Broker.gate?_closeGate, if_pos rfl] at after
      cases after
    exact .of_eq (by rw [step, Broker.gate?_closeGate, if_neg apart]) rfl rfl rfl rfl rfl
  | ends =>
    -- In the end no gate is known.
    rw [step, (Broker.gone_shutdown known).unknown] at after
    cases after
  | dropsWriter other =>
    exact .of_eq (Broker.spared_dropWriter quiet.settled).gate rfl rfl rfl rfl rfl
  | takes other => exact balanced_takes known opened
  | elapses => exact .of_eq rfl rfl rfl rfl rfl rfl

/-- Each request that is carried out in the step `next` is answered once. -/
theorem answered_step (quiet : Undisturbed id s next) :
    List.Forall₂ (fun entry reply => entry.1.Answers id entry.2 reply) (carried id s next)
      (replies id s next) := by
  have delivered := (balanced_step quiet).delivered
  cases next with
  | carries other =>
    by_cases same : other = id
    · subst same
      rw [carried, replies, if_pos rfl, if_pos rfl]
      cases held : s.inHand other with
      | none =>
        rw [(carries_of_idle held).2]
        exact .nil
      | some request =>
        rw [(carries_of_held held).2] at delivered ⊢
        obtain ⟨reply, answers, once⟩ :=
          (s.broker.carried_carry other request).answered delivered
        rw [once]
        exact .cons answers .nil
    · rw [carried, replies, if_neg same, if_neg same]
      exact .nil
  | _ => exact .nil

/-- Whatever the gate `id` takes that is no notification answers a request, or refuses a frame. -/
theorem plain_put_step (quiet : Undisturbed id s next) :
    (put id s next).filter (!·.isNotification) =
      replies id s next ++ (refusals id s next).map .ofFault := by
  cases next with
  | arrives other frame =>
    have unanswered : replies id s (.arrives other frame) = [] := rfl
    rw [unanswered, put, log, Broker.toGate_frameLog, refusals]
    by_cases same : other = id
    · subst same
      have told : taken (s.broker.frameLog other frame) =
          (s.broker.frameLog other frame).map (·.message) :=
        taken_of_delivered fun handed listed => (balanced_step quiet).delivered handed listed
          (Broker.gate_eq_of_mem_frameLog listed)
      rw [if_pos rfl, if_pos rfl, told, Broker.frameLog]
      cases s.broker.verdict other frame <;> rfl
    · rw [if_neg same, if_neg same]
      rfl
  | carries other =>
    have unrefused : refusals id s (.carries other) = [] := rfl
    rw [unrefused, List.map_nil, List.append_nil, replies]
    by_cases same : other = id
    · rw [if_pos same, same]
      rfl
    · -- A request of another gate tells this one of changes at most.
      rw [if_neg same]
      change Handed.plain (s.log (.carries other)) id = []
      cases held : s.inHand other with
      | none =>
        rw [(carries_of_idle held).2]
        rfl
      | some request =>
        rw [(carries_of_held held).2]
        exact (s.broker.carried_carry other request).plain_eq_nil same
  | amends sparql authorization =>
    exact (s.broker.notifies_amend sparql authorization).plain_eq_nil
  | _ => rfl

theorem handles_step {frame : Frame} (quiet : Undisturbed id s (.arrives id frame))
    (known : s.broker.gate? id = some g) :
    s.broker.Handles (s.step (.arrives id frame)).broker id g frame :=
  Broker.handles_receive known fun handed listed =>
    (balanced_step quiet).delivered handed listed (Broker.gate_eq_of_mem_frameLog listed)

/-! ### Runs -/

/-- What the gate `id` and its client can rely on while `s` takes the `steps`. -/
structure Served (id : GateId) (s : Service ε) (steps : List (Step ε)) : Prop where
  /-- Each request that is carried out is answered by one message, which is of the kind that
  belongs to the request or an error, in the order in which they are carried out. -/
  answered : List.Forall₂ (fun entry reply => entry.1.Answers id entry.2 reply)
    (s.along (carried id) steps) (s.along (replies id) steps)
  /-- Requests are carried out in the order in which they are accepted, and none is lost or
  carried out twice. -/
  requests : s.pending id ++ s.along (accepted id) steps =
    (s.along (carried id) steps).map Prod.snd ++ (s.run steps).pending id
  /-- Of a gate at which no request has waited in the beginning, those that are `carried` out are
  the first ones of those that are `accepted`. -/
  first : s.pending id = [] →
    (s.along (carried id) steps).map Prod.snd <+: s.along (accepted id) steps
  /-- A frame that is refused is answered by one error, and no request is made of it. -/
  frames : s.Throughout (fun s next => ∀ frame g, next = .arrives id frame →
    s.broker.gate? id = some g → s.broker.Handles (s.step next).broker id g frame) steps
  /-- There are no other messages in the queue of the gate than answers, errors for frames that
  are refused, and notifications. -/
  plain : s.Throughout (fun s next => (put id s next).filter (!·.isNotification) =
    replies id s next ++ (refusals id s next).map .ofFault) steps
  /-- The client is told in the order in which messages are put into the queue, and none is lost
  or told twice. -/
  messages : s.queue id ++ s.along (put id) steps =
    s.along (written id) steps ++ (s.run steps).queue id

theorem answered_run (quiet : s.Throughout (Undisturbed id) steps) :
    List.Forall₂ (fun entry reply => entry.1.Answers id entry.2 reply)
      (s.along (carried id) steps) (s.along (replies id) steps) := by
  induction steps generalizing s with
  | nil => exact .nil
  | cons next rest ih => exact List.rel_append (answered_step quiet.1) (ih quiet.2)

/-- Along every run in which the gate `id` stays open and is never busy, each request that its
worker carries out is answered once and in order, and each frame that is refused by one error
(`Served`). -/
theorem one_reply_to_each_request (quiet : s.Throughout (Undisturbed id) steps) :
    Served id s steps := by
  have requests : s.pending id ++ s.along (accepted id) steps =
      s.along (fun s next => (carried id s next).map Prod.snd) steps ++ (s.run steps).pending id :=
    balance_run quiet fun _ _ quiet => (balanced_step quiet).requests
  rw [along_map] at requests
  refine ⟨answered_run quiet, requests, fun none => ?_, ?_, ?_, ?_⟩
  · rw [none, List.nil_append] at requests
    exact ⟨_, requests.symm⟩
  · exact quiet.imp fun s next quiet frame g same known => by
      subst same
      exact handles_step quiet known
  · exact quiet.imp fun _ _ quiet => plain_put_step quiet
  · exact balance_run quiet fun _ _ quiet => (balanced_step quiet).messages

/-- A broker with two gates. -/
def paired : Service Memory := unused.run [.opens "/subscribe", .opens "/subscribe"]

/-- A frame that asks to insert a triple. -/
def insertsTriple : Frame :=
  .text "\x7b\"type\":\"update\",\"sparql\":\"INSERT DATA \x7b <a:b> <a:c> <a:d> \x7d\"\x7d" true

/-- At the first gate a client subscribes, and then sends what spells no text. At the second gate a
client inserts a triple. In the meantime the writer of the first gate takes two messages. -/
def conversation : List (Step Memory) :=
  let first : GateId := ⟨.ofNat 0⟩
  let second : GateId := ⟨.ofNat 1⟩
  [.arrives first subscribesToAll, .arrives first (.binary [255] true), .picks first,
    .carries first, .takes first,
    .arrives second insertsTriple, .picks second, .carries second, .takes first]

/-- In the `conversation`, the client at the first gate is told of the fault first. The notification
comes after the answer to its request. -/
theorem one_reply_to_each_request_conversation :
    paired.Throughout (Undisturbed ⟨.ofNat 0⟩) conversation ∧
      Served ⟨.ofNat 0⟩ paired conversation ∧
      (paired.along (put ⟨.ofNat 0⟩) conversation).map Message.kind =
        ["error", "subscribe_response", "notification"] := by
  have quiet : paired.Throughout (Undisturbed ⟨.ofNat 0⟩) conversation := by decide +kernel
  exact ⟨quiet, one_reply_to_each_request quiet, by decide +kernel⟩

end Service

end GraphBroker
