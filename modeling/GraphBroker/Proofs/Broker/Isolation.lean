import GraphBroker.Proofs.Broker.Neighbours

/-!
# Subscriptions live on live gates

Along every run of a broker at work each subscription belongs to a gate that is known, a
subscription that finds its gate closed leaves nothing behind, and a gate that has been closed is
handed nothing any more. What one gate does is of no consequence to another gate, its queue and
its subscriptions, unless it is an update: an update tells other gates what has changed in their
own subscriptions, and ends only subscriptions of gates that are not open.

## Main definitions

* `Service.Fresh`: the names that a step draws are not in use.
* `Service.actor?`, `Service.Updates`: whose step it is, and whether it is an update.
* `Service.Orderly`: what holds after every run.

## Main statements

* `housed_step`: every step keeps subscriptions on known gates.
* `spared_step`: a step of one gate that is no update spares every other gate.
* `tellsOthers_step`: an update tells other gates of their own subscriptions.
* `gone_step`: a gate that has been closed stays so.
* `subscriptions_on_live_gates`: all of it, along every run.
-/

namespace GraphBroker

open Std

/-! ### Steps -/

namespace Service

variable {ε : Type}

/-- No gate has been opened, and there is no subscription. -/
structure Idle (s : Service ε) : Prop where
  /-- No gate is known. -/
  unopened : ∀ id, s.broker.gate? id = none
  /-- There is no subscription. -/
  unsubscribed : s.table = ∅

theorem Idle.housed {s : Service ε} (idle : s.Idle) : s.broker.Housed where
  wellFormed := by
    rw [show s.broker.scheduler.table = ∅ from idle.unsubscribed]
    exact .empty
  known stands := by
    rw [show s.broker.scheduler.table = ∅ from idle.unsubscribed,
      SubscriptionTable.get?_empty] at stands
    cases stands

variable [QueryEngine ε] {s : Service ε} {next : Step ε} {id other : GateId} {g : Gate}
  {steps : List (Step ε)}

/-- The names that the step draws are not in use. -/
def Fresh (s : Service ε) : Step ε → Prop
  | .opens _ => s.broker.anyGate? ⟨s.broker.supply.uuid⟩ = none
  | .carries _ => s.broker.NewName
  | _ => True

instance : Decidable (s.Fresh next) :=
  match next with
  | .opens _ | .carries _ => inferInstanceAs (Decidable (_ = _))
  | .arrives .. | .picks _ | .amends .. | .closes _ | .ends | .dropsWriter _ | .takes _
  | .elapses .. => inferInstanceAs (Decidable True)

/-- The gate whose connection or worker takes the step, or `none`. -/
def actor? (s : Service ε) : Step ε → Option GateId
  | .opens _ => some ⟨s.broker.supply.uuid⟩
  | .arrives id _ | .picks id | .carries id | .closes id | .dropsWriter id | .takes id => some id
  | .amends .. | .ends | .elapses .. => none

/-- The step applies an update, or tries to. -/
def Updates (s : Service ε) : Step ε → Prop
  | .carries id => ∃ request, s.inHand id = some request ∧ request.IsUpdate
  | .amends .. => True
  | _ => False

/-- Every step `next` keeps subscriptions on known gates. -/
theorem housed_step (housed : s.broker.Housed) (fresh : s.Fresh next) :
    (s.step next).broker.Housed := by
  cases next with
  | opens path => exact Broker.housed_openGate housed path
  | arrives id frame => exact Broker.housed_receive housed frame
  | picks id =>
    obtain still | ⟨request, b, -, picked, after⟩ := s.step_picks_cases id
    · rwa [still]
    · rw [after]
      exact Broker.housed_pick housed picked
  | carries id =>
    cases held : s.inHand id with
    | none => rwa [(carries_of_idle held).1]
    | some request =>
      rw [(carries_of_held held).1]
      exact Broker.housed_carry housed fresh id request
  | amends sparql authorization => exact Broker.housed_amend housed sparql authorization
  | closes id => exact Broker.housed_closeGate housed id
  | ends => exact Broker.housed_shutdown housed
  | dropsWriter id => exact Broker.housed_dropWriter housed
  | takes id => exact Broker.housed_take housed
  | elapses => exact ⟨housed.wellFormed, housed.known⟩

theorem housed_run (housed : s.broker.Housed) (fresh : s.Throughout Fresh steps) :
    (s.run steps).broker.Housed :=
  run_induction housed fresh fun _ _ fresh housed => housed_step housed fresh

/-- A step `next` of one gate that is no update spares every `other` gate. -/
theorem spared_step (housed : s.broker.Housed) (fresh : s.Fresh next) (quiet : ¬s.Updates next)
    (lasts : next ≠ .ends) (apart : s.actor? next ≠ some other) :
    s.broker.Spared (s.step next).broker other ∧ (s.step next).inHand other = s.inHand other := by
  have different {id : GateId} (acts : s.actor? next = some id) : id ≠ other :=
    fun same => apart (same ▸ acts)
  cases next with
  | opens path => exact ⟨Broker.spared_openGate path (different rfl), rfl⟩
  | arrives id frame => exact ⟨Broker.spared_receive frame (different rfl), rfl⟩
  | picks id =>
    obtain still | ⟨request, b, -, picked, after⟩ := s.step_picks_cases id
    · rw [still]
      exact ⟨.refl, rfl⟩
    · rw [after]
      exact ⟨Broker.spared_pick picked (different rfl),
        Function.update_of_ne (different rfl).symm _ _⟩
  | carries id =>
    cases held : s.inHand id with
    | none =>
      rw [(carries_of_idle held).1]
      exact ⟨.refl, rfl⟩
    | some request =>
      rw [(carries_of_held held).1]
      have kind : ¬request.IsUpdate := fun kind => quiet ⟨request, held, kind⟩
      exact ⟨Broker.spared_carry housed.wellFormed fresh kind (different rfl),
        Function.update_of_ne (different rfl).symm _ _⟩
  | amends sparql authorization => exact absurd trivial quiet
  | closes id => exact ⟨Broker.spared_closeGate housed.wellFormed (different rfl), rfl⟩
  | ends => exact absurd rfl lasts
  | dropsWriter id => exact ⟨Broker.spared_dropWriter (different rfl), rfl⟩
  | takes id => exact ⟨Broker.spared_take (different rfl), rfl⟩
  | elapses => exact ⟨⟨rfl, rfl, .refl⟩, rfl⟩

/-- An update tells gates other than `s.actor? next` of their own subscriptions. -/
theorem tellsOthers_step (housed : s.broker.Housed) (updates : s.Updates next) :
    s.broker.TellsOthers (s.step next).broker (s.actor? next) := by
  cases next with
  | carries id =>
    obtain ⟨request, held, kind⟩ := updates
    rw [(carries_of_held held).1]
    exact Broker.tellsOthers_carry housed kind
  | amends sparql authorization => exact Broker.tellsOthers_amend housed sparql authorization
  | _ => exact updates.elim

/-- A gate `id` that is not known answers `.gateClosed`. -/
theorem log_of_unknown (unknown : s.broker.gate? id = none) :
    ∀ handed ∈ s.log next, handed.gate = id → handed.delivery = .gateClosed := by
  cases next with
  | arrives other frame =>
    intro handed listed asked
    -- No frame of a gate that is not known is refused.
    obtain rfl : id = other := asked.symm.trans (Broker.gate_eq_of_mem_frameLog listed)
    rw [log, (Broker.receive_of_unknown unknown frame).2] at listed
    cases listed
  | carries other =>
    cases held : s.inHand other with
    | none =>
      rw [(carries_of_idle held).2]
      exact fun _ listed => absurd listed List.not_mem_nil
    | some request =>
      rw [(carries_of_held held).2]
      exact ((Broker.handing_carry ..).unknown unknown).2
  | amends sparql authorization => exact ((Broker.handing_amend ..).unknown unknown).2
  | _ => exact fun _ listed => absurd listed List.not_mem_nil

/-- A gate that is `Gone` stays so in every step `next`, with the messages that were in its
queue. -/
theorem gone_step (fresh : s.Fresh next) (gone : s.broker.Gone id g) :
    ∃ g', (s.step next).broker.Gone id g' ∧ g'.outbound = g.outbound := by
  cases next with
  | opens path => exact ⟨g, gone.openGate fresh path, rfl⟩
  | arrives other frame => exact ⟨g, gone.receive frame, rfl⟩
  | picks other =>
    obtain still | ⟨request, b, -, picked, after⟩ := s.step_picks_cases other
    · rw [still]
      exact ⟨g, gone, rfl⟩
    · rw [after]
      exact gone.pick picked
  | carries other =>
    cases held : s.inHand other with
    | none =>
      rw [(carries_of_idle held).1]
      exact ⟨g, gone, rfl⟩
    | some request =>
      rw [(carries_of_held held).1]
      exact ⟨g, gone.carry request, rfl⟩
  | amends sparql authorization => exact ⟨g, gone.amend sparql authorization, rfl⟩
  | closes other => exact ⟨g, gone.closeGate other, rfl⟩
  | ends => exact ⟨g, gone.shutdown, rfl⟩
  | dropsWriter other => exact ⟨g, gone.dropWriter, rfl⟩
  | takes other => exact ⟨g, gone.take, rfl⟩
  | elapses => exact ⟨g, ⟨gone.unknown, gone.kept⟩, rfl⟩

/-- A gate that is `Gone` takes nothing that it is handed in a run. -/
theorem gone_run (fresh : s.Throughout Fresh steps) (gone : s.broker.Gone id g) :
    (∃ g', (s.run steps).broker.Gone id g' ∧ g'.outbound = g.outbound) ∧
      ∀ handed ∈ s.along log steps, handed.gate = id → handed.delivery = .gateClosed := by
  induction steps generalizing s g with
  | nil => exact ⟨⟨g, gone, rfl⟩, nofun⟩
  | cons next rest ih =>
    obtain ⟨g', after, kept⟩ := gone_step fresh.1 gone
    obtain ⟨⟨last, ended, same⟩, answers⟩ := ih fresh.2 after
    exact ⟨⟨last, ended, same.trans kept⟩,
      List.forall_mem_append.2 ⟨log_of_unknown gone.unknown, answers⟩⟩

/-! ### Runs -/

/-- What holds of a service `s` that has run from the start, whatever comes next. -/
structure Orderly (s : Service ε) : Prop where
  /-- Every subscription belongs to a gate that is known, and the index says the same. -/
  housed : s.broker.Housed
  /-- A request to subscribe that is carried out for a gate `id` that is not known or not open
  leaves the table and its index as they were. -/
  unhoused : ∀ {id pattern label authorization},
    s.inHand id = some (.subscribe pattern label authorization) → s.Fresh (.carries id) →
    (∀ g, s.broker.gate? id = some g → g.isOpen = false) →
    (s.step (.carries id)).table = s.table
  /-- When a gate `id` has been closed, by itself or with all others, it is not known any more. It
  is handed nothing, whatever comes `later`, and its queue stays as it was. -/
  closed : ∀ {id g next}, s.broker.gate? id = some g → next = .closes id ∨ next = .ends →
    ∀ {later}, (s.step next).Throughout Fresh later →
      (∃ g', ((s.step next).run later).broker.Gone id g' ∧ g'.outbound = g.outbound) ∧
        ∀ handed ∈ (s.step next).along log later, handed.gate = id →
          handed.delivery = .gateClosed
  /-- What one gate does in the step `next` is of no consequence to any `other`, unless it is an
  update. -/
  spared : ∀ {next other}, s.Fresh next → ¬s.Updates next → next ≠ .ends →
    s.actor? next ≠ some other →
    s.broker.Spared (s.step next).broker other ∧ (s.step next).inHand other = s.inHand other ∧
      (s.step next).table.owned other = s.table.owned other
  /-- An update tells gates other than the one that acts of their own subscriptions and of nothing
  else, and ends only subscriptions of gates that are not open. -/
  updated : ∀ {next}, s.Updates next → s.broker.TellsOthers (s.step next).broker (s.actor? next)

/-- Along every run from the start in which new names are not in use, subscriptions live on live
gates, and gates do not disturb each other: the service that the `steps` lead to is `Orderly`. -/
theorem subscriptions_on_live_gates {start : Service ε} (idle : start.Idle)
    (fresh : start.Throughout Fresh steps) : (start.run steps).Orderly := by
  have housed := housed_run idle.housed fresh
  generalize start.run steps = s at housed
  refine ⟨housed, fun held new shut => ?_, fun {id g next} known closing {later} fresh => ?_,
    fun {next other} fresh quiet lasts apart => ?_,
    fun updates => tellsOthers_step housed updates⟩
  · simp only [step, held]
    exact Broker.table_carry_subscribe housed new shut _ _ _
  · -- Both ways of closing leave the gate among those that have departed.
    have closed : (s.step next).broker.Gone id g.beginClose.2.finishClose := by
      rcases closing with rfl | rfl
      · exact Broker.gone_closeGate known
      · exact Broker.gone_shutdown known
    obtain ⟨⟨g', gone, same⟩, answers⟩ := gone_run fresh closed
    refine ⟨⟨g', gone, same.trans ?_⟩, answers⟩
    unfold Gate.beginClose
    split <;> rfl
  · obtain ⟨spared, kept⟩ := spared_step housed fresh quiet lasts apart
    exact ⟨spared, kept, spared.subscriptions.owned housed.wellFormed
      (housed_step housed fresh).wellFormed⟩

/-- Two gates ask for a subscription. The second one is closed while its worker has the request in
hand. -/
def lateSubscription : List (Step Memory) :=
  let first : GateId := ⟨.ofNat 0⟩
  let second : GateId := ⟨.ofNat 1⟩
  [.opens "/subscribe", .opens "/subscribe", .arrives first subscribesToAll, .picks first,
    .carries first, .arrives second subscribesToAll, .picks second, .closes second,
    .carries second]

/-- After `lateSubscription` only the first gate has a subscription. -/
theorem subscriptions_on_live_gates_lateSubscription :
    unused.Idle ∧ unused.Throughout Fresh lateSubscription ∧
      (unused.run lateSubscription).Orderly ∧
      (unused.run lateSubscription).table.snapshot.map (·.gate) = [⟨.ofNat 0⟩] := by
  have idle : unused.Idle := ⟨fun id => ExtTreeMap.getElem?_empty, rfl⟩
  have fresh : unused.Throughout Fresh lateSubscription := by decide +kernel
  exact ⟨idle, fresh, subscriptions_on_live_gates idle fresh, by decide +kernel⟩

end Service

end GraphBroker
