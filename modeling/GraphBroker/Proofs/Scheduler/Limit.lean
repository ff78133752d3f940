import GraphBroker.Proofs.Scheduler.Interleaving
import GraphBroker.Proofs.Scheduler.Replay
import GraphBroker.Proofs.Subscription.Counting

/-!
# The limit of subscriptions is exact

However requests of different gates overlap, no gate has more subscriptions than it may have, and a
gate that may subscribe is refused one just when it has as many. A subscription that is admitted
takes a slot until it is entered, so that what is in the table and what is still to be entered stay
together within the limit. A subscription that ends, in whatever way, frees its slot at once.

## Main definitions

* `Stage.slots`, `Traffic.reserved`: the slots that are taken by what is still to be entered.
* `Traffic.Slotted`: the slots that are taken stay within the limit.
* `Traffic.Ends`: the steps that end one subscription.
* `Traffic.Reached`: what runs lead to.
* `Traffic.Exact`: what holds after every run.

## Main statements

* `slotted_step`: every step.
* `limit_exact`: all of it, along every run.
-/

namespace GraphBroker

variable {ω : Type}

namespace Scheduler

variable {s : Scheduler ω} {gate : GateId} {id : SubscriptionId} {sub : Subscription}
  {results : ResultSet} {delivery : Delivery} {round : Round} {stage : Stage}

/-! ### Stages that make no subscription -/

theorem table_settle :
    (s.settle sub results delivery).table = s.table.settle sub results delivery := by
  cases delivery with
  | delivered =>
    rw [settle, SubscriptionTable.settle, SubscriptionTable.commit]
    cases s.table.get? sub.id <;> rfl
  | gateClosed | busy => rfl

theorem limit_settle : (s.settle sub results delivery).limit = s.limit := by
  cases delivery with
  | delivered =>
    rw [settle]
    rcases s.table.commit sub.id results (sub.sequence + 1) with ⟨_ | _, table⟩ <;> rfl
  | gateClosed | busy => rfl

theorem fewer_settle (wf : s.table.WellFormed) :
    s.table.Fewer (s.settle sub results delivery).table := by
  rw [table_settle]
  cases delivery with
  | delivered => exact .commit wf
  | gateClosed => exact .remove wf
  | busy => exact .refl wf

variable [Surroundings ω]

/-- No stage of a `round` makes a subscription. -/
theorem fewer_round (wf : s.table.WellFormed) (round : Round) :
    s.table.Fewer (round.next s).2.table ∧ (round.next s).2.limit = s.limit := by
  cases round with
  | applying sparql =>
    rw [Round.next]
    rcases Surroundings.update sparql s.world with ⟨fault | _, world⟩ <;> exact ⟨.refl wf, rfl⟩
  | listing => exact ⟨.refl wf, rfl⟩
  | asking found due => cases due <;> exact ⟨.refl wf, rfl⟩
  | telling due =>
    obtain _ | ⟨⟨sub, fault | results⟩, rest⟩ := due
    · exact ⟨.refl wf, rfl⟩
    · exact ⟨.refl wf, rfl⟩
    · rw [Round.next]
      split <;> exact ⟨.refl wf, rfl⟩
  | settling sub results delivery due => exact ⟨fewer_settle wf, limit_settle⟩

theorem limit_reply {message : Message} {counter : Option Counter} :
    (s.reply gate message counter).limit = s.limit := by
  simp only [reply, dispatch]
  rcases Surroundings.dispatch gate message s.world with ⟨delivery, world⟩
  cases delivery <;> cases counter <;> rfl

theorem permit_of_authorized {authorization : Option String}
    (authorized : Surroundings.authorize authorization s.world = .ok ()) :
    s.permit gate authorization =
      if s.limit ≤ s.table.countFor gate then .error (limitReached s.limit) else .ok () := by
  rw [permit, authorized]

/-- A subscription that is authorized is admitted, or it is refused because `s.limit` is reached. -/
theorem begin_subscribe {pattern : Sparql.Pattern} {label authorization : Option String}
    (authorized : Surroundings.authorize (Request.subscribe pattern label authorization).bearer?
      s.world = .ok ()) :
    (s.begin id gate (.subscribe pattern label authorization)).1 =
      if s.limit ≤ s.table.countFor gate then .fails (limitReached s.limit)
      else .admitted id pattern label := by
  rw [begin, permit_of_authorized authorized]
  by_cases full : s.limit ≤ s.table.countFor gate
  · rw [if_pos full, if_pos full]
  · rw [if_neg full, if_neg full]

/-- The slots that are taken by what is left of a request. -/
def Stage.slots : Stage → Nat
  | admitted .. | found .. => 1
  | entered _ | missed .. | updates _ | queries _ | replies .. => 0

/-- A `request` that begins makes no subscription yet. It takes a slot only if `gate` has one
left. -/
theorem begin_cases (wf : s.table.WellFormed) (id : SubscriptionId) (gate : GateId)
    (request : Request) :
    s.table.Fewer (s.begin id gate request).2.table ∧
      (s.begin id gate request).2.limit = s.limit ∧
      ((s.begin id gate request).1.slots = 0 ∨
        s.table.countFor gate < s.limit ∧ (s.begin id gate request).1.slots = 1) := by
  cases request with
  | subscribe pattern label authorization =>
    rw [begin, permit]
    rcases Surroundings.authorize _ s.world with fault | _
    · exact ⟨.refl wf, rfl, .inl rfl⟩
    · by_cases full : s.limit ≤ s.table.countFor gate
      · rw [if_pos full]
        exact ⟨.refl wf, rfl, .inl rfl⟩
      · rw [if_neg full]
        exact ⟨.refl wf, rfl, .inr ⟨Nat.lt_of_not_le full, rfl⟩⟩
  | unsubscribe other authorization => exact ⟨.removeOwned wf, rfl, .inl rfl⟩
  | update sparql authorization =>
    rw [begin]
    rcases Surroundings.authorize _ s.world with fault | _ <;> exact ⟨.refl wf, rfl, .inl rfl⟩
  | query pattern authorization =>
    rw [begin]
    rcases Surroundings.authorize _ s.world with fault | _ <;> exact ⟨.refl wf, rfl, .inl rfl⟩

/-- The stages of a request make no subscription, but for `Stage.found`, in which it is entered. -/
theorem next_cases (wf : s.table.WellFormed) (gate : GateId) (stage : Stage) :
    (∃ id pattern label initial, stage = .found id pattern label initial) ∨
      s.table.Fewer (stage.next gate s).2.table ∧ (stage.next gate s).2.limit = s.limit ∧
        ((stage.next gate s).1.elim 0 Stage.slots) ≤ stage.slots := by
  cases stage with
  | found id pattern label initial => exact .inl ⟨id, pattern, label, initial, rfl⟩
  | admitted id pattern label =>
    right
    rw [Stage.next, execute]
    rcases Surroundings.execute pattern s.world with ⟨fault | initial, world⟩
    · exact ⟨.refl wf, rfl, Nat.zero_le _⟩
    · exact ⟨.refl wf, rfl, Nat.le_refl _⟩
  | entered sub =>
    right
    rw [Stage.next, dispatch]
    rcases Surroundings.dispatch sub.gate sub.greeting s.world with ⟨_ | _ | _, world⟩ <;>
      exact ⟨.refl wf, rfl, Nat.le_refl _⟩
  | missed sub delivery => exact .inr ⟨.remove wf, rfl, Nat.le_refl _⟩
  | updates round =>
    right
    obtain ⟨fewer, limit⟩ := fewer_round wf round
    rw [Stage.next]
    generalize round.next s = answer at fewer limit ⊢
    obtain ⟨later | fault | _, done⟩ := answer <;> exact ⟨fewer, limit, Nat.le_refl _⟩
  | queries pattern =>
    right
    rw [Stage.next, execute]
    rcases Surroundings.execute pattern s.world with ⟨fault | results, world⟩ <;>
      exact ⟨.refl wf, rfl, Nat.le_refl _⟩
  | replies message counter =>
    refine .inr ⟨?_, limit_reply, Nat.le_refl _⟩
    rw [Stage.next, table_reply]
    exact .refl wf

end Scheduler

/-! ### Runs -/

namespace Traffic

open Scheduler (Round Stage)

variable {x x' : Traffic ω} {m : Nat} {gate : GateId} {id : SubscriptionId} {next : Step ω}

/-- The slots that are taken by what is left of the request of `gate`. -/
def reserved (x : Traffic ω) (gate : GateId) : Nat :=
  (x.stage gate).elim 0 Stage.slots

/-- The slots that are taken stay within the limit `m`. -/
structure Slotted (m : Nat) (x : Traffic ω) : Prop where
  /-- The limit is `m`, as it was set. -/
  limit : x.scheduler.limit = m
  /-- The index agrees with the entries. -/
  wellFormed : x.table.WellFormed
  /-- What is in the table and what is still to be entered stay within `m`. -/
  slots : ∀ gate, x.table.countFor gate + x.reserved gate ≤ m

/-- A step from `x` to `x'` that makes no subscription, and takes no slot, stays within the
limit. -/
theorem Slotted.of_fewer (slotted : x.Slotted m) (limit : x'.scheduler.limit = x.scheduler.limit)
    (fewer : x.table.Fewer x'.table) (reserved : ∀ gate, x'.reserved gate ≤ x.reserved gate) :
    x'.Slotted m := by
  refine ⟨limit.trans slotted.limit, fewer.wellFormed, fun gate => ?_⟩
  calc x'.table.countFor gate + x'.reserved gate
    _ ≤ x.table.countFor gate + x.reserved gate :=
      Nat.add_le_add (fewer.countFor_le gate) (reserved gate)
    _ ≤ m := slotted.slots gate

/-- The request of `gate` takes no slots of any `other`. -/
theorem reserved_of_update (left : Option Stage)
    (stage : x'.stage = Function.update x.stage gate left) (other : GateId) :
    x'.reserved other = if gate = other then left.elim 0 Stage.slots else x.reserved other := by
  rw [reserved, stage]
  by_cases same : gate = other
  · rw [if_pos same, same, Function.update_self]
  · rw [if_neg same, Function.update_of_ne (Ne.symm same), reserved]

variable [Surroundings ω]

/-- The name under which the next stage of the request of `gate` enters a subscription. -/
def entering? (x : Traffic ω) (gate : GateId) : Option SubscriptionId :=
  match x.stage gate with
  | some (.found id ..) => some id
  | _ => none

/-- A subscription is entered under a name that is not in use. -/
def Fresh (x : Traffic ω) : Step ω → Prop
  | .proceeds gate => (x.entering? gate).bind x.table.get? = none
  | _ => True

instance : Decidable (x.Fresh next) :=
  match next with
  | .proceeds _ => inferInstanceAs (Decidable (_ = _))
  | .begins .. | .amends .. | .advances _ | .unregisters _ | .ends | .elapses _ =>
    inferInstanceAs (Decidable True)

/-- A `request` that begins takes a slot only if there is one. -/
theorem slotted_begins (slotted : x.Slotted m) (id : SubscriptionId) (request : Request) :
    (x.step (.begins gate id request)).Slotted m := by
  cases free : x.stage gate with
  | some stage => rwa [step, free]
  | none =>
    obtain ⟨fewer, limit, slots⟩ := Scheduler.begin_cases slotted.wellFormed id gate request
    rw [step_begins free]
    refine ⟨limit.trans slotted.limit, fewer.wellFormed, fun other => ?_⟩
    -- The gate had nothing reserved. If it reserves a slot now, the table had room for it.
    have before := slotted.slots other
    have after : (x.scheduler.begin id gate request).2.table.countFor other ≤
      x.table.countFor other := fewer.countFor_le other
    rw [reserved_of_update _ rfl]
    change (x.scheduler.begin id gate request).2.table.countFor other + _ ≤ m
    split
    · rename_i same
      subst same
      rw [Option.elim_some]
      obtain none | ⟨room, one⟩ := slots
      · omega
      · rw [slotted.limit] at room
        change x.table.countFor gate < m at room
        omega
    · omega

/-- The request of `gate`, when it goes on, keeps its slot until its subscription is entered. -/
theorem slotted_proceeds (slotted : x.Slotted m) (fresh : x.Fresh (.proceeds gate)) :
    (x.step (.proceeds gate)).Slotted m := by
  cases left : x.stage gate with
  | none => rwa [step, left]
  | some stage =>
    rw [step_proceeds left]
    obtain ⟨id, pattern, label, initial, rfl⟩ | ⟨fewer, limit, slots⟩ :=
      Scheduler.next_cases slotted.wellFormed gate stage
    · -- The slot that was reserved is taken by the subscription in the table.
      have new : x.table.get? id = none := by simpa [Fresh, entering?, left] using fresh
      refine ⟨slotted.limit, slotted.wellFormed.insert new, fun other => ?_⟩
      calc _ + _
        _ = (x.table.countFor other + if gate = other then 1 else 0) +
            if gate = other then 0 else x.reserved other :=
          congrArg₂ _ (slotted.wellFormed.countFor_insert new)
            (reserved_of_update (x := x) (some (.entered _)) rfl other)
        _ = x.table.countFor other + x.reserved other := by
          split
          · rename_i same
            rw [← same, reserved, left]
            rfl
          · rfl
        _ ≤ m := slotted.slots other
    · refine slotted.of_fewer limit fewer fun other => ?_
      rw [reserved_of_update _ rfl]
      split
      · rename_i same
        rw [← same, reserved, left]
        exact slots
      · exact Nat.le_refl _

/-- Every step `next` stays within the limit. -/
theorem slotted_step (slotted : x.Slotted m) (fresh : x.Fresh next) : (x.step next).Slotted m := by
  cases next with
  | begins gate id request => exact slotted_begins slotted id request
  | proceeds gate => exact slotted_proceeds slotted fresh
  | amends n sparql authorization =>
    have same : (x.step (.amends n sparql authorization)).scheduler = x.scheduler ∧
        (x.step (.amends n sparql authorization)).stage = x.stage := by
      rw [step]
      split <;> exact ⟨rfl, rfl⟩
    refine slotted.of_fewer (by rw [same.1]) ?_ fun gate => ?_
    · rw [table, table, same.1]
      exact .refl slotted.wellFormed
    · rw [reserved, same.2]
      exact Nat.le_refl _
  | advances n =>
    cases left : x.round n with
    | none => rwa [step, left]
    | some round =>
      obtain ⟨fewer, limit⟩ := Scheduler.fewer_round slotted.wellFormed round
      rw [step_advances left]
      exact slotted.of_fewer limit fewer fun _ => Nat.le_refl _
  | unregisters gate =>
    exact slotted.of_fewer rfl (.removeGate slotted.wellFormed) fun _ => Nat.le_refl _
  | ends =>
    exact slotted.of_fewer rfl (.foldl_remove slotted.wellFormed _) fun _ => Nat.le_refl _
  | elapses world =>
    exact slotted.of_fewer rfl (.refl slotted.wellFormed) fun _ => Nat.le_refl _

/-- What runs lead to that start without subscriptions and without requests, with the limit `m`. -/
inductive Reached (m : Nat) : Traffic ω → Prop
  /-- Nothing has happened, and the world is `world`. -/
  | start (world : ω) : Reached m { scheduler := { limit := m, world } }
  /-- The step `next` has been taken. The names of new subscriptions are not in use. -/
  | step {x : Traffic ω} (next : Step ω) (reached : Reached m x) (fresh : x.Fresh next) :
    Reached m (x.step next)

theorem slotted_of_reached (reached : x.Reached m) : x.Slotted m := by
  induction reached with
  | start world =>
    refine ⟨rfl, .empty, fun gate => ?_⟩
    change (∅ : SubscriptionTable).countFor gate + 0 ≤ m
    rw [SubscriptionTable.countFor, SubscriptionTable.owned_empty]
    exact Nat.zero_le m
  | step next _ fresh ih => exact slotted_step ih fresh

/-- The steps that end one subscription. -/
inductive Ends (x : Traffic ω) : Step ω → SubscriptionId → Prop
  /-- The gate of `sub` asks for its end. -/
  | owner {id name : SubscriptionId} {sub : Subscription} {authorization : Option String}
    (free : x.stage sub.gate = none) (stands : x.table.get? id = some sub) :
    Ends x (.begins sub.gate name (.unsubscribe id authorization)) id
  /-- The gate of `sub` has not taken its first results. -/
  | missed {gate : GateId} {sub : Subscription} {delivery : Delivery}
    (left : x.stage gate = some (.missed sub delivery)) : Ends x (.proceeds gate) sub.id
  /-- An update of `gate` has found the gate of `sub` closed. -/
  | closed {gate : GateId} {sub : Subscription} {results : ResultSet}
    {due : List (Subscription × Outcome ResultSet)}
    (left : x.stage gate = some (.updates (.settling sub results .gateClosed due))) :
    Ends x (.proceeds gate) sub.id
  /-- The update of the number `n`, for which no gate has asked, has found the gate of `sub`
  closed. -/
  | amended {n : Nat} {sub : Subscription} {results : ResultSet}
    {due : List (Subscription × Outcome ResultSet)}
    (left : x.round n = some (.settling sub results .gateClosed due)) :
    Ends x (.advances n) sub.id

/-- All that these steps do is to remove the subscription `id`. -/
theorem Ends.scheduler (ends : x.Ends next id) :
    (x.step next).scheduler = { x.scheduler with table := (x.table.remove id).2 } := by
  cases ends with
  | @owner _ name sub authorization free stands =>
    -- The subscription belongs to the gate that asks, so that it is not let be.
    have removed : (x.table.removeOwned sub.gate id).2 = (x.table.remove id).2 := by
      rw [SubscriptionTable.removeOwned_eq, stands, Option.any_some, if_pos (decide_eq_true rfl)]
    rw [step_begins free, ← removed]
    rfl
  | missed left =>
    rw [step_proceeds left]
    rfl
  | closed left =>
    rw [step_proceeds left]
    rfl
  | amended left =>
    rw [step_advances left]
    rfl

/-- What holds of the limit `m` in `x` after a run, whatever comes next. -/
structure Exact (m : Nat) (x : Traffic ω) : Prop where
  /-- No gate has more than `m` subscriptions. -/
  within : ∀ gate, (x.table.ofGate gate).length ≤ m
  /-- A gate that may subscribe is refused a subscription because of the limit if and only if it has
  `m` of them. Otherwise its subscription is admitted. -/
  refused : ∀ {gate id pattern label authorization}, x.stage gate = none →
    Surroundings.authorize (Request.subscribe pattern label authorization).bearer?
      x.scheduler.world = .ok () →
    ((x.step (.begins gate id (.subscribe pattern label authorization))).stage gate =
      some (.fails (Scheduler.limitReached m)) ↔ (x.table.ofGate gate).length = m) ∧
    ((x.step (.begins gate id (.subscribe pattern label authorization))).stage gate =
      some (.admitted id pattern label) ↔ (x.table.ofGate gate).length ≠ m)
  /-- A subscription `sub` that its gate ends, or whose first results have not been taken, or whose
  gate an update has found closed, is gone at once. Its gate has one less, and may make another. -/
  freed : ∀ {next id sub}, x.Ends next id → x.table.get? id = some sub →
    (x.step next).table.get? id = none ∧
    ((x.step next).table.ofGate sub.gate).length + 1 = (x.table.ofGate sub.gate).length ∧
    ∀ authorization, Surroundings.authorize authorization (x.step next).scheduler.world = .ok () →
      (x.step next).scheduler.permit sub.gate authorization = .ok ()
  /-- A gate of which all subscriptions end has none. -/
  unregistered : ∀ gate, (x.step (.unregisters gate)).table.ofGate gate = []
  /-- When all subscriptions end, no gate has any. -/
  ended : ∀ gate, (x.step .ends).table.ofGate gate = []
  /-- A `request` that no other overlaps is carried out as a whole, in `k` stages. -/
  whole : ∀ {gate}, x.stage gate = none → ∀ id request,
    ∃ k, x.run (.begins gate id request :: List.replicate k (.proceeds gate)) =
      { x with scheduler := x.scheduler.process id gate request }

/-- However the requests of different gates overlap in `x`, the limit of `m` subscriptions is
exact. -/
theorem limit_exact (reached : x.Reached m) : x.Exact m := by
  have slotted := slotted_of_reached reached
  have wf := slotted.wellFormed
  -- What is still to be entered only adds to what is in the table.
  have within (gate : GateId) : x.table.countFor gate ≤ m :=
    Nat.le_trans (Nat.le_add_right ..) (slotted.slots gate)
  refine ⟨fun gate => ?_, fun {gate id pattern label authorization} free authorized => ?_,
    fun {next id sub} ends stands => ?_, fun gate => ?_, fun gate => ?_, run_process⟩
  · rw [← wf.countFor_eq]
    exact within gate
  · have stage : (x.step (.begins gate id (.subscribe pattern label authorization))).stage gate =
        some (if m ≤ x.table.countFor gate then .fails (Scheduler.limitReached m)
          else .admitted id pattern label) := by
      rw [step_begins free, ← slotted.limit, table, ← Scheduler.begin_subscribe authorized]
      exact Function.update_self ..
    rw [stage, ← wf.countFor_eq]
    by_cases full : x.table.countFor gate = m
    · simp [full, Stage.fails]
    · have room : ¬m ≤ x.table.countFor gate := by
        have before := within gate
        omega
      simp [full, room, Stage.fails]
  · have removed : (x.step next).table = (x.table.remove id).2 :=
      congrArg Scheduler.table ends.scheduler
    have less := wf.countFor_remove stands
    refine ⟨?_, ?_, fun authorization authorized => ?_⟩
    · rw [removed, SubscriptionTable.get?_remove, if_pos rfl]
    · rw [removed, ← wf.remove.countFor_eq, ← wf.countFor_eq, less]
    · have before := within sub.gate
      rw [Scheduler.permit_of_authorized authorized, ends.scheduler, if_neg]
      rw [slotted.limit]
      change ¬m ≤ (x.table.remove id).2.countFor sub.gate
      omega
  · have after := (slotted_step slotted trivial : (x.step (.unregisters gate)).Slotted m).wellFormed
    rw [← List.length_eq_zero_iff, ← after.countFor_eq]
    exact SubscriptionTable.countFor_removeGate
  · have after := (slotted_step slotted trivial : (x.step .ends).Slotted m).wellFormed
    rw [← List.length_eq_zero_iff, ← after.countFor_eq]
    refine after.countFor_eq_zero fun {id sub} stands => ?_
    have none : (x.step .ends).table.get? id = none := wf.get?_removeAll
    rw [none] at stands
    cases stands

/-- Two gates, each with room for one subscription, subscribe at the same time. The first one takes
its first results, and the second one is too busy. -/
def overlapping : Traffic Scheduler.Script :=
  let first : GateId := ⟨.ofNat 0⟩
  let second : GateId := ⟨.ofNat 1⟩
  let request : Request := .subscribe ⟨"", ∅⟩ none none
  run { scheduler := { limit := 1, world := ⟨[], [.delivered, .busy]⟩ } }
    [.begins first ⟨.ofNat 0⟩ request, .begins second ⟨.ofNat 1⟩ request, .proceeds second,
      .proceeds first, .proceeds second, .proceeds first, .proceeds first, .proceeds second]

/-- The subscription that the second gate has not taken. -/
def untaken : Subscription where
  id := ⟨.ofNat 1⟩
  gate := ⟨.ofNat 1⟩
  pattern := ⟨"", ∅⟩
  label := none
  last := default

/-- In `overlapping`, the first gate is refused another subscription. The second gate may make
another one as soon as `untaken` is gone. -/
theorem limit_exact_overlapping :
    overlapping.Reached 1 ∧ overlapping.Exact 1 ∧
      (∀ id, (overlapping.step (.begins ⟨.ofNat 0⟩ id (.subscribe ⟨"", ∅⟩ none none))).stage
        ⟨.ofNat 0⟩ = some (.fails (Scheduler.limitReached 1))) ∧
      overlapping.table.get? untaken.id = some untaken ∧
      (overlapping.step (.proceeds untaken.gate)).table.get? untaken.id = none ∧
      (overlapping.step (.proceeds untaken.gate)).scheduler.permit untaken.gate none = .ok () := by
  have reached : overlapping.Reached 1 := by
    simp only [overlapping, run, List.foldl_cons, List.foldl_nil]
    refine .step _ (.step _ (.step _ (.step _ (.step _ (.step _ (.step _ (.step _ (.start _)
      ?_) ?_) ?_) ?_) ?_) ?_) ?_) ?_ <;> decide +kernel
  have exact' := limit_exact reached
  have free : overlapping.stage ⟨.ofNat 0⟩ = none := rfl
  have full : (overlapping.table.ofGate ⟨.ofNat 0⟩).length = 1 := by decide +kernel
  have left : overlapping.stage untaken.gate = some (.missed untaken .busy) := rfl
  have stands : overlapping.table.get? untaken.id = some untaken := by decide +kernel
  obtain ⟨gone, -, room⟩ := exact'.freed (.missed left) stands
  exact ⟨reached, exact', fun id => (exact'.refused free rfl).1.2 full, stands, gone, room none rfl⟩

end Traffic

end GraphBroker
