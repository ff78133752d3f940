import GraphBroker.Proofs.Broker.Service
import GraphBroker.Proofs.Subscription.Counting

/-!
# What becomes of the other gates

What is done for one gate leaves the other gates, with their queues and their subscriptions, as
they were. An update tells other gates what has changed in their own subscriptions, and ends only
subscriptions of gates that are not open. Whatever is done, every subscription belongs to a gate
that is known.

## Main definitions

* `SubscriptionTable.SameFor`: the subscriptions of one gate are the same.
* `Broker.Spared`: a change leaves a gate as it was.
* `Broker.Housed`: every subscription belongs to a gate that is known.
* `Broker.TellsOthers`: what an update does to the other gates.

## Main statements

* `spared_openGate` and its like: each operation spares the other gates.
* `housed_openGate` and its like: each operation keeps subscriptions on known gates.
* `tellsOthers_carry`, `tellsOthers_amend`: updates.
* `Gone.openGate` and its like: a gate that has been closed stays so.
-/

namespace GraphBroker

open Std

/-! ### The subscriptions of one gate -/

namespace SubscriptionTable

variable {t t' : SubscriptionTable} {name : SubscriptionId} {gate owner : GateId}
  {sub : Subscription}

/-- The subscriptions of `owner` are the same in `t` and `t'`. -/
def SameFor (t t' : SubscriptionTable) (owner : GateId) : Prop :=
  ∀ name sub, sub.gate = owner → (t'.get? name = some sub ↔ t.get? name = some sub)

theorem SameFor.refl : SameFor t t owner := fun _ _ _ => .rfl

/-- Where its subscriptions are the same, the names of `owner` are the same. -/
theorem SameFor.owned (same : SameFor t t' owner) (wf : t.WellFormed) (wf' : t'.WellFormed) :
    t'.owned owner = t.owned owner := by
  refine ExtTreeSet.ext_mem fun name => ?_
  rw [wf.mem_owned, wf'.mem_owned]
  exact exists_congr fun sub => and_congr_left fun owns => same name sub owns

theorem sameFor_insert (fresh : t.get? sub.id = none) (different : sub.gate ≠ owner) :
    SameFor t (t.insert sub) owner := by
  intro name other owns
  rw [get?_insert]
  split
  · rename_i same
    refine iff_of_false ?_ (by rw [← same, fresh]; exact nofun)
    rintro ⟨⟩
    exact different owns
  · rfl

theorem sameFor_removeOwned (different : gate ≠ owner) :
    SameFor t (t.removeOwned gate name).2 owner := by
  intro other sub owns
  rw [get?_removeOwned]
  split
  · rename_i ends
    obtain ⟨rfl, owned⟩ := ends
    refine iff_of_false nofun fun stands => ?_
    simp [stands, owns, Ne.symm different] at owned
  · rfl

theorem sameFor_removeGate (wf : t.WellFormed) (different : gate ≠ owner) :
    SameFor t (t.removeGate gate).2 owner := by
  intro name sub owns
  rw [get?_removeGate]
  split
  · rename_i listed
    obtain ⟨other, stands, ends⟩ := wf.mem_owned.1 listed
    refine iff_of_false nofun fun same => ?_
    rw [stands] at same
    cases same
    exact different (ends.symm.trans owns)
  · rfl

end SubscriptionTable

/-- The request is an update. -/
def Request.IsUpdate : Request → Prop
  | update .. => True
  | _ => False

namespace Scheduler

variable {ω : Type} [Surroundings ω] {s : Scheduler (Recorded ω)} {t' : SubscriptionTable}
  {name : SubscriptionId} {gate owner : GateId} {request : Request} {log : List Handed}

/-- Carrying out `request` keeps the table well formed. -/
theorem Carried.wellFormed (carried : s.Carried name gate request t' log)
    (wf : s.table.WellFormed) (fresh : s.table.get? name = none) : t'.WellFormed := by
  cases carried with
  | failed | results => exact wf
  | undelivered => rwa [wf.remove_insert fresh]
  | subscribed => exact wf.insert fresh
  | unsubscribed => exact wf.removeOwned
  | updated applied notifies rounded => exact (rounded wf).wellFormed

/-- A subscription `sub'` that is there afterwards was there before, or its gate has just taken its
first results. -/
theorem Carried.owned (carried : s.Carried name gate request t' log) (wf : s.table.WellFormed)
    (fresh : s.table.get? name = none) {other : SubscriptionId} {sub' : Subscription}
    (stands : t'.get? other = some sub') :
    (∃ sub, s.table.get? other = some sub ∧ sub'.gate = sub.gate) ∨
      ∃ handed ∈ log, handed.gate = sub'.gate ∧ handed.delivery = .delivered := by
  cases carried with
  | failed | results => exact .inl ⟨sub', stands, rfl⟩
  | undelivered =>
    rw [wf.remove_insert fresh] at stands
    exact .inl ⟨sub', stands, rfl⟩
  | subscribed found made =>
    rw [SubscriptionTable.get?_insert] at stands
    split at stands
    · cases stands
      exact .inr ⟨_, List.mem_singleton_self _, rfl, rfl⟩
    · exact .inl ⟨sub', stands, rfl⟩
  | unsubscribed delivery =>
    rw [SubscriptionTable.get?_removeOwned] at stands
    split at stands
    · cases stands
    · exact .inl ⟨sub', stands, rfl⟩
  | updated applied notifies rounded delivery =>
    obtain ⟨sub, before, same⟩ := (rounded wf).kept stands
    exact .inl ⟨sub, before, by rw [same]⟩

/-- A `request` that is no update concerns `gate`, which has asked, and no other. -/
theorem Carried.apart (carried : s.Carried name gate request t' log) (kind : ¬request.IsUpdate)
    (wf : s.table.WellFormed) (fresh : s.table.get? name = none) :
    (∀ handed ∈ log, handed.gate = gate) ∧
      ∀ owner, gate ≠ owner → s.table.SameFor t' owner := by
  cases carried with
  | failed fails delivery => exact ⟨by simp, fun _ _ => SubscriptionTable.SameFor.refl⟩
  | undelivered found fails missed last =>
    rw [wf.remove_insert fresh]
    exact ⟨by simp, fun _ _ => SubscriptionTable.SameFor.refl⟩
  | subscribed found made =>
    exact ⟨by simp, fun _ different => SubscriptionTable.sameFor_insert fresh different⟩
  | unsubscribed delivery =>
    exact ⟨by simp, fun _ different => SubscriptionTable.sameFor_removeOwned different⟩
  | updated applied notifies rounded delivery => exact absurd trivial kind
  | results found delivery => exact ⟨by simp, fun _ _ => SubscriptionTable.SameFor.refl⟩

/-- A `request` to apply an update makes a round, if only an empty one, and is replied to. -/
theorem Carried.rounded (carried : s.Carried name gate request t' log) (kind : request.IsUpdate)
    (wf : s.table.WellFormed) :
    ∃ offers reply, log = offers ++ [reply] ∧ reply.gate = gate ∧ Rounded s.table t' offers := by
  cases carried with
  | failed fails delivery => exact ⟨[], _, rfl, rfl, .refl wf⟩
  | updated applied notifies rounded delivery => exact ⟨_, _, rfl, rfl, rounded wf⟩
  | undelivered | subscribed | unsubscribed | results => exact kind.elim

/-- What `owner` takes in a round are notifications of its own subscriptions. -/
theorem Rounded.notifications {t : SubscriptionTable} {offers : List Handed}
    (rounded : Rounded t t' offers) {message : Message}
    (taken : message ∈ Handed.taken (Handed.toGate offers owner)) :
    ∃ n sub, message = .notification n ∧ t.get? n.subscription = some sub ∧ sub.gate = owner := by
  obtain ⟨handed, listed, rfl⟩ := List.mem_map.1 taken
  obtain ⟨listed, asked⟩ := mem_toGate.1 (List.mem_filter.1 listed).1
  obtain ⟨sub, n, stands, owns, message, named⟩ := rounded.offered handed listed
  exact ⟨n, sub, message, named ▸ stands, owns.symm.trans asked⟩

end Scheduler

/-! ### Gates that a change spares -/

namespace Broker

variable {ε : Type} {b b' : Broker ε} {id other : GateId} {g : Gate}

/-- The change from `b` to `b'` leaves the gate `id` with its queues and its subscriptions as it
was. -/
structure Spared (b b' : Broker ε) (id : GateId) : Prop where
  /-- The gate is the same, if it is known. -/
  gate : b'.gate? id = b.gate? id
  /-- The gate is the same, if it has been closed. -/
  departed : b'.departed[id]? = b.departed[id]?
  /-- The subscriptions are the same. -/
  subscriptions : b.scheduler.table.SameFor b'.scheduler.table id

theorem Spared.refl : b.Spared b id :=
  ⟨rfl, rfl, SubscriptionTable.SameFor.refl⟩

theorem AtGate.spared (at' : b.AtGate b' id g) (different : id ≠ other) : b.Spared b' other where
  gate := by rw [at'.gates, if_neg different]
  departed := by rw [at'.departed]
  subscriptions := by
    rw [at'.table]
    exact .refl

theorem spared_openGate (path : String) (different : ⟨b.supply.uuid⟩ ≠ other) :
    b.Spared (b.openGate path).2 other where
  gate := by rw [gate?_openGate, if_neg different]
  departed := rfl
  subscriptions := .refl

theorem spared_receive (frame : Frame) (different : id ≠ other) :
    b.Spared (b.receive id frame) other := by
  cases known : b.gate? id with
  | none =>
    rw [(receive_of_unknown known frame).1]
    exact .refl
  | some g => exact (atGate_receive known frame).spared different

theorem spared_replaceGate (g : Gate) (different : id ≠ other) :
    b.Spared (b.replaceGate id g) other := by
  unfold replaceGate
  split
  · exact (atGate_putGate b id g).spared different
  · refine ⟨rfl, ?_, .refl⟩
    simp only [ExtTreeMap.getElem?_insert, LawfulEqCmp.compare_eq_iff_eq, if_neg different]

theorem spared_pick {request : Request} (picked : b.pick? id = some (request, b'))
    (different : id ≠ other) : b.Spared b' other := by
  obtain ⟨g, later, -, -, rfl⟩ := pick?_eq_some picked
  exact spared_replaceGate _ different

theorem spared_carry [QueryEngine ε] (wf : b.scheduler.table.WellFormed) (new : b.NewName)
    {request : Request} (kind : ¬request.IsUpdate) (different : id ≠ other) :
    b.Spared (b.carry id request) other := by
  obtain ⟨own, same⟩ := (b.carried_carry id request).apart kind wf new
  refine ⟨(handing_carry b id request).gate?_eq ?_, rfl, same other different⟩
  refine List.eq_nil_iff_forall_not_mem.2 fun handed listed => different ?_
  obtain ⟨listed, asked⟩ := mem_toGate.1 listed
  exact (own handed listed).symm.trans asked

theorem table_closeGate (known : b.gate? id = some g) :
    (b.closeGate id).2.scheduler.table = (b.scheduler.table.removeGate id).2 := by
  rw [closeGate, known]
  rfl

theorem spared_closeGate (wf : b.scheduler.table.WellFormed) (different : id ≠ other) :
    b.Spared (b.closeGate id).2 other := by
  cases known : b.gate? id with
  | none =>
    rw [closeGate_of_unknown known]
    exact .refl
  | some g =>
    refine ⟨by rw [gate?_closeGate, if_neg different],
      by rw [departed_closeGate known, if_neg different], ?_⟩
    rw [table_closeGate known]
    exact SubscriptionTable.sameFor_removeGate wf different

theorem spared_dropWriter (different : id ≠ other) : b.Spared (b.dropWriter id) other := by
  unfold dropWriter
  split
  · exact (atGate_putGate b id _).spared different
  · exact .refl

theorem spared_take (different : id ≠ other) : b.Spared (b.take id).2 other := by
  unfold take
  split
  · exact (atGate_putGate b id _).spared different
  · exact .refl

/-! ### Subscriptions on known gates -/

/-- Every subscription of `b` belongs to a gate that is known. -/
structure Housed (b : Broker ε) : Prop where
  /-- The table is well formed. -/
  wellFormed : b.scheduler.table.WellFormed
  /-- The gate of a subscription `sub` is known. -/
  known : ∀ {name sub}, b.scheduler.table.get? name = some sub → (b.gate? sub.gate).isSome

/-- From `b` to `b'` gates are only added, and subscriptions stay as they are. -/
theorem Housed.of_table_eq (housed : b.Housed)
    (table : b'.scheduler.table = b.scheduler.table)
    (gates : ∀ other, (b.gate? other).isSome → (b'.gate? other).isSome) : b'.Housed where
  wellFormed := by
    rw [table]
    exact housed.wellFormed
  known stands := by
    rw [table] at stands
    exact gates _ (housed.known stands)

theorem AtGate.housed (at' : b.AtGate b' id g) (housed : b.Housed) : b'.Housed := by
  refine housed.of_table_eq at'.table fun other known => ?_
  rw [at'.gates]
  split
  · rfl
  · exact known

theorem housed_openGate (housed : b.Housed) (path : String) : (b.openGate path).2.Housed := by
  refine housed.of_table_eq rfl fun other known => ?_
  rw [gate?_openGate]
  split
  · rfl
  · exact known

theorem housed_receive (housed : b.Housed) (frame : Frame) : (b.receive id frame).Housed := by
  cases known : b.gate? id with
  | none => rwa [(receive_of_unknown known frame).1]
  | some g => exact (atGate_receive known frame).housed housed

theorem housed_pick (housed : b.Housed) {request : Request}
    (picked : b.pick? id = some (request, b')) : b'.Housed := by
  obtain ⟨g, later, -, -, rfl⟩ := pick?_eq_some picked
  cases known : b.gate? id with
  | none =>
    rw [replaceGate_of_unknown known]
    exact housed.of_table_eq rfl fun _ known => known
  | some h =>
    rw [replaceGate_of_known known]
    exact (atGate_putGate b id _).housed housed

theorem housed_carry [QueryEngine ε] (housed : b.Housed) (new : b.NewName) (id : GateId)
    (request : Request) : (b.carry id request).Housed where
  wellFormed := (b.carried_carry id request).wellFormed housed.wellFormed new
  known {name sub} stands := by
    have handing := handing_carry b id request
    refine (handing.isSome_gate? _).trans ?_
    obtain ⟨before, stood, same⟩ | ⟨handed, listed, owner, taken⟩ :=
      (b.carried_carry id request).owned housed.wellFormed new stands
    · rw [same]
      exact housed.known stood
    · -- A gate that is not known would not have taken the first results.
      refine Option.isSome_iff_ne_none.2 fun unknown => ?_
      have answer := (handing.unknown unknown).2 handed listed owner
      rw [taken] at answer
      cases answer

theorem housed_amend [QueryEngine ε] (housed : b.Housed) (sparql : String)
    (authorization : Option String) : (b.amend sparql authorization).Housed where
  wellFormed := (rounded_amend housed.wellFormed sparql authorization).wellFormed
  known {name sub'} stands := by
    obtain ⟨sub, before, same⟩ :=
      (rounded_amend housed.wellFormed sparql authorization).kept stands
    have owner : sub'.gate = sub.gate := by rw [same]
    rw [owner]
    exact ((handing_amend b sparql authorization).isSome_gate? _).trans (housed.known before)

theorem housed_closeGate (housed : b.Housed) (id : GateId) : (b.closeGate id).2.Housed := by
  cases known : b.gate? id with
  | none => rwa [closeGate_of_unknown known]
  | some g =>
    refine ⟨by rw [table_closeGate known]; exact housed.wellFormed.removeGate,
      fun {name sub} stands => ?_⟩
    rw [table_closeGate known, SubscriptionTable.get?_removeGate] at stands
    split at stands
    · cases stands
    · rename_i unlisted
      have different : id ≠ sub.gate := fun same =>
        unlisted (housed.wellFormed.mem_owned.2 ⟨sub, stands, same.symm⟩)
      rw [gate?_closeGate, if_neg different]
      exact housed.known stands

theorem housed_shutdown [QueryEngine ε] (housed : b.Housed) : b.shutdown.Housed := by
  have closed : { b with signalled := true }.closeAll.Housed := by
    have start : { b with signalled := true }.Housed := ⟨housed.wellFormed, housed.known⟩
    rw [closeAll]
    generalize { b with signalled := true }.gateIds = ids
    generalize { b with signalled := true } = b at start
    induction ids generalizing b with
    | nil => exact start
    | cons first rest ih => exact ih _ (housed_closeGate start first)
  have table : b.shutdown.scheduler.table =
      ({ b with signalled := true }.closeAll).scheduler.shutdown.table := rfl
  generalize { b with signalled := true }.closeAll = c at closed table
  rw [Scheduler.table_shutdown] at table
  refine ⟨by rw [table]; exact closed.wellFormed.foldl_remove _, fun {name sub} stands => ?_⟩
  rw [table, closed.wellFormed.get?_removeAll] at stands
  cases stands

theorem housed_dropWriter (housed : b.Housed) : (b.dropWriter id).Housed := by
  unfold dropWriter
  split
  · exact (atGate_putGate b id _).housed housed
  · exact housed

theorem housed_take (housed : b.Housed) : (b.take id).2.Housed := by
  unfold take
  split
  · exact (atGate_putGate b id _).housed housed
  · exact housed

/-! ### Rounds -/

/-- What a round does to the gates and to their subscriptions, if messages to the gate `actor?` may
come with it. -/
structure TellsOthers (b b' : Broker ε) (actor? : Option GateId) : Prop where
  /-- Every `other` gate is told by `notes` of its own subscriptions, and of nothing else. -/
  told : ∀ {other g}, b.gate? other = some g → actor? ≠ some other →
    ∃ g' notes, b'.gate? other = some g' ∧ g'.outbound = g.outbound ++ notes ∧
      ∀ message ∈ notes, ∃ n sub, message = .notification n ∧
        b.scheduler.table.get? n.subscription = some sub ∧ sub.gate = other
  /-- A subscription `sub` ends only if its gate is not open. -/
  ended : ∀ {name sub}, b.scheduler.table.get? name = some sub →
    b'.scheduler.table.get? name = none → ∀ {g'}, b'.gate? sub.gate = some g' → g'.isOpen = false
  /-- No subscription is made, and none changes but in `last` and `sequence`, which is what has been
  told. -/
  kept : ∀ {name sub'}, b'.scheduler.table.get? name = some sub' →
    ∃ sub, b.scheduler.table.get? name = some sub ∧
      sub' = { sub with last := sub'.last, sequence := sub'.sequence }

theorem tellsOthers_of_rounded {offers more : List Handed} {actor? : Option GateId}
    (handing : b.world.Handing (offers ++ more) b'.world)
    (rounded : Scheduler.Rounded b.scheduler.table b'.scheduler.table offers)
    (own : ∀ handed ∈ more, actor? = some handed.gate) : b.TellsOthers b' actor? where
  told {other g} known apart := by
    obtain ⟨g', after, told⟩ := handing.told known
    -- What comes with the round goes to the gate that has asked for it.
    have none : Handed.toGate more other = [] := by
      refine List.eq_nil_iff_forall_not_mem.2 fun handed listed => apart ?_
      obtain ⟨listed, asked⟩ := mem_toGate.1 listed
      rw [own handed listed, asked]
    rw [toGate_append, none, List.append_nil] at told
    exact ⟨g', _, after, told.outbound, fun message taken => rounded.notifications taken⟩
  ended {name sub} stands gone {g'} after := by
    obtain ⟨handed, listed, asked, closed⟩ := rounded.lost stands gone
    refine Bool.eq_false_iff.2 fun opened => ?_
    cases before : b.gate? sub.gate with
    | none =>
      -- A gate that was not known has not become known in the round.
      have still := (handing.unknown before).1
      rw [show b'.world.gate? sub.gate = some g' from after] at still
      cases still
    | some g =>
      obtain ⟨same, found, told⟩ := handing.told before
      obtain rfl : same = g' := Option.some.inj (found.symm.trans after)
      exact (told.opened opened).2 handed
        (mem_toGate.2 ⟨List.mem_append_left _ listed, asked⟩) closed
  kept := rounded.kept

theorem tellsOthers_carry [QueryEngine ε] (housed : b.Housed) {request : Request}
    (kind : request.IsUpdate) : b.TellsOthers (b.carry id request) (some id) := by
  obtain ⟨offers, reply, log, own, rounded⟩ :=
    (b.carried_carry id request).rounded kind housed.wellFormed
  have handing := handing_carry b id request
  rw [log] at handing
  refine tellsOthers_of_rounded handing rounded fun handed listed => ?_
  rw [List.mem_singleton.1 listed, own]

theorem tellsOthers_amend [QueryEngine ε] (housed : b.Housed) (sparql : String)
    (authorization : Option String) :
    b.TellsOthers (b.amend sparql authorization) none := by
  have handing := handing_amend b sparql authorization
  rw [← List.append_nil (b.amendLog sparql authorization)] at handing
  exact tellsOthers_of_rounded handing
    (rounded_amend housed.wellFormed sparql authorization) nofun

/-- A subscription of a gate `id` that is not known or not open is not made. -/
theorem table_carry_subscribe [QueryEngine ε] (housed : b.Housed) (new : b.NewName)
    (shut : ∀ g, b.gate? id = some g → g.isOpen = false) (pattern : Sparql.Pattern)
    (label authorization : Option String) :
    (b.carry id (.subscribe pattern label authorization)).scheduler.table = b.scheduler.table := by
  have handing := handing_carry b id (.subscribe pattern label authorization)
  have carried := b.carried_carry id (.subscribe pattern label authorization)
  have closed : ∀ handed ∈ b.carryLog id (.subscribe pattern label authorization),
      handed.gate = id → handed.delivery = .gateClosed := by
    intro handed listed asked
    cases known : b.gate? id with
    | none => exact (handing.unknown known).2 handed listed asked
    | some g =>
      obtain ⟨g', -, told⟩ := handing.told known
      exact (told.shut (shut g known)).2 handed (mem_toGate.2 ⟨listed, asked⟩)
  generalize b.carryLog id (.subscribe pattern label authorization) = log at carried closed
  generalize (b.carry id (.subscribe pattern label authorization)).scheduler.table = t' at carried ⊢
  cases carried with
  | failed => rfl
  | undelivered => exact housed.wellFormed.remove_insert new
  | subscribed found made =>
    have answer := closed _ (List.mem_singleton_self _) rfl
    cases answer

/-! ### Gates that have been closed -/

theorem Gone.shutdown [QueryEngine ε] (gone : b.Gone id g) : b.shutdown.Gone id g :=
  have start : { b with signalled := true }.Gone id g := ⟨gone.unknown, gone.kept⟩
  have closed := start.foldl_closeGate (gateIds { b with signalled := true })
  ⟨closed.unknown, closed.kept⟩

theorem Gone.of_spared (gone : b.Gone id g) (spared : b.Spared b' id) : b'.Gone id g :=
  ⟨spared.gate.trans gone.unknown, spared.departed.trans gone.kept⟩

theorem Gone.openGate (gone : b.Gone id g) (new : b.anyGate? ⟨b.supply.uuid⟩ = none)
    (path : String) : (b.openGate path).2.Gone id g := by
  refine gone.of_spared (spared_openGate path ?_)
  rintro rfl
  rw [anyGate?_of_unknown gone.unknown, gone.kept] at new
  cases new

theorem Gone.receive (gone : b.Gone id g) (frame : Frame) : (b.receive other frame).Gone id g := by
  by_cases same : other = id
  · subst same
    rwa [(receive_of_unknown gone.unknown frame).1]
  · exact gone.of_spared (spared_receive frame same)

/-- The worker of a gate that is `Gone` may take requests, but the messages stay. -/
theorem Gone.pick {request : Request} (gone : b.Gone id g)
    (picked : b.pick? other = some (request, b')) :
    ∃ g', b'.Gone id g' ∧ g'.outbound = g.outbound := by
  by_cases same : other = id
  · subst same
    obtain ⟨h, later, found, -, rfl⟩ := pick?_eq_some picked
    rw [anyGate?_of_unknown gone.unknown, gone.kept] at found
    cases found
    rw [replaceGate_of_unknown gone.unknown]
    exact ⟨{ g with requests := later }, ⟨gone.unknown, ExtTreeMap.getElem?_insert_self⟩, rfl⟩
  · exact ⟨g, gone.of_spared (spared_pick picked same), rfl⟩

theorem Gone.carry [QueryEngine ε] (gone : b.Gone id g) (request : Request) :
    (b.carry other request).Gone id g :=
  ⟨((handing_carry b other request).unknown gone.unknown).1, gone.kept⟩

theorem Gone.amend [QueryEngine ε] (gone : b.Gone id g) (sparql : String)
    (authorization : Option String) : (b.amend sparql authorization).Gone id g :=
  ⟨((handing_amend b sparql authorization).unknown gone.unknown).1, gone.kept⟩

theorem Gone.dropWriter (gone : b.Gone id g) : (b.dropWriter other).Gone id g := by
  by_cases same : other = id
  · subst same
    rwa [Broker.dropWriter, gone.unknown]
  · exact gone.of_spared (spared_dropWriter same)

theorem Gone.take (gone : b.Gone id g) : (b.take other).2.Gone id g := by
  by_cases same : other = id
  · subst same
    rwa [Broker.take, gone.unknown]
  · exact gone.of_spared (spared_take same)

end Broker

end GraphBroker
