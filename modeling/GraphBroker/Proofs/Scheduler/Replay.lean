import GraphBroker.Proofs.Scheduler.Leaving

/-!
# A client can replay what it has taken

What a gate has taken about one of its subscriptions begins with the first results and
goes on with changes numbered from 1. Applied in order they give the results that the
table keeps. This holds along every run, whatever the engine answers, in whatever order
subscriptions are gone through, and whether gates take what they are handed or not.

## Main definitions

* `taken`: the messages about a subscription that a gate has taken.
* `transcript`, `replay`: a first reply with numbered changes, and their joint effect.
* `Followed`: what a gate has taken about a subscription leads to what the table keeps.

## Main statements

* `followed_of_reached`: every subscription in the table is followed.
* `offers_of_update`: what an update offers to whom, and what becomes of each subscription.
* `departed_perform_iff`: which calls make a subscription leave.
* `Departed.of_changes`: of a subscription that has left, nothing more is told.
* `client_replay`: all of this together.
-/

namespace GraphBroker.Scheduler

open Relation

/-- The messages about the subscription `id` that `gate` has taken, the oldest first. -/
def taken (log : List Handed) (gate : GateId) (id : SubscriptionId) : List Message :=
  (log.filter fun handed => handed.gate = gate ∧ handed.delivery = .delivered ∧
    handed.message.subject? = some id).map (·.message)

/-- A first reply with the results `initial`, and the `changes` numbered from 1. -/
def transcript (id : SubscriptionId) (label : Option String) (initial : ResultSet)
    (changes : List ResultDiff) : List Message :=
  .subscribed id label initial ::
    changes.mapIdx fun i change => .notification ⟨id, i + 1, change⟩

/-- The results `initial` after `changes`. -/
def replay (initial : ResultSet) (changes : List ResultDiff) : ResultSet :=
  changes.foldl ResultSet.apply initial

/-- What its gate has taken about `sub` leads to what is kept of it. -/
def Followed (log : List Handed) (sub : Subscription) : Prop :=
  ∃ initial changes,
    taken log sub.gate sub.id = transcript sub.id sub.label initial changes ∧
    changes.length = sub.sequence ∧ (replay initial changes).Agrees sub.last

/-- The `gate` has taken the first reply to the subscription `id`. -/
def Owns (log : List Handed) (gate : GateId) (id : SubscriptionId) : Prop :=
  ∃ label initial, ⟨gate, .subscribed id label initial, .delivered⟩ ∈ log

/-- The subscription `id` has been made or refused, and is not in the table. -/
def Departed (l : Ledger) (id : SubscriptionId) : Prop :=
  l.table.get? id = none ∧ ∃ handed ∈ l.log, handed.message.subject? = some id

variable {ω : Type} [Surroundings ω] {log : List Handed} {handed : Handed} {gate : GateId}
  {id : SubscriptionId} {sub : Subscription} {l l' : Ledger}

/-! ### Changes applied in order -/

theorem transcript_concat {label : Option String} {initial : ResultSet}
    {changes : List ResultDiff} {change : ResultDiff} :
    transcript id label initial (changes ++ [change]) =
      transcript id label initial changes ++
        [.notification ⟨id, changes.length + 1, change⟩] := by
  rw [transcript, List.mapIdx_concat, transcript, List.cons_append]

/-! ### What a gate has taken grows only by what it takes -/

theorem taken_concat : taken (log ++ [handed]) gate id = taken log gate id ++
    if handed.gate = gate ∧ handed.delivery = .delivered ∧ handed.message.subject? = some id
    then [handed.message] else [] := by
  simp only [taken, List.filter_append, List.map_append, List.filter_cons, List.filter_nil,
    decide_eq_true_eq]
  split <;> rfl

theorem taken_concat_of_not_delivered (missed : handed.delivery ≠ .delivered) :
    taken (log ++ [handed]) gate id = taken log gate id := by
  rw [taken_concat, if_neg fun matched => missed matched.2.1, List.append_nil]

theorem taken_concat_of_ne (other : handed.message.subject? ≠ some id) :
    taken (log ++ [handed]) gate id = taken log gate id := by
  rw [taken_concat, if_neg fun matched => other matched.2.2, List.append_nil]

theorem taken_eq_nil (unseen : ∀ handed ∈ log, handed.message.subject? ≠ some id) :
    taken log gate id = [] := by
  rw [taken, List.filter_eq_nil_iff.2 fun handed listed => ?_, List.map_nil]
  simp [unseen handed listed]

@[simp] theorem subject?_greeting : sub.greeting.subject? = some sub.id := rfl

@[simp] theorem subject?_offer {results : ResultSet} :
    (sub.offer results).subject? = some sub.id := rfl

namespace Followed

theorem of_taken_eq {log' : List Handed} (before : Followed log sub)
    (same : taken log' sub.gate sub.id = taken log sub.gate sub.id) : Followed log' sub := by
  obtain ⟨initial, changes, told, rest⟩ := before
  exact ⟨initial, changes, same.trans told, rest⟩

theorem greeted (unseen : ∀ handed ∈ log, handed.message.subject? ≠ some sub.id)
    (unnumbered : sub.sequence = 0) :
    Followed (log ++ [⟨sub.gate, sub.greeting, .delivered⟩]) sub := by
  refine ⟨sub.last, [], ?_, unnumbered.symm, rfl⟩
  rw [taken_concat, taken_eq_nil unseen, if_pos ⟨rfl, rfl, rfl⟩]
  rfl

theorem told {results : ResultSet} (before : Followed log sub) :
    Followed (log ++ [⟨sub.gate, sub.offer results, .delivered⟩]) (sub.told results) := by
  obtain ⟨initial, changes, same, count, agrees⟩ := before
  refine ⟨initial, changes ++ [sub.last.diff results], ?_, ?_, ?_⟩
  · change taken _ sub.gate sub.id = transcript sub.id sub.label initial _
    rw [transcript_concat, ← same, taken_concat, if_pos ⟨rfl, rfl, rfl⟩, count]
    rfl
  · rw [List.length_append, count]
    rfl
  · rw [replay, List.foldl_append]
    exact ResultSet.agrees_apply_diff agrees

end Followed

/-! ### What a change leaves in the table -/

/-- Where a subscription comes from that is in the table of `l'`, after a change of `l`. -/
inductive Origin (ω : Type) [Surroundings ω] (l l' : Ledger) : Subscription → Prop
  /-- It was there, and its gate has taken nothing more about it. -/
  | kept {sub : Subscription} (stood : l.table.get? sub.id = some sub)
    (quiet : taken l'.log sub.gate sub.id = taken l.log sub.gate sub.id) : Origin ω l l' sub
  /-- It has just been made, and its gate has taken the first reply. -/
  | made {sub : Subscription} (unnumbered : sub.sequence = 0) (unseen : l.Unseen sub.id)
    (answerable : Answerable ω sub.pattern)
    (log : l'.log = l.log ++ [⟨sub.gate, sub.greeting, .delivered⟩]) : Origin ω l l' sub
  /-- It was there with other results, and its gate has taken the change. -/
  | grown {sub : Subscription} {results : ResultSet} (stood : l.table.get? sub.id = some sub)
    (log : l'.log = l.log ++ [⟨sub.gate, sub.offer results, .delivered⟩]) :
    Origin ω l l' (sub.told results)

/-- Every subscription in the table of `l'` is one that stood in that of `l` or has just been
made. -/
theorem Change.origin (change : Change ω l l') (stands : l'.table.get? sub.id = some sub) :
    Origin ω l l' sub := by
  cases change with
  | answered handed plain apart =>
    refine .kept stands ?_
    rw [taken_concat, if_neg fun matched => ?_, List.append_nil]
    exact apart sub stands matched.1.symm matched.2.2
  | refused other delivery missed unseen =>
    exact .kept stands (taken_concat_of_not_delivered missed)
  | entered other unnumbered unseen answerable =>
    rw [SubscriptionTable.get?_insert] at stands
    split at stands
    · cases stands
      exact .made unnumbered unseen answerable rfl
    · rename_i different
      exact .kept stands (taken_concat_of_ne (by simpa using different))
  | ended table wellFormed fewer =>
    rcases fewer sub.id with same | gone
    · exact .kept (same.symm.trans stands) rfl
    · rw [gone] at stands
      cases stands
  | told other results delivery standing differ =>
    rw [SubscriptionTable.get?_settle standing] at stands
    split at stands
    · -- The subscription that the change is about: what is kept of it depends on the answer.
      cases delivery with
      | delivered =>
        cases stands
        exact .grown standing rfl
      | gateClosed => cases stands
      | busy =>
        cases stands
        exact .kept standing (taken_concat_of_not_delivered nofun)
    · rename_i different
      exact .kept stands (taken_concat_of_ne (by simpa using different))

/-- A change adds to the record at most one message, and this carries results only of a subscription
of the table or of one that is made. -/
theorem Change.log_eq (change : Change ω l l') : ∃ more, l'.log = l.log ++ more ∧
    ∀ handed ∈ more, ∀ id, handed.message.carries? = some id →
      (∃ sub, l.table.get? id = some sub) ∨ l.Unseen id := by
  cases change with
  | answered handed plain apart =>
    refine ⟨[handed], rfl, fun other listed id carried => ?_⟩
    rw [List.mem_singleton.1 listed, plain] at carried
    cases carried
  | refused sub delivery missed unseen | entered sub unnumbered unseen answerable =>
    refine ⟨_, rfl, fun other listed id carried => ?_⟩
    cases List.mem_singleton.1 listed
    cases carried
    exact .inr unseen
  | ended table wellFormed fewer => exact ⟨[], by simp, nofun⟩
  | told sub results delivery standing differ =>
    refine ⟨_, rfl, fun other listed id carried => ?_⟩
    cases List.mem_singleton.1 listed
    cases carried
    exact .inl ⟨sub, standing⟩

/-- Each change keeps all subscriptions `Followed`. -/
theorem Change.followed (change : Change ω l l')
    (before : ∀ sub, l.table.get? sub.id = some sub → Followed l.log sub) :
    ∀ sub, l'.table.get? sub.id = some sub → Followed l'.log sub := by
  intro sub stands
  cases change.origin stands with
  | kept stood quiet => exact (before sub stood).of_taken_eq quiet
  | made unnumbered unseen answerable log =>
    rw [log]
    exact .greeted unseen.2 unnumbered
  | grown stood log =>
    rw [log]
    exact (before _ stood).told

/-! ### Owners -/

/-- Notifications go to gates that have taken the first reply to the subscription, every first reply
names a subscription of its own, and the owner of a subscription has taken its reply. -/
structure Owned (l : Ledger) : Prop where
  notified : ∀ handed ∈ l.log, ∀ n, handed.message = .notification n →
    Owns l.log handed.gate n.subscription
  unique : ∀ gate gate' id, Owns l.log gate id → Owns l.log gate' id → gate = gate'
  stands : ∀ sub, l.table.get? sub.id = some sub → Owns l.log sub.gate sub.id

theorem owns_concat : Owns (log ++ [handed]) gate id ↔ Owns log gate id ∨
    ∃ label initial, handed = ⟨gate, .subscribed id label initial, .delivered⟩ := by
  simp only [Owns, List.mem_append, List.mem_singleton, exists_or, eq_comm]

theorem owns_append {more : List Handed} (owns : Owns log gate id) :
    Owns (log ++ more) gate id := by
  obtain ⟨label, initial, listed⟩ := owns
  exact ⟨label, initial, List.mem_append_left more listed⟩

theorem owns_concat_of_carries?_eq_none (plain : handed.message.carries? = none) :
    Owns (log ++ [handed]) gate id ↔ Owns log gate id := by
  rw [owns_concat, or_iff_left]
  rintro ⟨label, initial, rfl⟩
  cases plain

theorem owns_concat_of_not_delivered (missed : handed.delivery ≠ .delivered) :
    Owns (log ++ [handed]) gate id ↔ Owns log gate id := by
  rw [owns_concat, or_iff_left]
  rintro ⟨label, initial, rfl⟩
  exact missed rfl

theorem owns_concat_offer {owner : GateId} {results : ResultSet} {delivery : Delivery} :
    Owns (log ++ [⟨owner, sub.offer results, delivery⟩]) gate id ↔ Owns log gate id := by
  rw [owns_concat, or_iff_left]
  rintro ⟨label, initial, same⟩
  cases congrArg Handed.message same

theorem owns_concat_greeting : Owns (log ++ [⟨sub.gate, sub.greeting, .delivered⟩]) gate id ↔
    Owns log gate id ∨ (sub.gate = gate ∧ sub.id = id) := by
  rw [owns_concat]
  refine or_congr_right ⟨?_, ?_⟩
  · rintro ⟨label, initial, same⟩
    cases same
    exact ⟨rfl, rfl⟩
  · rintro ⟨rfl, rfl⟩
    exact ⟨sub.label, sub.last, rfl⟩

theorem not_owns_of_unseen (unseen : l.Unseen id) : ¬Owns l.log gate id := by
  rintro ⟨label, initial, listed⟩
  exact unseen.2 _ listed rfl

namespace Owned

theorem notified_concat (owned : Owned l)
    (last : ∀ n, handed.message = .notification n → Owns l.log handed.gate n.subscription) :
    ∀ other ∈ l.log ++ [handed], ∀ n, other.message = .notification n →
      Owns (l.log ++ [handed]) other.gate n.subscription := by
  intro other listed n same
  rcases List.mem_append.1 listed with old | new
  · exact owns_append (owned.notified other old n same)
  · obtain rfl := List.mem_singleton.1 new
    exact owns_append (last n same)

end Owned

theorem Change.owned (change : Change ω l l') (before : Owned l) : Owned l' := by
  -- Only a change that enters a subscription adds an owner, and nobody owned that one before.
  refine ⟨?_, ?_, fun sub stands => ?_⟩
  · cases change with
    | answered handed plain apart =>
      refine before.notified_concat fun n same => ?_
      rw [same] at plain
      cases plain
    | refused | entered => exact before.notified_concat nofun
    | ended => exact before.notified
    | told sub results delivery standing differ =>
      refine before.notified_concat fun n same => ?_
      cases same
      exact before.stands sub standing
  · intro gate gate' id
    cases change with
    | answered handed plain apart =>
      simp only [owns_concat_of_carries?_eq_none plain]
      exact before.unique gate gate' id
    | refused sub delivery missed unseen =>
      have same (gate : GateId) : Owns (l.log ++ [⟨sub.gate, sub.greeting, delivery⟩]) gate id ↔
          Owns l.log gate id := owns_concat_of_not_delivered missed
      rw [same, same]
      exact before.unique gate gate' id
    | entered sub unnumbered unseen answerable =>
      simp only [owns_concat_greeting]
      rintro (owns | ⟨rfl, rfl⟩) (owns' | ⟨rfl, same⟩)
      · exact before.unique gate gate' id owns owns'
      · exact absurd (same ▸ owns) (not_owns_of_unseen unseen)
      · exact absurd owns' (not_owns_of_unseen unseen)
      · rfl
    | ended => exact before.unique gate gate' id
    | told sub results delivery standing differ =>
      simp only [owns_concat_offer]
      exact before.unique gate gate' id
  · cases change.origin stands with
    | kept stood quiet =>
      obtain ⟨more, log, -⟩ := change.log_eq
      exact log ▸ owns_append (before.stands sub stood)
    | made unnumbered unseen answerable log =>
      rw [log]
      exact owns_concat_greeting.2 (.inr ⟨rfl, rfl⟩)
    | grown stood log =>
      have owns := before.stands _ stood
      rw [log]
      exact owns_append owns

/-! ### Subscriptions that have left -/

/-- No change brings a subscription `id` back that has left. -/
theorem Change.departed (change : Change ω l l') (gone : Departed l id) : Departed l' id := by
  obtain ⟨absent, handed, listed, named⟩ := gone
  obtain ⟨more, log, -⟩ := change.log_eq
  refine ⟨?_, handed, log ▸ List.mem_append_left more listed, named⟩
  cases change with
  | answered handed plain apart => exact absent
  | refused sub delivery missed unseen => exact absent
  | entered sub unnumbered unseen answerable =>
    rw [SubscriptionTable.get?_insert, if_neg, absent]
    rintro rfl
    exact unseen.2 handed listed named
  | ended table wellFormed fewer =>
    rcases fewer id with same | none
    · rw [same, absent]
    · exact none
  | told sub results delivery standing differ =>
    rw [SubscriptionTable.get?_settle standing, if_neg, absent]
    rintro rfl
    rw [standing] at absent
    cases absent

/-- Of a subscription that has `Departed`, gates are told nothing any more. -/
theorem Departed.of_changes (gone : Departed l id) (changes : ReflTransGen (Change ω) l l') :
    Departed l' id ∧ ∃ more, l'.log = l.log ++ more ∧
      ∀ handed ∈ more, handed.message.carries? ≠ some id := by
  induction changes with
  | refl => exact ⟨gone, [], by simp, nofun⟩
  | tail _ change ih =>
    obtain ⟨departed, more, log, silent⟩ := ih
    obtain ⟨last, log', carries⟩ := change.log_eq
    refine ⟨change.departed departed, more ++ last, by rw [log', log, List.append_assoc], ?_⟩
    intro handed listed named
    rcases List.mem_append.1 listed with before | now
    · exact silent handed before named
    -- Results are carried of what stands or is new, and this subscription is neither.
    · rcases carries handed now id named with ⟨sub, standing⟩ | unseen
      · rw [departed.1] at standing
        cases standing
      · obtain ⟨other, told, about⟩ := departed.2
        exact unseen.2 other told about

/-! ### Runs -/

section Runs

variable {s : Scheduler (Recorded ω)}

theorem followed_of_reached (reached : Reached s) (listed : sub ∈ s.table.snapshot) :
    Followed s.world.log sub := by
  have followed := (reached.ledger_induction (motive := fun l =>
    ∀ sub, l.table.get? sub.id = some sub → Followed l.log sub) (by simp)
    fun _ _ _ change => change.followed).1
  exact followed sub ((wellFormed_of_reached reached).mem_snapshot.1 listed)

theorem owned_of_reached (reached : Reached s) : Owned s.ledger := by
  refine (reached.ledger_induction ⟨nofun, ?_, by simp⟩ fun _ _ _ change => change.owned).1
  rintro gate gate' id ⟨_, _, listed⟩
  cases listed

theorem offers_of_update (wf : s.table.WellFormed) {sparql : String}
    {authorization : Option String} (done : (s.update sparql authorization).1 = .ok ()) :
    ∃ offers, (s.update sparql authorization).2.world.log = s.world.log ++ offers ∧
      (∀ handed ∈ offers, Offered (s.applied sparql).found handed) ∧
      ∀ sub ∈ s.table.snapshot, ∃ outcome, (sub, outcome) ∈ (s.applied sparql).found ∧
        ((∃ handed ∈ offers, handed.message.subject? = some sub.id) ↔
          ∃ results, Due sub outcome results) ∧
        Settled (s.update sparql authorization).2.table offers sub outcome := by
  rw [(update_of_ok done).2]
  obtain ⟨offers, log, offered, settled⟩ := settled_reevaluate (s := s.applied sparql) wf
  refine ⟨offers, log, offered, fun sub listed => ?_⟩
  obtain ⟨outcome, entry⟩ := exists_mem_found (s := s.applied sparql) listed
  have now := settled sub outcome entry
  refine ⟨outcome, entry, ⟨?_, ?_⟩, now⟩
  · -- If nothing were due, nothing would have been offered.
    rintro ⟨handed, offer, named⟩
    refine Classical.byContradiction fun quiet => ?_
    have none := (now.quiet fun results due => quiet ⟨results, due⟩).1
    simpa [named] using List.filter_eq_nil_iff.1 none handed offer
  · rintro ⟨results, due⟩
    obtain ⟨delivery, one, -⟩ := now.due results due
    have listed : ⟨sub.gate, sub.offer results, delivery⟩ ∈ about offers sub.id := by simp [one]
    exact ⟨_, (List.mem_filter.1 listed).1, rfl⟩

/-- A subscription `sub` of the table has left after `call` if and only if `call` ends it, or its
gate was found closed meanwhile. -/
theorem departed_perform_iff (reached : Reached s) (listed : sub ∈ s.table.snapshot) (call : Call)
    (fresh : ∀ other, call.name? = some other → s.ledger.Unseen other) :
    ∃ more, (s.perform call).world.log = s.world.log ++ more ∧
      (Departed (s.perform call).ledger sub.id ↔ call.Ends sub ∨ FoundClosed more sub.id) := by
  have wf := wellFormed_of_reached reached
  have stands := wf.mem_snapshot.1 listed
  obtain ⟨more, log, leaves⟩ := leavesIff_perform wf stands call fun other named =>
    (fresh other named).1
  refine ⟨more, log, ?_⟩
  -- The reply with which `sub` was made is still in the record.
  obtain ⟨label, initial, greeted⟩ := (owned_of_reached reached).stands sub stands
  rw [Departed, leaves, and_iff_left]
  exact ⟨_, log ▸ List.mem_append_left more greeted, rfl⟩

/-- Along every run, whatever engine and gates answer, what the gate of a subscription `sub` has
taken about it is a first reply with changes numbered from 1, as many as `sub.sequence`, which lead
from the first results to `sub.last` (`Followed`). Notifications go only to the gate that has taken
the first reply (`Owns`). A successful update offers `sub` exactly one notification if its results
were found and differ from `sub.last` (`Due`), and none otherwise; the answer decides what is kept
(`Settled`). A subscription that has `Departed` never returns, and nothing more is told of it. It
departs with the calls that end it (`Call.Ends`) and with those that find its gate closed
(`FoundClosed`), and with no others. The record in `s.world.log` has no influence on the run. -/
theorem client_replay (reached : Reached s) :
    (∀ sub ∈ s.table.snapshot, Followed s.world.log sub ∧ Owns s.world.log sub.gate sub.id) ∧
    (∀ handed ∈ s.world.log, ∀ n, handed.message = .notification n →
      ∀ gate, Owns s.world.log gate n.subscription ↔ gate = handed.gate) ∧
    (∀ sparql authorization, (s.update sparql authorization).1 = .ok () →
      ∃ offers, (s.update sparql authorization).2.world.log = s.world.log ++ offers ∧
        (∀ handed ∈ offers, Offered (s.applied sparql).found handed) ∧
        ∀ sub ∈ s.table.snapshot, ∃ outcome, (sub, outcome) ∈ (s.applied sparql).found ∧
          ((∃ handed ∈ offers, handed.message.subject? = some sub.id) ↔
            ∃ results, Due sub outcome results) ∧
          Settled (s.update sparql authorization).2.table offers sub outcome) ∧
    (∀ id, Departed s.ledger id → ∀ call : Call,
      (∀ other, call.name? = some other → s.ledger.Unseen other) →
      Departed (s.perform call).ledger id ∧
        ∃ more, (s.perform call).world.log = s.world.log ++ more ∧
          ∀ handed ∈ more, handed.message.carries? ≠ some id) ∧
    (∀ sub ∈ s.table.snapshot, ∀ call : Call,
      (∀ other, call.name? = some other → s.ledger.Unseen other) →
      ∃ more, (s.perform call).world.log = s.world.log ++ more ∧
        (Departed (s.perform call).ledger sub.id ↔ call.Ends sub ∨ FoundClosed more sub.id)) ∧
    ∀ call, (s.perform call).forget = s.forget.perform call := by
  have wf := wellFormed_of_reached reached
  have owned := owned_of_reached reached
  refine ⟨fun sub listed => ⟨followed_of_reached reached listed, ?_⟩,
    fun handed listed n same gate => ⟨fun owns => ?_, ?_⟩,
    fun sparql authorization => offers_of_update wf,
    fun id gone call fresh => gone.of_changes (changes_perform wf call fresh),
    fun sub listed => departed_perform_iff reached listed, forget_perform⟩
  · exact owned.stands sub (wf.mem_snapshot.1 listed)
  · exact owned.unique _ _ _ owns (owned.notified handed listed n same)
  · rintro rfl
    exact owned.notified handed listed n same

end Runs

/-- A world that answers by a script: everyone may use it, and engine and gates answer from
lists. -/
structure Script where
  /-- The answers to queries. -/
  results : List ResultSet
  /-- The answers of gates. -/
  deliveries : List Delivery

instance : Surroundings Script where
  authorize _ _ := .ok ()
  execute _ w := (.ok (w.results.headD default), { w with results := w.results.tail })
  update _ w := (.ok (), w)
  dispatch _ _ w := (w.deliveries.headD .busy, { w with deliveries := w.deliveries.tail })
  arrange _ subs := subs.reverse
  arrange_perm _ subs := subs.reverse_perm

/-- A gate takes the first reply, is too busy for one change and takes the next. -/
def busyOnce : Script where
  results := [.empty [], .ofList [] [∅], .ofList [] [∅]]
  deliveries := [.delivered, .busy, .delivered]

/-- A subscription and two updates. -/
def afterTwoUpdates : Scheduler (Recorded Script) :=
  (({ limit := 1, world := { world := busyOnce } : Scheduler (Recorded Script) }.perform
    (.subscribe default default ⟨"", ∅⟩ none none)).perform (.update "" none)).perform
      (.update "" none)

theorem reached_afterTwoUpdates : Reached afterTwoUpdates := by
  refine .call _ (.call _ (.call _ (.start 1 busyOnce) ?_) nofun) nofun
  exact fun id _ => ⟨SubscriptionTable.get?_empty, nofun⟩

/-- A change that a gate was too busy for is told with the next one, under the number that it
would have had. -/
theorem client_replay_busy_once :
    Reached afterTwoUpdates ∧
    afterTwoUpdates.world.log.map (·.delivery) = [.delivered, .busy, .delivered] ∧
    ∃ sub ∈ afterTwoUpdates.table.snapshot,
      sub.sequence = 1 ∧ Followed afterTwoUpdates.world.log sub := by
  have once : afterTwoUpdates.table.snapshot.map (·.sequence) = [1] := by decide +kernel
  obtain ⟨sub, listed, sequence⟩ := List.mem_map.1 (once ▸ List.mem_singleton_self 1)
  exact ⟨reached_afterTwoUpdates, by decide +kernel, sub, listed, sequence,
    ((client_replay reached_afterTwoUpdates).1 sub listed).1⟩

end GraphBroker.Scheduler
