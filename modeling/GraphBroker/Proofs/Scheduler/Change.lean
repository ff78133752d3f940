import GraphBroker.Proofs.Scheduler.Record
import Mathlib.Logic.Relation

/-!
# The changes that a call is made of

Each call changes the table and the record in a few small ways, one after another. What
every such change keeps is kept by every call.

## Main definitions

* `Scheduler.Change`: one change of the ledger.

## Main statements

* `changes_perform`: every call is a sequence of changes.
* `wellFormed_of_reached`: the table of a run is well formed.
-/

namespace GraphBroker.Scheduler

open Relation

/-- In some state of the world `ω` the engine has results for `pattern`. -/
def Answerable (ω : Type) [Surroundings ω] (pattern : Sparql.Pattern) : Prop :=
  ∃ (w : ω) (results : ResultSet), (Surroundings.execute pattern w).1 = .ok results

/-- One change of the table and the record. -/
inductive Change (ω : Type) [Surroundings ω] : Ledger → Ledger → Prop
  /-- A gate is handed a message that carries no results of a subscription and names none of the
  gate, whatever its `delivery`. -/
  | answered {l : Ledger} (handed : Handed) (plain : handed.message.carries? = none)
    (apart : ∀ sub, l.table.get? sub.id = some sub → sub.gate = handed.gate →
      handed.message.subject? ≠ some sub.id) :
    Change ω l { l with log := l.log ++ [handed] }
  /-- A gate does not take the reply to `sub`, which is not kept. -/
  | refused {l : Ledger} (sub : Subscription) (delivery : Delivery)
    (missed : delivery ≠ .delivered) (unseen : l.Unseen sub.id) :
    Change ω l { l with log := l.log ++ [⟨sub.gate, sub.greeting, delivery⟩] }
  /-- A gate takes the reply to `sub`, which is entered. -/
  | entered {l : Ledger} (sub : Subscription) (unnumbered : sub.sequence = 0)
    (unseen : l.Unseen sub.id) (answerable : Answerable ω sub.pattern) :
    Change ω l ⟨l.table.insert sub, l.log ++ [⟨sub.gate, sub.greeting, .delivered⟩]⟩
  /-- Subscriptions end, and `table` has those that are left. -/
  | ended {l : Ledger} (table : SubscriptionTable) (wellFormed : table.WellFormed)
    (fewer : ∀ id, table.get? id = l.table.get? id ∨ table.get? id = none) :
    Change ω l { l with table }
  /-- The gate of `sub` answers `delivery` to a notification that `results` have been found. -/
  | told {l : Ledger} (sub : Subscription) (results : ResultSet) (delivery : Delivery)
    (stands : l.table.get? sub.id = some sub) (differ : ¬sub.last.Agrees results) :
    Change ω l ⟨l.table.settle sub results delivery,
      l.log ++ [⟨sub.gate, sub.offer results, delivery⟩]⟩

variable {ω : Type} [Surroundings ω] {s : Scheduler (Recorded ω)} {l l' : Ledger}

theorem Change.wellFormed (change : Change ω l l') (wf : l.table.WellFormed) :
    l'.table.WellFormed := by
  cases change with
  | answered handed plain apart => exact wf
  | refused sub delivery missed unseen => exact wf
  | entered sub unnumbered unseen answerable => exact wf.insert unseen.1
  | ended table wellFormed fewer => exact wellFormed
  | told sub results delivery stands differ => exact wf.settle

/-- What every `Change` of a well-formed table keeps, a sequence of changes keeps. -/
theorem changes_induction {motive : Ledger → Prop}
    (step : ∀ l l', l.table.WellFormed → Change ω l l' → motive l → motive l')
    (changes : ReflTransGen (Change ω) l l') (wf : l.table.WellFormed) (start : motive l) :
    motive l' ∧ l'.table.WellFormed := by
  induction changes with
  | refl => exact ⟨start, wf⟩
  | tail _ change ih => exact ⟨step _ _ ih.2 change ih.1, change.wellFormed ih.2⟩

/-! ### Changes that each request makes -/

theorem log_dispatch (gate : GateId) (message : Message) :
    (Surroundings.dispatch gate message s.world).2.log = s.world.log ++
      [⟨gate, message, (Surroundings.dispatch gate message s.world).1⟩] := rfl

theorem ledger_execute (pattern : Sparql.Pattern) :
    (s.execute pattern).2.ledger = s.ledger := rfl

theorem ledger_evaluate (subs : List Subscription) : (s.evaluate subs).2.ledger = s.ledger := by
  induction subs generalizing s with
  | nil => rfl
  | cons sub rest ih => rw [evaluate_cons, ih, ledger_execute]

theorem ledger_asked : s.asked.ledger = s.ledger := ledger_evaluate _

theorem ledger_applied (sparql : String) : (s.applied sparql).ledger = s.ledger := rfl

theorem change_enter (wf : s.table.WellFormed) (sub : Subscription) (unnumbered : sub.sequence = 0)
    (unseen : s.ledger.Unseen sub.id) (answerable : Answerable ω sub.pattern) :
    Change ω s.ledger (s.enter sub).2.ledger := by
  by_cases taken : (Surroundings.dispatch sub.gate sub.greeting s.world).1 = .delivered
  · obtain ⟨-, table, world⟩ := enter_of_delivered taken
    rw [ledger, ledger, table, world, log_dispatch, taken]
    exact .entered sub unnumbered unseen answerable
  · obtain ⟨-, table, world⟩ := enter_of_not_delivered taken
    rw [ledger, ledger, table, world, log_dispatch, wf.remove_insert unseen.1]
    exact .refused sub _ taken unseen

theorem changes_subscribe (wf : s.table.WellFormed) (id : SubscriptionId) (gate : GateId)
    (pattern : Sparql.Pattern) (label authorization : Option String)
    (unseen : s.ledger.Unseen id) :
    ReflTransGen (Change ω) s.ledger
      (s.subscribe id gate pattern label authorization).2.ledger := by
  obtain ⟨_, refused⟩ | ⟨_, failed⟩ | ⟨initial, answer, entered⟩ :=
    s.subscribe_cases id gate pattern label authorization
  · rw [refused]
  · rw [failed, ledger_execute]
  · rw [entered]
    exact .single (change_enter (s := (s.execute pattern).2) wf _ rfl unseen
      ⟨s.world.world, initial, answer⟩)

theorem changes_reevaluate (wf : s.table.WellFormed) :
    ReflTransGen (Change ω) s.ledger s.reevaluate.ledger := by
  rw [reevaluate_eq, ← ledger_asked]
  refine foldl_tellIfFound_induction (motive := fun after =>
    ReflTransGen (Change ω) s.asked.ledger after.ledger) (current_found wf) .refl ?_
  rintro before ⟨sub, fault | results⟩ - stands changes
  · exact changes
  · by_cases same : sub.last.Agrees results
    · rwa [tellIfFound_ok, tell_of_agrees same]
    · obtain ⟨table, world⟩ := tell_of_not_agrees (s := before) same
      refine changes.tail ?_
      rw [tellIfFound_ok, ledger, ledger, table, world, log_dispatch]
      exact .told sub results _ stands same

theorem changes_update (wf : s.table.WellFormed) (sparql : String)
    (authorization : Option String) :
    ReflTransGen (Change ω) s.ledger (s.update sparql authorization).2.ledger := by
  obtain ⟨_, refused⟩ | ⟨_, _, failed⟩ | ⟨_, done⟩ := s.update_cases sparql authorization
  · rw [refused]
  · rw [failed, ledger_applied]
  · rw [done]
    exact changes_reevaluate (s := s.applied sparql) wf

theorem ledger_query (pattern : Sparql.Pattern) (authorization : Option String) :
    (s.query pattern authorization).2.ledger = s.ledger := by
  obtain ⟨_, refused⟩ | asked := s.query_cases pattern authorization
  · rw [refused]
  · rw [asked, ledger_execute]

theorem change_unsubscribe (wf : s.table.WellFormed) (gate : GateId) (id : SubscriptionId) :
    Change ω s.ledger (s.unsubscribe gate id).ledger := by
  refine .ended _ wf.removeOwned fun other => ?_
  rw [table_unsubscribe, SubscriptionTable.get?_removeOwned]
  split
  · exact .inr rfl
  · exact .inl rfl

theorem change_unregister (wf : s.table.WellFormed) (gate : GateId) :
    Change ω s.ledger (s.unregisterGate gate).2.ledger := by
  refine .ended _ wf.removeGate fun other => ?_
  rw [table_unregisterGate, SubscriptionTable.get?_removeGate]
  split
  · exact .inr rfl
  · exact .inl rfl

theorem change_shutdown (wf : s.table.WellFormed) : Change ω s.ledger s.shutdown.ledger := by
  refine .ended _ (wf.foldl_remove _) fun other => ?_
  rw [table_shutdown, SubscriptionTable.get?_foldl_remove]
  split
  · exact .inr rfl
  · exact .inl rfl

theorem change_reply (gate : GateId) (message : Message) (counter : Option Counter)
    (plain : message.carries? = none)
    (apart : ∀ sub, s.table.get? sub.id = some sub → sub.gate = gate →
      message.subject? ≠ some sub.id) :
    Change ω s.ledger (s.reply gate message counter).ledger := by
  rw [ledger, ledger, table_reply, world_reply, log_dispatch]
  exact .answered ⟨gate, message, _⟩ plain apart

theorem change_reply_of_unnamed (gate : GateId) (message : Message) (counter : Option Counter)
    (plain : message.carries? = none) (unnamed : message.subject? = none) :
    Change ω s.ledger (s.reply gate message counter).ledger := by
  refine change_reply gate message counter plain fun sub _ _ named => ?_
  rw [unnamed] at named
  cases named

theorem change_replyFault (gate : GateId) (fault : Fault) :
    Change ω s.ledger (s.replyFault gate fault).ledger :=
  change_reply_of_unnamed gate (.ofFault fault) _ rfl rfl

theorem changes_process (wf : s.table.WellFormed) (id : SubscriptionId) (gate : GateId)
    (request : Request) (unseen : ∀ other, (Call.process id gate request).name? = some other →
      s.ledger.Unseen other) :
    ReflTransGen (Change ω) s.ledger (s.process id gate request).ledger := by
  cases request with
  | subscribe pattern label authorization =>
    have changes := changes_subscribe wf id gate pattern label
      (Request.subscribe pattern label authorization).bearer? (unseen id rfl)
    rw [process]
    generalize s.subscribe id gate pattern label _ = answer at changes ⊢
    obtain ⟨fault | _, done⟩ := answer
    · exact changes.tail (change_replyFault gate fault)
    · exact changes
  | unsubscribe other authorization =>
    -- The subscription has ended before its gate is told so, and no longer stands.
    refine .tail (.single (change_unsubscribe wf gate other))
      (change_reply gate (.unsubscribed other) _ rfl fun sub stands owns named => ?_)
    obtain rfl : other = sub.id := Option.some.inj named
    rw [table_unsubscribe, SubscriptionTable.get?_removeOwned] at stands
    split at stands
    · cases stands
    · rename_i kept
      simp [stands, owns] at kept
  | update sparql authorization =>
    have changes := changes_update wf sparql (Request.update sparql authorization).bearer?
    rw [process]
    generalize s.update sparql _ = answer at changes ⊢
    obtain ⟨fault | _, done⟩ := answer
    · exact changes.tail (change_replyFault gate fault)
    · exact changes.tail (change_reply_of_unnamed gate .updated _ rfl rfl)
  | query pattern authorization =>
    have same := ledger_query (s := s) pattern (Request.query pattern authorization).bearer?
    rw [process]
    generalize s.query pattern _ = answer at same ⊢
    rw [← same]
    obtain ⟨fault | results, done⟩ := answer
    · exact .single (change_replyFault gate fault)
    · exact .single (change_reply_of_unnamed gate (.results results) _ rfl rfl)

/-- Every `call` is a sequence of changes. -/
theorem changes_perform (wf : s.table.WellFormed) (call : Call)
    (fresh : ∀ id, call.name? = some id → s.ledger.Unseen id) :
    ReflTransGen (Change ω) s.ledger (s.perform call).ledger := by
  cases call with
  | subscribe id gate pattern label authorization =>
    exact changes_subscribe wf id gate pattern label authorization (fresh id rfl)
  | unsubscribe gate id => exact .single (change_unsubscribe wf gate id)
  | update sparql authorization => exact changes_update wf sparql authorization
  | query pattern authorization =>
    rw [perform, ledger_query]
  | unregister gate => exact .single (change_unregister wf gate)
  | shutdown => exact .single (change_shutdown wf)
  | process id gate request => exact changes_process wf id gate request fresh

/-- What holds of an empty ledger and is kept by every `Change` holds of every run. -/
theorem Reached.ledger_induction {motive : Ledger → Prop} (start : motive ⟨∅, []⟩)
    (step : ∀ l l', l.table.WellFormed → Change ω l l' → motive l → motive l')
    (reached : Reached s) : motive s.ledger ∧ s.table.WellFormed := by
  induction reached with
  | start limit world => exact ⟨start, .empty⟩
  | call call _ fresh ih =>
    exact changes_induction step (changes_perform ih.2 call fresh) ih.2 ih.1
  | meanwhile world _ ih => exact ih

theorem wellFormed_of_reached (reached : Reached s) : s.table.WellFormed :=
  (reached.ledger_induction (motive := fun _ => True) trivial fun _ _ _ _ _ => trivial).2

end GraphBroker.Scheduler
