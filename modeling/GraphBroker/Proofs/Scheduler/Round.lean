import GraphBroker.Proofs.Scheduler.Change

/-!
# The round after an update

After an update every subscription is asked for anew. The gate of a subscription is
offered a notification if and only if results were found and differ from those kept, and
then exactly one. What becomes of the subscription depends on the answer to its own offer
alone.

## Main definitions

* `Scheduler.Due`: a subscription whose results were found and differ from those kept.

## Main statements

* `log_foldl_tellIfFound`: all that a round hands over is offers to owners of due subscriptions.
* `settled_reevaluate`: what one subscription is offered, and what becomes of it.
-/

namespace GraphBroker.Scheduler

/-- For `sub`, `results` were found that differ from those kept. -/
def Due (sub : Subscription) (outcome : Outcome ResultSet) (results : ResultSet) : Prop :=
  outcome = .ok results ∧ ¬sub.last.Agrees results

/-- What was handed over about the subscription `id`. -/
def about (log : List Handed) (id : SubscriptionId) : List Handed :=
  log.filter (·.message.subject? = some id)

/-- A subscription of `entries` is `Due`, and is offered its results. -/
def Offered (entries : List (Subscription × Outcome ResultSet)) (handed : Handed) : Prop :=
  ∃ sub outcome results, (sub, outcome) ∈ entries ∧ Due sub outcome results ∧
    handed.gate = sub.gate ∧ handed.message = sub.offer results

variable {ω : Type} [Surroundings ω] {s : Scheduler (Recorded ω)} {sub : Subscription}
  {outcome : Outcome ResultSet} {results : ResultSet}

theorem tellIfFound_of_not_due (settled : ∀ results, ¬Due sub outcome results) :
    s.tellIfFound (sub, outcome) = s := by
  rcases outcome with fault | results
  · rfl
  · exact tell_of_agrees (Decidable.byContradiction fun differ => settled results ⟨rfl, differ⟩)

theorem tellIfFound_of_due (due : Due sub outcome results) :
    ∃ delivery, (s.tellIfFound (sub, outcome)).ledger =
      ⟨s.table.settle sub results delivery,
        s.world.log ++ [⟨sub.gate, sub.offer results, delivery⟩]⟩ := by
  obtain ⟨rfl, differ⟩ := due
  obtain ⟨table, world⟩ := tell_of_not_agrees (s := s) differ
  rw [tellIfFound_ok, ledger, table, world, log_dispatch]
  exact ⟨_, rfl⟩

/-- All that a round hands over is offers of due results to the owners. -/
theorem log_foldl_tellIfFound (entries : List (Subscription × Outcome ResultSet)) :
    ∃ offers, (entries.foldl tellIfFound s).world.log = s.world.log ++ offers ∧
      ∀ handed ∈ offers, Offered entries handed := by
  induction entries generalizing s with
  | nil => exact ⟨[], by simp, nofun⟩
  | cons first rest ih =>
    obtain ⟨sub, outcome⟩ := first
    obtain ⟨offers, log, offered⟩ := ih (s := s.tellIfFound (sub, outcome))
    have later {handed : Handed} (listed : handed ∈ offers) :
        Offered ((sub, outcome) :: rest) handed := by
      obtain ⟨other, found, results, entry, due⟩ := offered handed listed
      exact ⟨other, found, results, List.mem_cons_of_mem _ entry, due⟩
    rw [List.foldl_cons, log]
    by_cases quiet : ∀ results, ¬Due sub outcome results
    · rw [tellIfFound_of_not_due quiet]
      exact ⟨offers, rfl, fun handed => later⟩
    · obtain ⟨results, due⟩ := Classical.not_forall_not.1 quiet
      obtain ⟨delivery, told⟩ := tellIfFound_of_due (s := s) due
      refine ⟨⟨sub.gate, sub.offer results, delivery⟩ :: offers, ?_, fun handed listed => ?_⟩
      · rw [show (s.tellIfFound (sub, outcome)).world.log = _ from congrArg Ledger.log told,
          List.append_assoc, List.singleton_append]
      · rcases List.mem_cons.1 listed with rfl | listed
        · exact ⟨sub, outcome, results, List.mem_cons_self, due, rfl, rfl⟩
        · exact later listed

theorem get?_foldl_tellIfFound_of_ne {entries : List (Subscription × Outcome ResultSet)}
    {id : SubscriptionId} (other : ∀ entry ∈ entries, entry.1.id ≠ id) :
    (entries.foldl tellIfFound s).table.get? id = s.table.get? id := by
  induction entries generalizing s with
  | nil => rfl
  | cons first rest ih =>
    rw [List.foldl_cons, ih fun entry listed => other entry (List.mem_cons_of_mem _ listed),
      get?_tellIfFound_of_ne (other first List.mem_cons_self)]

theorem about_eq_nil {entries : List (Subscription × Outcome ResultSet)} {id : SubscriptionId}
    {offers : List Handed} (offered : ∀ handed ∈ offers, Offered entries handed)
    (other : ∀ entry ∈ entries, entry.1.id ≠ id) : about offers id = [] := by
  rw [about, List.filter_eq_nil_iff]
  intro handed listed
  obtain ⟨sub, outcome, results, entry, -, -, message⟩ := offered handed listed
  rw [message]
  simpa [Subscription.offer, Message.subject?] using other _ entry

/-- What is offered about `sub` in a round, and what becomes of it. -/
structure Settled (after : SubscriptionTable) (offers : List Handed) (sub : Subscription)
    (outcome : Outcome ResultSet) : Prop where
  /-- If `results` are due, they are offered once, and the answer decides. -/
  due : ∀ results, Due sub outcome results → ∃ delivery,
    about offers sub.id = [⟨sub.gate, sub.offer results, delivery⟩] ∧
      after.get? sub.id = sub.settled? results delivery
  /-- If nothing is due, nothing is offered and nothing changes. -/
  quiet : (∀ results, ¬Due sub outcome results) →
    about offers sub.id = [] ∧ after.get? sub.id = some sub

theorem settled_foldl_tellIfFound {entries : List (Subscription × Outcome ResultSet)}
    (current : s.Current entries) (listed : (sub, outcome) ∈ entries) {offers : List Handed}
    (log : (entries.foldl tellIfFound s).world.log = s.world.log ++ offers) :
    Settled (entries.foldl tellIfFound s).table offers sub outcome := by
  -- The round is cut at this entry; what comes before and after it concerns other names.
  obtain ⟨before, after, rfl⟩ := List.append_of_mem listed
  have distinct := current.distinct
  rw [List.map_append, List.map_cons, List.nodup_append, List.nodup_cons] at distinct
  obtain ⟨-, ⟨later, -⟩, earlier⟩ := distinct
  have otherBefore : ∀ entry ∈ before, entry.1.id ≠ sub.id := fun entry listed =>
    earlier _ (List.mem_map_of_mem listed) _ List.mem_cons_self
  have otherAfter : ∀ entry ∈ after, entry.1.id ≠ sub.id := fun entry listed same =>
    later (List.mem_map.2 ⟨entry, listed, same⟩)
  have stands : (before.foldl tellIfFound s).table.get? sub.id = some sub := by
    rw [get?_foldl_tellIfFound_of_ne otherBefore]
    exact current.stands _ listed
  obtain ⟨first, logFirst, offeredFirst⟩ := log_foldl_tellIfFound (s := s) before
  obtain ⟨last, logLast, offeredLast⟩ := log_foldl_tellIfFound
    (s := (before.foldl tellIfFound s).tellIfFound (sub, outcome)) after
  rw [List.foldl_append, List.foldl_cons] at log ⊢
  rw [logLast] at log
  refine ⟨fun results due => ?_, fun quiet => ?_⟩
  · obtain ⟨delivery, told⟩ := tellIfFound_of_due (s := before.foldl tellIfFound s) due
    rw [ledger, Ledger.mk.injEq] at told
    rw [told.2, logFirst, List.append_assoc, List.append_assoc, List.append_cancel_left_eq] at log
    refine ⟨delivery, ?_, ?_⟩
    · rw [← log, about, List.filter_append, List.filter_append, ← about, ← about, ← about,
        about_eq_nil offeredFirst otherBefore, about_eq_nil offeredLast otherAfter]
      simp [about, Subscription.offer, Message.subject?]
    · rw [get?_foldl_tellIfFound_of_ne otherAfter, told.1,
        SubscriptionTable.get?_settle stands, if_pos rfl]
  · rw [tellIfFound_of_not_due quiet] at log ⊢
    rw [logFirst, List.append_assoc, List.append_cancel_left_eq] at log
    refine ⟨?_, ?_⟩
    · rw [← log, about, List.filter_append, ← about, ← about,
        about_eq_nil offeredFirst otherBefore, about_eq_nil offeredLast otherAfter]
      rfl
    · rw [get?_foldl_tellIfFound_of_ne otherAfter, stands]

/-- A round only offers due results to owners, and settles every subscription that was `found`. -/
theorem settled_reevaluate (wf : s.table.WellFormed) :
    ∃ offers, s.reevaluate.world.log = s.world.log ++ offers ∧
      (∀ handed ∈ offers, Offered s.found handed) ∧
      ∀ sub outcome, (sub, outcome) ∈ s.found →
        Settled s.reevaluate.table offers sub outcome := by
  obtain ⟨offers, log, offered⟩ := log_foldl_tellIfFound (s := s.asked) s.found
  have asked : s.asked.world.log = s.world.log := congrArg Ledger.log ledger_asked
  refine ⟨offers, by rw [reevaluate_eq, log, asked], offered, fun sub outcome listed => ?_⟩
  exact settled_foldl_tellIfFound (current_found wf) listed log

end GraphBroker.Scheduler
