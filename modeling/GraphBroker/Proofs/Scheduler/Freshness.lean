import GraphBroker.Proofs.Scheduler.Graph
import GraphBroker.Proofs.Scheduler.Replay
import GraphBroker.Proofs.Sparql.Solutions

/-!
# What is kept is what the graph holds

Over the engine in memory a successful update leaves every subscription with the results
of its query on the graph as it then is, unless its gate was too busy to be told. What was
missed earlier does not matter, since what is offered is always the whole difference
between the results kept and the results now.

## Main definitions

* `Sparql.Pattern.Readable`, `Sparql.Pattern.Unlimited`: texts of queries, and of queries without
  a limit.
* `Subscription.Fresh`: a subscription with the results of its query on a graph.

## Main statements

* `readable_of_reached`: the queries of subscriptions can be read, along every run.
* `fresh_of_update`: after an update all subscriptions are fresh whose gates were not busy.
-/

namespace GraphBroker

open Sparql

variable {g h : Graph} {pattern : Pattern} {q : Query}

/-- The text of `pattern` is that of a query. -/
def Sparql.Pattern.Readable (pattern : Pattern) : Prop :=
  ∃ q, Query.parse pattern.render = .ok q

/-- The text of `pattern` is not that of a query with a limit. -/
def Sparql.Pattern.Unlimited (pattern : Pattern) : Prop :=
  ∀ q, Query.parse pattern.render = .ok q → q.limit = none

/-- The results kept of `sub` are those of its query on `g`, in whatever order the graph is
listed. -/
def Subscription.Fresh (sub : Subscription) (g : Graph) : Prop :=
  ∀ h : Graph, (∀ triple, triple ∈ g ↔ triple ∈ h) →
    ∃ results, h.execute sub.pattern = .ok results ∧ sub.last.Agrees results

/-- Without a limit it is enough that `results` agree on one listing of the graph `g`. -/
theorem Subscription.fresh_of_agrees {sub : Subscription} {results : ResultSet}
    (unlimited : sub.pattern.Unlimited) (done : g.execute sub.pattern = .ok results)
    (same : sub.last.Agrees results) : sub.Fresh g := by
  intro h triples
  obtain ⟨q, read, rfl⟩ := Graph.execute_eq_ok.1 done
  refine ⟨q.select h, Graph.execute_of_parse read, ?_⟩
  exact same.trans (agrees_select (unlimited q read) triples)

namespace Scheduler

open Relation

variable {ω : Type} [Surroundings ω] {s : Scheduler (Recorded ω)} {l l' : Ledger}
  {sub : Subscription} {id : SubscriptionId}

/-! ### The queries of subscriptions -/

/-- If `P` holds of all patterns that the engine has results for, each change keeps it true of all
patterns in the table. -/
theorem Change.patterns {P : Pattern → Prop} (change : Change ω l l')
    (answerable : ∀ pattern, Answerable ω pattern → P pattern)
    (before : ∀ sub, l.table.get? sub.id = some sub → P sub.pattern) :
    ∀ sub, l'.table.get? sub.id = some sub → P sub.pattern := by
  intro sub stands
  cases change.origin stands with
  | kept stood quiet => exact before sub stood
  | made unnumbered unseen answers log => exact answerable sub.pattern answers
  | grown stood log =>
    have held := before _ stood
    exact held

/-- A subscription `sub` that is in the table after a round was there before it, under the same
`id`. -/
theorem exists_of_mem_reevaluate (found : s.reevaluate.table.get? id = some sub)
    (wf : s.table.WellFormed) : ∃ before ∈ s.table.snapshot, before.id = id := by
  refine Classical.byContradiction fun absent => ?_
  have other : ∀ entry ∈ s.found, entry.1.id ≠ id := by
    rintro ⟨before, outcome⟩ listed rfl
    exact absent ⟨before, map_fst_found.mem_iff.1 (List.mem_map_of_mem listed), rfl⟩
  rw [reevaluate_eq, get?_foldl_tellIfFound_of_ne other, table_asked] at found
  have same := wf.id_eq found
  subst same
  exact absent ⟨sub, wf.mem_snapshot.2 found, rfl⟩

section InMemory

variable [InMemory ω]

theorem readable_of_answerable (answerable : Answerable ω pattern) : pattern.Readable := by
  obtain ⟨w, results, done⟩ := answerable
  rw [InMemory.execute_eq] at done
  obtain ⟨q, read, -⟩ := Graph.execute_eq_ok.1 done
  exact ⟨q, read⟩

/-- The query of `sub` can be read, since it has been read once. -/
theorem readable_of_reached (reached : Reached s) (listed : sub ∈ s.table.snapshot) :
    sub.pattern.Readable := by
  have readable := (reached.ledger_induction (motive := fun l =>
    ∀ sub, l.table.get? sub.id = some sub → sub.pattern.Readable) (by simp)
    fun _ _ _ change => change.patterns fun _ => readable_of_answerable).1
  exact readable sub ((wellFormed_of_reached reached).mem_snapshot.1 listed)

/-- What becomes of a subscription whose gate was not busy has the `results` found, whether it was
told of them or had them before. -/
theorem agrees_of_settled {after : SubscriptionTable} {offers : List Handed} {before : Subscription}
    {results : ResultSet} (settled : Settled after offers before (.ok results))
    (stands : after.get? before.id = some sub)
    (accepted : ∀ handed ∈ about offers before.id, handed.delivery ≠ .busy) :
    sub.pattern = before.pattern ∧ sub.last.Agrees results := by
  by_cases same : before.last.Agrees results
  · have quiet := (settled.quiet fun other due => due.2 (Except.ok.inj due.1 ▸ same)).2
    rw [stands] at quiet
    cases quiet
    exact ⟨rfl, same⟩
  · obtain ⟨delivery, offered, kept⟩ := settled.due results ⟨rfl, same⟩
    rw [stands] at kept
    cases delivery with
    | delivered =>
      cases kept
      exact ⟨rfl, rfl⟩
    | gateClosed => cases kept
    | busy =>
      rw [offered] at accepted
      exact absurd rfl (accepted _ (List.mem_singleton_self _))

/-- After a successful update, whatever was missed before it, every subscription `sub` in the table
whose gate did not answer `.busy` has the results of its query on the graph as it now is
(`Subscription.Fresh`). What gates are offered is the difference to these results, and those who
have them are offered nothing. -/
theorem fresh_of_update (reached : Reached s) {sparql : String} {authorization : Option String}
    (done : (s.update sparql authorization).1 = .ok ()) :
    s.graph.update sparql = .ok (s.update sparql authorization).2.graph ∧
    ∃ offers, (s.update sparql authorization).2.world.log = s.world.log ++ offers ∧
      (∀ sub ∈ (s.update sparql authorization).2.table.snapshot, sub.pattern.Unlimited →
        (∀ handed ∈ offers, handed.message.subject? = some sub.id → handed.delivery ≠ .busy) →
        sub.Fresh (s.update sparql authorization).2.graph) ∧
      (∀ handed ∈ offers, ∃ sub ∈ s.table.snapshot, ∃ results,
        (s.update sparql authorization).2.graph.execute sub.pattern = .ok results ∧
        handed.gate = sub.gate ∧ handed.message = sub.offer results) ∧
      ∀ sub ∈ s.table.snapshot, ∀ results,
        (s.update sparql authorization).2.graph.execute sub.pattern = .ok results →
        sub.last.Agrees results → ∀ handed ∈ offers, handed.message.subject? ≠ some sub.id := by
  have wf := wellFormed_of_reached reached
  have wfAfter := wellFormed_of_reached (reached.call (.update sparql authorization) nofun)
  obtain ⟨offers, log, offered, settled⟩ := offers_of_update wf done
  obtain ⟨applies, told⟩ := update_of_ok done
  -- The round asks the graph that the update has left, and does not change it.
  have graph : (s.update sparql authorization).2.graph = (s.applied sparql).graph := by
    rw [told]
    exact congrArg Prod.fst holdings_reevaluate
  refine ⟨graph ▸ graph_applied applies, offers, log, fun sub listed unlimited accepted => ?_,
    fun handed offer => ?_, fun sub listed results found same handed offer named => ?_⟩
  · have stands := wfAfter.mem_snapshot.1 listed
    have was : (s.applied sparql).reevaluate.table.get? sub.id = some sub := told ▸ stands
    obtain ⟨before, was, name⟩ := exists_of_mem_reevaluate was wf
    obtain ⟨outcome, entry, -, now⟩ := settled before was
    -- Its query can be read, so that results have been found.
    obtain ⟨q, read⟩ := readable_of_reached reached was
    obtain rfl := (mem_found.1 entry).2
    rw [← graph] at now
    rw [Graph.execute_of_parse read] at now
    have notBusy : ∀ handed ∈ about offers before.id, handed.delivery ≠ .busy := by
      intro handed offer
      obtain ⟨listed, named⟩ := List.mem_filter.1 offer
      exact accepted handed listed (by simpa [name] using named)
    obtain ⟨pattern, agrees⟩ := agrees_of_settled now (name ▸ stands) notBusy
    refine Subscription.fresh_of_agrees unlimited ?_ agrees
    rw [pattern]
    exact Graph.execute_of_parse read
  · obtain ⟨sub, outcome, results, entry, ⟨rfl, -⟩, gate, message⟩ := offered handed offer
    obtain ⟨listed, found⟩ := mem_found.1 entry
    exact ⟨sub, listed, results, graph ▸ found, gate, message⟩
  · obtain ⟨outcome, entry, dues, -⟩ := settled sub listed
    obtain ⟨other, due, differ⟩ := dues.1 ⟨handed, offer, named⟩
    have now := (mem_found.1 entry).2
    rw [due, ← graph, found] at now
    cases now
    exact differ same

end InMemory

/-- A broker that everyone may use, with one gate at which one message may wait. -/
def narrow : World Memory where
  engine := {}
  timeoutMs := 0
  authority := ⟨⟨∅, {}, "", []⟩, "", false⟩
  now := 0
  gates := (∅ : Std.ExtTreeMap GateId Gate).insert default
    { path := "", outboundCapacity := 1, requestCapacity := 1, fragments := { maxSize := 0 } }

/-- The client takes the message that waits at the gate of `w`. -/
def takenFrom (w : World Memory) : World Memory :=
  match w.gate? default with
  | some gate => w.putGate default gate.receive.2
  | none => w

/-- A subscription whose gate had no room for the change of an update, but has now. -/
def behind : Scheduler (Recorded (World Memory)) :=
  let missed := ({ limit := 1, world := { world := narrow } : Scheduler (Recorded _) }.perform
    (.subscribe default default ⟨"SELECT * WHERE \x7b ?s <p> ?o \x7d", ∅⟩ none none)).perform
      (.update "INSERT DATA \x7b <a> <p> <b> \x7d" none)
  { missed with world := { missed.world with world := takenFrom missed.world.world } }

/-- An update that has nothing to do with the subscription. -/
def unrelated : String := "INSERT DATA \x7b <a> <q> <b> \x7d"

theorem reached_behind : Reached behind := by
  refine .meanwhile _ (.call _ (.call _ (.start 1 narrow) ?_) nofun)
  exact fun id _ => ⟨SubscriptionTable.get?_empty, nofun⟩

/-- The update `unrelated` has nothing to do with the subscription of `behind`, and brings it up to
date, now that its gate has room. -/
theorem fresh_of_update_after_busy :
    Reached behind ∧ (behind.update unrelated none).1 = .ok () ∧
    behind.table.snapshot.map (·.last.size) = [0] ∧
    ∃ sub ∈ (behind.update unrelated none).2.table.snapshot,
      sub.last.size = 1 ∧ sub.Fresh (behind.update unrelated none).2.graph := by
  have done : (behind.update unrelated none).1 = .ok () := ok_of_toOption (by decide +kernel)
  have after : (behind.update unrelated none).2.table.snapshot.map
      (fun sub => (sub.last.size, sub.pattern.render)) =
        [(1, "SELECT * WHERE \x7b ?s <p> ?o \x7d")] := by decide +kernel
  obtain ⟨sub, listed, same⟩ := List.mem_map.1 (after ▸ List.mem_singleton_self _)
  obtain ⟨size, text⟩ := Prod.mk.inj same
  obtain ⟨-, offers, log, fresh, -⟩ := fresh_of_update reached_behind done
  refine ⟨reached_behind, done, by decide +kernel, sub, listed, size, fresh sub listed ?_ ?_⟩
  · intro q read
    have unlimited : (Query.parse "SELECT * WHERE \x7b ?s <p> ?o \x7d").map (·.limit) = .ok none :=
      ok_of_toOption (by decide +kernel)
    rw [← text, read] at unlimited
    exact Except.ok.inj unlimited
  · intro handed offer _ busy
    have deliveries := congrArg (List.map (·.delivery)) log
    rw [List.map_append, show behind.world.log.map (·.delivery) = [.delivered, .busy] from by
      decide +kernel, show (behind.update unrelated none).2.world.log.map (·.delivery) =
        [.delivered, .busy, .delivered] from by decide +kernel] at deliveries
    change [Delivery.delivered, .busy] ++ [.delivered] = _ at deliveries
    have accepted : offers.map (·.delivery) = [.delivered] :=
      (List.append_cancel_left deliveries).symm
    have among := List.mem_map_of_mem (f := (·.delivery)) offer
    rw [accepted, busy] at among
    cases List.mem_singleton.1 among

end Scheduler

end GraphBroker
