import GraphBroker.Proofs.Scheduler.Change
import GraphBroker.Proofs.Scheduler.Graph

/-!
# A request that fails changes nothing

A request fails because its authorization is refused, because its gate has as many
subscriptions as it may have, because its text cannot be read, or because the first
results of a subscription cannot be handed over. In each case the graph, the table of
subscriptions with its index, and the authority with its registry are as before, and only
the gate that has asked is told. The same holds of a query that succeeds.

## Main definitions

* `Scheduler.Fails`: a request ends in a fault.
* `Scheduler.Refusal`: the reasons for this.
* `Scheduler.Untouched`: nothing has changed but what one gate has been handed.

## Main statements

* `fails_iff`: requests fail for the reasons named, and for no others.
* `process_of_fails`: a request that fails changes nothing.
* `rejected_changes_nothing`: both together, along every run.
-/

namespace GraphBroker.Scheduler

open Sparql

/-- The request is carried out only for those who may use the broker. -/
def NeedsAuthorization : Request → Prop
  | .unsubscribe _ _ => False
  | _ => True

section Failing

variable {ω : Type} [Surroundings ω]

/-- The `request` of `gate` ends in `fault`. -/
def Fails (s : Scheduler ω) (id : SubscriptionId) (gate : GateId) (request : Request)
    (fault : Fault) : Prop :=
  match request with
  | .subscribe pattern label _ =>
    (s.subscribe id gate pattern label request.bearer?).1 = .error fault
  | .unsubscribe _ _ => False
  | .update sparql _ => (s.update sparql request.bearer?).1 = .error fault
  | .query pattern _ => (s.query pattern request.bearer?).1 = .error fault

variable [InMemory ω]

/-- Why a request ends in a fault. -/
inductive Refusal (s : Scheduler ω) (id : SubscriptionId) (gate : GateId) :
    Request → Fault → Prop
  /-- The authorization of `request` is refused. None is needed to unsubscribe. -/
  | unauthorized {request : Request} {fault : Fault}
    (needed : NeedsAuthorization request)
    (refused : Surroundings.authorize request.bearer? s.world = .error fault) :
    Refusal s id gate request fault
  /-- The gate has `s.limit` subscriptions or more. -/
  | full {pattern : Pattern} {label authorization : Option String}
    (allowed : Surroundings.authorize (Request.subscribe pattern label authorization).bearer?
      s.world = .ok ())
    (full : s.limit ≤ s.table.countFor gate) :
    Refusal s id gate (.subscribe pattern label authorization) (limitReached s.limit)
  /-- The query of a subscription cannot be read. -/
  | unreadable {pattern : Pattern} {label authorization : Option String} {e : SyntaxError}
    (allowed : Surroundings.authorize (Request.subscribe pattern label authorization).bearer?
      s.world = .ok ())
    (room : s.table.countFor gate < s.limit) (unread : Query.parse pattern.render = .error e) :
    Refusal s id gate (.subscribe pattern label authorization) e.toFault
  /-- The first results of a subscription are not taken by its gate. -/
  | undelivered {pattern : Pattern} {label authorization : Option String} {q : Query}
    {delivery : Delivery}
    (allowed : Surroundings.authorize (Request.subscribe pattern label authorization).bearer?
      s.world = .ok ())
    (room : s.table.countFor gate < s.limit) (read : Query.parse pattern.render = .ok q)
    (answer : (Surroundings.dispatch gate (.subscribed id label (q.select s.graph)) s.world).1 =
      delivery)
    (missed : delivery ≠ .delivered) :
    Refusal s id gate (.subscribe pattern label authorization) (notDelivered delivery)
  /-- A query cannot be read. -/
  | unreadableQuery {pattern : Pattern} {authorization : Option String} {e : SyntaxError}
    (allowed : Surroundings.authorize (Request.query pattern authorization).bearer? s.world =
      .ok ())
    (unread : Query.parse pattern.render = .error e) :
    Refusal s id gate (.query pattern authorization) e.toFault
  /-- An update cannot be read to its end. -/
  | unreadableUpdate {sparql : String} {authorization : Option String} {e : SyntaxError}
    (allowed : Surroundings.authorize (Request.update sparql authorization).bearer? s.world =
      .ok ())
    (unread : Operation.parseList sparql = .error e) :
    Refusal s id gate (.update sparql authorization) e.toFault

variable {s : Scheduler ω} {id : SubscriptionId} {gate : GateId} {pattern : Pattern}
  {label authorization : Option String} {fault : Fault} {sparql : String}

theorem fails_subscribe : s.Fails id gate (.subscribe pattern label authorization) fault ↔
    Refusal s id gate (.subscribe pattern label authorization) fault := by
  simp only [Fails, subscribe, execute_eq]
  constructor
  · intro failed
    split at failed
    · rename_i refused
      cases failed
      exact .unauthorized trivial refused
    rename_i allowed
    split at failed
    · rename_i full
      cases failed
      exact .full allowed full
    rename_i room
    rw [Nat.not_le] at room
    split at failed
    · rename_i answer
      cases failed
      obtain ⟨e, unread, rfl⟩ := Graph.execute_eq_error.1 (congrArg Prod.fst answer)
      exact .unreadable allowed room unread
    · rename_i answer
      obtain ⟨found, rfl⟩ := Prod.mk.inj answer
      obtain ⟨q, read, rfl⟩ := Graph.execute_eq_ok.1 found
      obtain ⟨delivery, answer, missed, rfl⟩ := enter_eq_error.1 failed
      exact .undelivered allowed room read answer missed
  · intro refusal
    cases refusal with
    | unauthorized needed refused => simp only [refused]
    | full allowed full => simp only [allowed, if_pos full]
    | unreadable allowed room unread =>
      simp only [allowed, if_neg (Nat.not_le.2 room), Graph.execute_eq_error.2 ⟨_, unread, rfl⟩]
    | undelivered allowed room read answer missed =>
      simp only [allowed, if_neg (Nat.not_le.2 room), Graph.execute_of_parse read]
      exact enter_eq_error.2 ⟨_, answer, missed, rfl⟩

theorem fails_query : s.Fails id gate (.query pattern authorization) fault ↔
    Refusal s id gate (.query pattern authorization) fault := by
  simp only [Fails, query, execute_eq]
  constructor
  · intro failed
    split at failed
    · rename_i refused
      cases failed
      exact .unauthorized trivial refused
    · rename_i allowed
      obtain ⟨e, unread, rfl⟩ := Graph.execute_eq_error.1 failed
      exact .unreadableQuery allowed unread
  · intro refusal
    cases refusal with
    | unauthorized needed refused => simp only [refused]
    | unreadableQuery allowed unread =>
      simp only [allowed, Graph.execute_eq_error.2 ⟨_, unread, rfl⟩]

theorem fails_update : s.Fails id gate (.update sparql authorization) fault ↔
    Refusal s id gate (.update sparql authorization) fault := by
  simp only [Fails, update]
  constructor
  · intro failed
    split at failed
    · rename_i refused
      cases failed
      exact .unauthorized trivial refused
    rename_i allowed
    split at failed
    · rename_i answer
      cases failed
      obtain ⟨e, unread, rfl⟩ := update_eq_error.1 (congrArg Prod.fst answer)
      exact .unreadableUpdate allowed unread
    · cases failed
  · intro refusal
    cases refusal with
    | unauthorized needed refused => simp only [refused]
    | unreadableUpdate allowed unread =>
      simp only [allowed]
      have failed := (update_eq_error (s := s)).2 ⟨_, unread, rfl⟩
      generalize Surroundings.update sparql s.world = answer at failed ⊢
      obtain ⟨outcome, world⟩ := answer
      cases failed
      rfl

/-- Requests fail for the reasons that `Refusal` names, and for no others. -/
theorem fails_iff {request : Request} :
    s.Fails id gate request fault ↔ Refusal s id gate request fault := by
  cases request with
  | subscribe pattern label authorization => exact fails_subscribe
  | update sparql authorization => exact fails_update
  | query pattern authorization => exact fails_query
  | unsubscribe other authorization =>
    refine ⟨False.elim, fun refusal => ?_⟩
    cases refusal with
    | unauthorized needed refused => exact needed

end Failing

/-! ### What a request that fails leaves -/

section Untouched

variable {ω : Type} [Surroundings ω] [InMemory ω] {s after later : Scheduler (Recorded ω)}
  {id : SubscriptionId} {gate : GateId} {request : Request} {fault : Fault}

/-- The graph, the table with its index and the authority with its registry are in `after` what they
were in `s`, and nothing has been handed to any gate but `gate`. -/
structure Untouched (s after : Scheduler (Recorded ω)) (gate : GateId) : Prop where
  table : after.table = s.table
  graph : after.graph = s.graph
  authority : after.authority = s.authority
  handed : ∃ more, after.world.log = s.world.log ++ more ∧ ∀ handed ∈ more, handed.gate = gate

namespace Untouched

theorem refl : Untouched s s gate := ⟨rfl, rfl, rfl, [], by simp, nofun⟩

theorem trans (first : Untouched s after gate) (second : Untouched after later gate) :
    Untouched s later gate := by
  obtain ⟨before, log, asked⟩ := first.handed
  obtain ⟨more, log', asked'⟩ := second.handed
  refine ⟨second.table.trans first.table, second.graph.trans first.graph,
    second.authority.trans first.authority, before ++ more, ?_, fun handed listed => ?_⟩
  · rw [log', log, List.append_assoc]
  · exact (List.mem_append.1 listed).elim (asked handed) (asked' handed)

/-- Handing `message` to `gate` touches nothing. -/
theorem of_world_eq {message : Message} (table : after.table = s.table)
    (world : after.world = (Surroundings.dispatch gate message s.world).2) :
    Untouched s after gate := by
  have same := holdings_of_world_eq world
  refine ⟨table, congrArg Prod.fst same, congrArg Prod.snd same, _, by rw [world, log_dispatch], ?_⟩
  intro handed listed
  rw [List.mem_singleton.1 listed]

theorem reply (s : Scheduler (Recorded ω)) (gate : GateId) (message : Message)
    (counter : Option Counter) : Untouched s (s.reply gate message counter) gate :=
  of_world_eq table_reply world_reply

/-- If the first results of `sub` are not taken, it is removed again, index included. -/
theorem enter (wf : s.table.WellFormed) {sub : Subscription} (fresh : s.table.get? sub.id = none)
    (failed : (s.enter sub).1 = .error fault) : Untouched s (s.enter sub).2 sub.gate := by
  obtain ⟨delivery, answer, missed, -⟩ := enter_eq_error.1 failed
  obtain ⟨-, table, world⟩ := enter_of_not_delivered (answer.symm ▸ missed)
  rw [wf.remove_insert fresh] at table
  exact of_world_eq table world

theorem subscribe (wf : s.table.WellFormed) (fresh : s.table.get? id = none)
    {pattern : Pattern} {label authorization : Option String}
    (failed : (s.subscribe id gate pattern label authorization).1 = .error fault) :
    Untouched s (s.subscribe id gate pattern label authorization).2 gate := by
  obtain ⟨_, refused⟩ | ⟨_, unread⟩ | ⟨initial, -, entered⟩ :=
    s.subscribe_cases id gate pattern label authorization
  · rw [refused]
    exact .refl
  · rw [unread, execute_eq]
    exact .refl
  · rw [entered, execute_eq] at failed ⊢
    exact .enter wf fresh failed

theorem update {sparql : String} {authorization : Option String}
    (failed : (s.update sparql authorization).1 = .error fault) :
    Untouched s (s.update sparql authorization).2 gate := by
  obtain ⟨_, refused⟩ | ⟨_, answer, unread⟩ | ⟨_, done⟩ := s.update_cases sparql authorization
  · rw [refused]
    exact .refl
  · rw [unread]
    have same := holdings_applied_of_error answer
    exact ⟨rfl, congrArg Prod.fst same, congrArg Prod.snd same, [],
      (congrArg Ledger.log (ledger_applied sparql)).trans (List.append_nil _).symm, nofun⟩
  · rw [done] at failed
    cases failed

theorem query (s : Scheduler (Recorded ω)) (gate : GateId) (pattern : Pattern)
    (authorization : Option String) : Untouched s (s.query pattern authorization).2 gate := by
  rw [query_eq]
  exact .refl

end Untouched

/-- A request that ends in `fault` touches nothing before its gate is told of `fault`. -/
theorem process_of_fails (wf : s.table.WellFormed)
    (fresh : ∀ name, (Call.process id gate request).name? = some name → s.table.get? name = none)
    (fails : s.Fails id gate request fault) :
    ∃ before, Untouched s before gate ∧
      s.process id gate request = before.replyFault gate fault := by
  cases request with
  | subscribe pattern label authorization =>
    refine ⟨_, .subscribe wf (fresh id rfl) fails, ?_⟩
    simp only [Fails] at fails
    rw [process]
    generalize s.subscribe id gate pattern label _ = answer at fails ⊢
    obtain ⟨outcome, done⟩ := answer
    cases fails
    rfl
  | unsubscribe other authorization => exact fails.elim
  | update sparql authorization =>
    refine ⟨_, .update fails, ?_⟩
    simp only [Fails] at fails
    rw [process]
    generalize s.update sparql _ = answer at fails ⊢
    obtain ⟨outcome, done⟩ := answer
    cases fails
    rfl
  | query pattern authorization =>
    refine ⟨_, .query s gate pattern (Request.query pattern authorization).bearer?, ?_⟩
    simp only [Fails] at fails
    rw [process]
    generalize s.query pattern _ = answer at fails ⊢
    obtain ⟨outcome, done⟩ := answer
    cases fails
    rfl

/-- Answering the query `pattern` touches nothing, whether it succeeds or not. -/
theorem untouched_process_query (pattern : Pattern) (authorization : Option String) :
    Untouched s (s.process id gate (.query pattern authorization)) gate := by
  have before := Untouched.query s gate pattern
    (Request.query pattern authorization).bearer?
  rw [process]
  generalize s.query pattern _ = answer at before ⊢
  obtain ⟨fault | results, done⟩ := answer
  · exact before.trans (.reply ..)
  · exact before.trans (.reply ..)

/-- Along every run, `request` fails for the reasons that `Refusal` names and for no others. When it
does, the graph, the table with its index and the authority with its registry are as before, no gate
but `gate` is handed anything, and the last that is handed over is the fault. A query changes none
of this either, whether it fails or not. -/
theorem rejected_changes_nothing (reached : Reached s) (id : SubscriptionId) (gate : GateId)
    (request : Request) (fresh : ∀ name, (Call.process id gate request).name? = some name →
      s.ledger.Unseen name) :
    (∀ fault, s.Fails id gate request fault ↔ Refusal s id gate request fault) ∧
    (∀ fault, s.Fails id gate request fault → Untouched s (s.process id gate request) gate ∧
      ∃ delivery, (s.process id gate request).world.log.getLast? =
        some ⟨gate, .ofFault fault, delivery⟩) ∧
    ∀ pattern authorization,
      Untouched s (s.process id gate (.query pattern authorization)) gate := by
  refine ⟨fun fault => fails_iff, fun fault fails => ?_, untouched_process_query⟩
  obtain ⟨before, untouched, told⟩ := process_of_fails (wellFormed_of_reached reached)
    (fun name named => (fresh name named).1) fails
  rw [told]
  refine ⟨untouched.trans (.reply ..), ?_⟩
  rw [replyFault, world_reply, log_dispatch, List.getLast?_concat]
  exact ⟨_, rfl⟩

end Untouched

/-- A broker that everyone may use, without gates. -/
def gateless : World Memory where
  engine := {}
  timeoutMs := 0
  authority := ⟨⟨∅, {}, "", []⟩, "", false⟩
  now := 0
  gates := ∅

/-- The broker of `gateless`, with one triple. -/
def deserted : Scheduler (Recorded (World Memory)) :=
  { limit := 1, world := { world := gateless } : Scheduler (Recorded _) }.perform
    (.update "INSERT DATA \x7b <a> <p> <b> \x7d" none)

/-- A subscription to all triples. -/
def toAllTriples : Request := .subscribe ⟨"SELECT * WHERE \x7b ?s ?p ?o \x7d", ∅⟩ none none

/-- The subscription `toAllTriples`, whose gate is not there, is made and removed again. -/
theorem rejected_changes_nothing_deserted :
    Reached deserted ∧ deserted.Fails default default toAllTriples (notDelivered .gateClosed) ∧
    Untouched deserted (deserted.process default default toAllTriples) default ∧
    (deserted.process default default toAllTriples).world.log.length = 2 := by
  have reached : Reached deserted := .call _ (.start 1 gateless) (by rintro _ ⟨⟩)
  have empty : deserted.table = ∅ := by decide +kernel
  have silent : deserted.world.log.length = 0 := by decide +kernel
  have missing : deserted.world.world.gate? default = none := by decide +kernel
  obtain ⟨reasons, untouched, -⟩ := rejected_changes_nothing reached default default toAllTriples
    fun name _ => ⟨by simp [ledger, empty], by
      simp [ledger, List.length_eq_zero_iff.1 silent]⟩
  have closed (message : Message) :
      (Surroundings.dispatch default message deserted.world).1 = .gateClosed := by
    change (deserted.world.world.dispatch default message).1 = .gateClosed
    rw [World.dispatch, missing]
  have fails : deserted.Fails default default toAllTriples (notDelivered .gateClosed) := by
    obtain ⟨q, read⟩ : ∃ q, (Query.parse "SELECT * WHERE \x7b ?s ?p ?o \x7d").toOption = some q :=
      Option.isSome_iff_exists.1 (by decide +kernel)
    refine (reasons _).2 (.undelivered (ok_of_toOption ?_) ?_ (ok_of_toOption read) (closed _) ?_)
    · decide +kernel
    · decide +kernel
    · decide
  exact ⟨reached, fails, (untouched _ fails).1, by decide +kernel⟩

end GraphBroker.Scheduler
