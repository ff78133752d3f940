import GraphBroker.Proofs.Broker.Isolation
import GraphBroker.Proofs.Broker.Replies
import GraphBroker.Proofs.Scheduler.Counting

/-!
# The counters tell the truth

Along every run of a broker at work, each counter is the number of times that what it counts has
happened since the counters were set to zero. The counters of gates are never set to zero: they say
how many gates are known, and how many have been opened and closed.

A run goes by the steps of a `Service`, in which a request or an update is carried out as a whole.
That a message has been handed over and not been counted yet can happen within such a step, but not
between two steps, and it is the states between steps that this speaks of.

## Main definitions

* `Occurrence`, `Service.journal`: what is counted, and what of it happens in a step.
* `Service.Metered`: a service with all that has happened since the counters were set to zero.
* `Service.Truthful`: the counters agree with what has happened.

## Main statements

* `metrics_receive`, `metrics_carry`, `metrics_amend`: what is counted for a frame, a request and
  an update.
* `Tallied.closeGate`: what is counted for a gate that is closed.
* `tallied_step`: one step.
* `counters_tell_truth`: all of it, along every run.
-/

namespace GraphBroker

open Std
open Handed (taken toGate)

/-- What may happen and is counted. -/
inductive Occurrence where
  /-- A frame completes the message `text` at a gate that is known. -/
  | completed (text : String)
  /-- A `frame` arrives at a gate that is known, and its bytes spell no text. -/
  | unreadable (frame : Frame)
  /-- A `frame` of text arrives at a gate that is known and is not the last of its message. -/
  | fragment (frame : Frame)
  /-- A frame, or the message that it completes, is refused with `fault`. -/
  | rejected (fault : Fault)
  /-- A message is `handed` to a gate. -/
  | handed (message : Handed)

/-- The counter that goes up. -/
def Occurrence.counter? : Occurrence → Option Counter
  | completed _ | unreadable _ => some .messages
  | fragment _ => some .fragmented
  | rejected _ => some .errors
  | handed message => message.counter?

namespace Broker

variable {ε : Type} {b b' : Broker ε} {id other : GateId} {g : Gate} {frame : Frame}
  {seen more : List Occurrence}

/-! ### Frames -/

/-- What happens when `frame` is read at `g`, whether it is refused or not. -/
def reading (g : Gate) (frame : Frame) : List Occurrence :=
  (match frame.chunk? with
    | none => [.unreadable frame]
    | some _ => if frame.isLast then [] else [.fragment frame]) ++
  (g.fragments.take frame).1.toList.map .completed

/-- What happens when `frame` arrives at the gate `id`, apart from what is handed over. -/
def arrival (b : Broker ε) (id : GateId) (frame : Frame) : List Occurrence :=
  match b.gate? id with
  | none => []
  | some gate => reading gate frame ++ (b.verdict id frame).faults.map .rejected

/-- What happens when a frame at `g` is refused with `fault`. -/
def refusal (id : GateId) (g : Gate) (fault : Fault) : List Occurrence :=
  [.rejected fault, .handed ⟨id, .ofFault fault, (g.send (.ofFault fault)).1⟩]

/-- What has arrived of a message makes no difference to what the gate answers. -/
theorem refusal_joined (frame : Frame) : refusal id (g.joined frame) = refusal id g := by
  funext fault
  simp only [refusal, Gate.send, apply_ite Prod.fst]
  rfl

/-- All that happens when `frame` arrives at the gate `id`, in its order. -/
theorem arrival_append_handed (known : b.gate? id = some g) (frame : Frame) :
    b.arrival id frame ++ (b.frameLog id frame).map Occurrence.handed =
      reading g frame ++ (b.verdict id frame).faults.flatMap (refusal id g) := by
  rw [arrival, known, frameLog]
  cases b.verdict id frame with
  | refused fault => simp [Verdict.faults, refusal, World.dispatch_of_known known]
  | dropped | kept | accepted => simp [Verdict.faults]

theorem metrics_reject (known : b.gate? id = some g) (fault : Fault) :
    (b.reject id fault).scheduler.metrics =
      b.scheduler.metrics.countAll ((refusal id g fault).filterMap Occurrence.counter?) := by
  -- Counting the error does not touch the gates.
  have found : (b.count .errors).world.gate? id = some g := known
  have counted : refusal id g fault = [.rejected fault,
    .handed ⟨id, .ofFault fault, (g.send (.ofFault fault)).1⟩] := rfl
  simp only [reject, World.dispatch_of_known found, counted]
  cases (g.send (.ofFault fault)).1 <;> rfl

theorem metrics_message (known : b.gate? id = some g) (text : String) :
    (b.message id g text).scheduler.metrics = b.scheduler.metrics.countAll
      ((.completed text :: (verdictOn b.gateConfig g text).faults.flatMap
        (refusal id g)).filterMap Occurrence.counter?) := by
  have rejected (fault : Fault) : ((b.count .messages).reject id fault).scheduler.metrics =
      b.scheduler.metrics.countAll
        ((.completed text :: [fault].flatMap (refusal id g)).filterMap Occurrence.counter?) := by
    have counted : (b.count .messages).gate? id = some g := known
    rw [metrics_reject counted, List.flatMap_singleton]
    rfl
  rw [message, verdictOn]
  rcases accept b.gateConfig g text with fault | request
  · exact rejected fault
  · dsimp only
    generalize g.forward request = answer
    obtain ⟨fault | _, next⟩ := answer
    · exact rejected fault
    · rfl

/-- Bytes that spell no text count as a message, and as one that is refused: both are in
`reading`. -/
theorem metrics_receive_of_error {error : Utf8.Fault} (known : b.gate? id = some g)
    (read : Utf8.decode frame.bytes = .error error) :
    (b.receive id frame).scheduler.metrics = b.scheduler.metrics.countAll
      ((reading g frame ++ (b.verdict id frame).faults.flatMap (refusal id g)).filterMap
        Occurrence.counter?) := by
  have text : frame.chunk? = none := by rw [Frame.chunk?, read]; rfl
  have counted : (b.count .messages).gate? id = some g := known
  rw [(receive_of_decode_error known read).1, metrics_reject counted, reading, verdict, known,
    read, Fragments.take_of_not_text text, text]
  rfl

/-- The text `chunk` counts as a fragment if it is not the last of its message, and otherwise what
it completes counts as a message. -/
theorem metrics_receive_of_ok {chunk : String} (known : b.gate? id = some g)
    (read : Utf8.decode frame.bytes = .ok chunk) :
    (b.receive id frame).scheduler.metrics = b.scheduler.metrics.countAll
      ((reading g frame ++ (b.verdict id frame).faults.flatMap (refusal id g)).filterMap
        Occurrence.counter?) := by
  have text : frame.chunk? = some chunk := by rw [Frame.chunk?, read]; rfl
  have taken : (g.fragments.take frame).1 =
      (g.fragments.push chunk frame.isLast).1.toOption.join := by
    simp only [Fragments.take, text]
  obtain ⟨c, counted, metrics, config⟩ : ∃ c : Broker ε,
      (if frame.isLast then b else b.count .fragmented) = c ∧
        c.scheduler.metrics = b.scheduler.metrics.countAll
          ((if frame.isLast then [] else [.fragment frame]).filterMap Occurrence.counter?) ∧
        c.gateConfig = b.gateConfig := by
    refine ⟨_, rfl, ?_, ?_⟩ <;> split <;> rfl
  rw [receive_of_chunk known text, reading, verdict, known, read, text, taken, counted,
    List.append_assoc, List.filterMap_append, Metrics.countAll_append, ← metrics, ← config,
    ← refusal_joined frame]
  dsimp only
  -- The fragment is counted. What is left is what is counted for the message.
  rcases (g.fragments.push chunk frame.isLast).1 with fault | _ | whole
  · have rejected := metrics_reject (b := c.putGate id (g.joined frame)) gate?_putGate_self fault
    rwa [← List.flatMap_singleton (refusal id (g.joined frame))] at rejected
  · rfl
  · exact metrics_message (b := c.putGate id (g.joined frame)) gate?_putGate_self whole

/-- What a `frame` counts is what happens when it arrives. -/
theorem metrics_receive (b : Broker ε) (id : GateId) (frame : Frame) :
    (b.receive id frame).scheduler.metrics = b.scheduler.metrics.countAll
      ((b.arrival id frame ++ (b.frameLog id frame).map Occurrence.handed).filterMap
        Occurrence.counter?) := by
  cases known : b.gate? id with
  | none =>
    obtain ⟨dropped, silent⟩ := receive_of_unknown known frame
    rw [dropped, silent, arrival, known]
    rfl
  | some g =>
    rw [arrival_append_handed known]
    cases read : Utf8.decode frame.bytes with
    | error error => exact metrics_receive_of_error known read
    | ok chunk => exact metrics_receive_of_ok known read

/-! ### Requests and updates -/

section

variable [QueryEngine ε]

/-- What a `request` counts is what it hands over. -/
theorem metrics_carry (wf : b.scheduler.table.WellFormed) (id : GateId) (request : Request) :
    (b.carry id request).scheduler.metrics = b.scheduler.metrics.countAll
      (((b.carryLog id request).map Occurrence.handed).filterMap Occurrence.counter?) := by
  have start : Scheduler.Counted b.scheduler.metrics b.recorded := rfl
  rw [scheduler_carry, List.filterMap_map]
  exact start.process wf _ id request

/-- What an update counts is what it hands over. -/
theorem metrics_amend (wf : b.scheduler.table.WellFormed) (sparql : String)
    (authorization : Option String) :
    (b.amend sparql authorization).scheduler.metrics = b.scheduler.metrics.countAll
      (((b.amendLog sparql authorization).map Occurrence.handed).filterMap
        Occurrence.counter?) := by
  have start : Scheduler.Counted b.scheduler.metrics b.recorded := rfl
  rw [scheduler_amend, List.filterMap_map]
  exact start.update wf sparql authorization

end

/-! ### Gates -/

theorem length_gateIds : b.gateIds.length = b.world.gates.size := by
  rw [gateIds, List.length_map, ExtTreeMap.length_toList]

theorem nodup_gateIds : b.gateIds.Nodup := by
  rw [gateIds, ExtTreeMap.map_fst_toList_eq_keys]
  exact ExtTreeMap.nodup_keys

/-- Where the same gates are known in `b` and `b'`, there are as many of them. -/
theorem size_eq_of_known (same : ∀ id, (b'.gate? id).isSome = (b.gate? id).isSome) :
    b'.world.gates.size = b.world.gates.size := by
  rw [← length_gateIds, ← length_gateIds]
  refine ((List.perm_ext_iff_of_nodup nodup_gateIds nodup_gateIds).2 fun id => ?_).length_eq
  rw [mem_gateIds, mem_gateIds, same]

/-- A change of a gate that is known leaves the same gates known. -/
theorem AtGate.isSome (at' : b.AtGate b' id g) (known : (b.gate? id).isSome) (other : GateId) :
    (b'.gate? other).isSome = (b.gate? other).isSome := by
  rw [at'.gates]
  split
  · rename_i same
    rw [← same, known]
    rfl
  · rfl

/-! ### All counters -/

/-- The counters of `b` agree with what it has `seen` since they were set to zero, and with the
gates. -/
structure Tallied (b : Broker ε) (seen : List Occurrence) : Prop where
  /-- The gates that are known are counted. -/
  active : b.scheduler.metrics.active = b.world.gates.size
  /-- A gate that has been opened is known or has been closed. -/
  opened : b.scheduler.metrics.openedGates =
    b.scheduler.metrics.active + b.scheduler.metrics.closedGates
  /-- Each counter has gone up once for each of its occurrences in `seen`. -/
  counted : ∀ counter, b.scheduler.metrics.value counter =
    (seen.filterMap Occurrence.counter?).count counter

namespace Tallied

/-- What happens, here `more`, is counted, and the gates stay known. -/
theorem of_countAll (tallied : b.Tallied seen)
    (known : ∀ id, (b'.gate? id).isSome = (b.gate? id).isSome)
    (metrics : b'.scheduler.metrics =
      b.scheduler.metrics.countAll (more.filterMap Occurrence.counter?)) :
    b'.Tallied (seen ++ more) := by
  have gates : b.scheduler.metrics.SameGates b'.scheduler.metrics := by
    rw [metrics]
    exact Metrics.sameGates_countAll
  refine ⟨?_, ?_, fun counter => ?_⟩
  · rw [gates.active, tallied.active, size_eq_of_known known]
  · rw [gates.openedGates, gates.active, gates.closedGates, tallied.opened]
  · rw [metrics, Metrics.value_countAll, tallied.counted, List.filterMap_append,
      List.count_append]

/-- Nothing is counted, and the gates stay known. -/
theorem of_metrics_eq (tallied : b.Tallied seen)
    (known : ∀ id, (b'.gate? id).isSome = (b.gate? id).isSome)
    (metrics : b'.scheduler.metrics = b.scheduler.metrics) : b'.Tallied seen := by
  rw [← List.append_nil seen]
  exact tallied.of_countAll known metrics

theorem putGate (tallied : b.Tallied seen) (known : b.gate? id = some g) (g' : Gate) :
    (b.putGate id g').Tallied seen :=
  tallied.of_metrics_eq ((atGate_putGate b id g').isSome (by rw [known]; rfl)) rfl

theorem replaceGate (tallied : b.Tallied seen) (g : Gate) : (b.replaceGate id g).Tallied seen := by
  cases known : b.gate? id with
  | none =>
    rw [replaceGate_of_unknown known]
    exact tallied.of_metrics_eq (fun _ => rfl) rfl
  | some h =>
    rw [replaceGate_of_known known]
    exact tallied.putGate known g

theorem dropWriter (tallied : b.Tallied seen) : (b.dropWriter id).Tallied seen := by
  cases known : b.gate? id with
  | none => rwa [Broker.dropWriter, known]
  | some g =>
    rw [Broker.dropWriter, known]
    exact tallied.putGate known _

theorem take (tallied : b.Tallied seen) : (b.take id).2.Tallied seen := by
  cases known : b.gate? id with
  | none => rwa [Broker.take, known]
  | some g =>
    rw [Broker.take, known]
    exact tallied.putGate known _

theorem receive (tallied : b.Tallied seen) (id : GateId) (frame : Frame) :
    (b.receive id frame).Tallied
      (seen ++ (b.arrival id frame ++ (b.frameLog id frame).map Occurrence.handed)) := by
  refine tallied.of_countAll (fun other => ?_) (metrics_receive b id frame)
  cases known : b.gate? id with
  | none => rw [(receive_of_unknown known frame).1]
  | some g => exact (atGate_receive known frame).isSome (by rw [known]; rfl) other

/-- A gate that is opened on `path` under a new name is one more. -/
theorem openGate (tallied : b.Tallied seen) (new : b.gate? ⟨b.supply.uuid⟩ = none)
    (path : String) : (b.openGate path).2.Tallied seen := by
  have size : (b.openGate path).2.world.gates.size = b.world.gates.size + 1 := by
    change (b.world.gates.insert _ _).size = _
    rw [ExtTreeMap.size_insert, if_neg]
    rw [← ExtTreeMap.mem_iff_contains, ExtTreeMap.mem_iff_isSome_getElem?]
    exact fun known => Option.isSome_iff_ne_none.1 known new
  refine ⟨?_, ?_, fun counter => ?_⟩
  · rw [size, ← tallied.active]
    rfl
  · change b.scheduler.metrics.openedGates + 1 =
      b.scheduler.metrics.active + 1 + b.scheduler.metrics.closedGates
    rw [tallied.opened]
    omega
  · exact Metrics.value_opened.trans (tallied.counted counter)

/-- A gate `id` that is closed is one less. -/
theorem closeGate (tallied : b.Tallied seen) (id : GateId) :
    (b.closeGate id).2.Tallied seen := by
  cases known : b.gate? id with
  | none => rwa [closeGate_of_unknown known]
  | some g =>
    have within : id ∈ b.world.gates :=
      ExtTreeMap.mem_iff_isSome_getElem?.2 (Option.isSome_iff_exists.2 ⟨g, known⟩)
    have size : (b.closeGate id).2.world.gates.size = b.world.gates.size - 1 := by
      rw [Broker.closeGate, known]
      change (b.world.gates.erase id).size = _
      rw [ExtTreeMap.size_erase, if_pos (ExtTreeMap.mem_iff_contains.1 within)]
    have metrics : (b.closeGate id).2.scheduler.metrics = b.scheduler.metrics.closed := by
      rw [Broker.closeGate, known]
      rfl
    -- The gate that is closed was one of those counted.
    have positive : 0 < b.world.gates.size := by
      rw [← length_gateIds]
      exact List.length_pos_of_mem (mem_gateIds.2 (by rw [known]; rfl))
    refine ⟨?_, ?_, fun counter => ?_⟩
    · rw [size, metrics, ← tallied.active]
      rfl
    · rw [metrics]
      change b.scheduler.metrics.openedGates =
        b.scheduler.metrics.active - 1 + (b.scheduler.metrics.closedGates + 1)
      have active := tallied.active
      rw [tallied.opened]
      omega
    · rw [metrics]
      exact Metrics.value_closed.trans (tallied.counted counter)

theorem closeAll (tallied : b.Tallied seen) : b.closeAll.Tallied seen := by
  have closing (ids : List GateId) :
      (ids.foldl (fun b id => (b.closeGate id).2) b).Tallied seen := by
    induction ids generalizing b with
    | nil => exact tallied
    | cons first rest ih => exact ih (tallied.closeGate first)
  exact closing b.gateIds

theorem shutdown [QueryEngine ε] (tallied : b.Tallied seen) : b.shutdown.Tallied seen := by
  have signalled : { b with signalled := true }.Tallied seen :=
    ⟨tallied.active, tallied.opened, tallied.counted⟩
  exact signalled.closeAll.of_metrics_eq (fun _ => rfl) rfl

theorem carry [QueryEngine ε] (tallied : b.Tallied seen) (wf : b.scheduler.table.WellFormed)
    (id : GateId) (request : Request) : (b.carry id request).Tallied
      (seen ++ (b.carryLog id request).map Occurrence.handed) :=
  tallied.of_countAll (handing_carry b id request).isSome_gate? (metrics_carry wf id request)

theorem amend [QueryEngine ε] (tallied : b.Tallied seen) (wf : b.scheduler.table.WellFormed)
    (sparql : String) (authorization : Option String) : (b.amend sparql authorization).Tallied
      (seen ++ (b.amendLog sparql authorization).map Occurrence.handed) :=
  tallied.of_countAll (handing_amend b sparql authorization).isSome_gate?
    (metrics_amend wf sparql authorization)

/-- Setting the counters to zero leaves out what was `seen` before. -/
theorem reset (tallied : b.Tallied seen) : (b.record Metrics.reset).Tallied [] :=
  ⟨tallied.active, tallied.opened, fun _ => Metrics.value_reset⟩

/-- The `counter` is the number of times that what it counts, told by `kind`, has happened. -/
theorem value_eq (tallied : b.Tallied seen) (counter : Counter) {kind : Occurrence → Bool}
    (same : ∀ o, (o.counter? == some counter) = kind o) :
    b.scheduler.metrics.value counter = seen.countP kind := by
  rw [tallied.counted, List.count_filterMap]
  simp only [same]

end Tallied

end Broker

/-! ### Runs -/

namespace Service

variable {ε : Type} [QueryEngine ε] {s : Service ε} {next : Step ε} {seen : List Occurrence}
  {steps : List (Step ε)}

/-- What happens in a step when a frame arrives, apart from what is handed over. -/
def arrivals (s : Service ε) : Step ε → List Occurrence
  | .arrives id frame => s.broker.arrival id frame
  | _ => []

/-- What happens in the step `next` and is counted. -/
def journal (s : Service ε) (next : Step ε) : List Occurrence :=
  s.arrivals next ++ (s.log next).map .handed

/-- The counters are set to zero. -/
def reset (s : Service ε) : Service ε :=
  { s with broker := s.broker.record Metrics.reset }

/-- A service that has been at work, with all that it has `seen` since its counters were set to
zero. -/
inductive Metered : Service ε → List Occurrence → Prop
  /-- Nobody has used the service yet. -/
  | start {s : Service ε} (idle : s.Idle) (zero : s.broker.scheduler.metrics = {}) : Metered s []
  /-- The step `next` has been taken. The names that it draws are not in use. -/
  | step {s : Service ε} {seen : List Occurrence} {next : Step ε} (metered : Metered s seen)
    (fresh : s.Fresh next) : Metered (s.step next) (seen ++ s.journal next)
  /-- The counters have been set to zero. -/
  | reset {s : Service ε} {seen : List Occurrence} (metered : Metered s seen) : Metered s.reset []

/-- A service that goes on with `steps` goes on counting. -/
theorem Metered.run (metered : Metered s seen) (fresh : s.Throughout Fresh steps) :
    Metered (s.run steps) (seen ++ s.along journal steps) := by
  induction steps generalizing s seen with
  | nil => rwa [along, List.append_nil]
  | cons next rest ih =>
    rw [along, ← List.append_assoc]
    exact ih (metered.step fresh.1) fresh.2

theorem tallied_step (tallied : s.broker.Tallied seen) (wf : s.table.WellFormed)
    (fresh : s.Fresh next) : (s.step next).broker.Tallied (seen ++ s.journal next) := by
  -- In most steps nothing is counted one by one.
  have quiet (silent : s.journal next = []) (same : (s.step next).broker.Tallied seen) :
      (s.step next).broker.Tallied (seen ++ s.journal next) := by
    rwa [silent, List.append_nil]
  cases next with
  | opens path =>
    have new : s.broker.gate? ⟨s.broker.supply.uuid⟩ = none := (Option.or_eq_none_iff.1 fresh).1
    exact quiet rfl (tallied.openGate new path)
  | arrives id frame => exact tallied.receive id frame
  | picks id =>
    refine quiet rfl ?_
    obtain still | ⟨request, b, -, picked, after⟩ := s.step_picks_cases id
    · rwa [still]
    · obtain ⟨g, later, -, -, rfl⟩ := Broker.pick?_eq_some picked
      rw [after]
      exact tallied.replaceGate _
  | carries id =>
    cases held : s.inHand id with
    | none =>
      obtain ⟨still, silent⟩ := carries_of_idle held
      refine quiet ?_ (by rwa [still])
      rw [journal, silent]
      rfl
    | some request =>
      obtain ⟨carried, log⟩ := carries_of_held held
      rw [carried, journal, log]
      exact tallied.carry wf id request
  | amends sparql authorization => exact tallied.amend wf sparql authorization
  | closes id => exact quiet rfl (tallied.closeGate id)
  | ends => exact quiet rfl tallied.shutdown
  | dropsWriter id => exact quiet rfl tallied.dropWriter
  | takes id => exact quiet rfl tallied.take
  | elapses => exact quiet rfl (tallied.of_metrics_eq (fun _ => rfl) rfl)

theorem Metered.tallied (metered : Metered s seen) :
    s.broker.Tallied seen ∧ s.broker.Housed := by
  induction metered with
  | @start s idle zero =>
    -- In the beginning no gate is known, and every counter stands at zero.
    have none : s.broker.gateIds = [] := List.eq_nil_iff_forall_not_mem.2 fun id listed => by
      rw [Broker.mem_gateIds, idle.unopened] at listed
      cases listed
    refine ⟨⟨?_, ?_, fun counter => ?_⟩, idle.housed⟩
    · rw [zero, ← Broker.length_gateIds, none]
      rfl
    · rw [zero]
      rfl
    · rw [zero]
      cases counter <;> rfl
  | step _ fresh ih => exact ⟨tallied_step ih.1 ih.2.wellFormed fresh, housed_step ih.2 fresh⟩
  | reset _ ih => exact ⟨ih.1.reset, ih.2.of_table_eq rfl fun _ known => known⟩

/-- The queue of the gate `id` gains what the gate takes of what is in `log`. -/
theorem queue_of_handing {log : List Handed}
    (handing : s.broker.world.Handing log (s.step next).broker.world) (id : GateId) :
    (s.step next).queue id = s.queue id ++ taken (toGate log id) := by
  cases known : s.broker.gate? id with
  | none =>
    -- A gate that is not known has no queue, and takes nothing.
    obtain ⟨still, closed⟩ := handing.unknown known
    have nothing : taken (toGate log id) = [] := by
      rw [taken, List.filter_eq_nil_iff.2, List.map_nil]
      intro handed listed
      obtain ⟨listed, asked⟩ := mem_toGate.1 listed
      simp [closed handed listed asked]
    have unknown : (s.step next).broker.gate? id = none := still
    rw [nothing, queue, queue, known, unknown]
    rfl
  | some g =>
    obtain ⟨g', after, told⟩ := handing.told known
    rw [queue_of_known known, queue_of_known after, told.outbound]

/-- What is handed over in the step `next` and taken is what the queues of the gates gain. -/
theorem queue_step (speaks : s.log next ≠ []) (id : GateId) :
    (s.step next).queue id = s.queue id ++ taken (toGate (s.log next) id) := by
  cases next with
  | arrives other frame =>
    by_cases same : other = id
    · subst same
      cases known : s.broker.gate? other with
      | none => exact absurd (Broker.receive_of_unknown known frame).2 speaks
      | some g =>
        obtain ⟨g', told, after⟩ := Broker.told_receive known frame
        have gate : (s.step (.arrives other frame)).broker.gate? other = _ :=
          ((Broker.atGate_receive known frame).gates other).trans (if_pos rfl)
        rw [log, Broker.toGate_frameLog, if_pos rfl, queue_of_known known, queue_of_known gate,
          after, told.outbound]
        rfl
    · rw [log, Broker.toGate_frameLog, if_neg same, queue, queue, step,
        (Broker.spared_receive frame same).gate]
      exact (List.append_nil _).symm
  | carries other =>
    cases held : s.inHand other with
    | none => exact absurd (carries_of_idle held).2 speaks
    | some request =>
      obtain ⟨after, handed⟩ := carries_of_held held
      refine queue_of_handing ?_ id
      rw [after, handed]
      exact Broker.handing_carry s.broker other request
  | amends sparql authorization => exact queue_of_handing (Broker.handing_amend ..) id
  | _ => exact absurd rfl speaks

/-- The counters of `s` agree with the gates, and with what it has `seen` since they were set to
zero. -/
structure Truthful (s : Service ε) (seen : List Occurrence) : Prop where
  /-- The gates that are active are those that are known. -/
  active : s.broker.scheduler.metrics.active = s.broker.world.gates.size
  /-- No more gates have been closed than opened. -/
  closedGates : s.broker.scheduler.metrics.closedGates ≤ s.broker.scheduler.metrics.openedGates
  /-- The gates that are active are those that have been opened and not been closed. -/
  openedGates : s.broker.scheduler.metrics.active =
    s.broker.scheduler.metrics.openedGates - s.broker.scheduler.metrics.closedGates
  /-- What a gate `id` takes in the step `next` is what its queue gains. -/
  queues : ∀ {next}, s.log next ≠ [] → ∀ id,
    (s.step next).queue id = s.queue id ++ taken (toGate (s.log next) id)
  /-- Messages are those that were completed and the frames that could not be read. -/
  messages : s.broker.scheduler.metrics.messages =
    seen.countP (· matches .completed _) + seen.countP (· matches .unreadable _)
  /-- Fragments are the frames that were not the last of their message. -/
  fragmented : s.broker.scheduler.metrics.fragmented = seen.countP (· matches .fragment _)
  /-- Errors are the frames and the messages that were refused. -/
  errors : s.broker.scheduler.metrics.errors = seen.countP (· matches .rejected _)
  /-- Replies to subscriptions are those that gates have taken. -/
  subscribeResponses : s.broker.scheduler.metrics.subscribeResponses =
    seen.countP (· matches .handed ⟨_, .subscribed .., .delivered⟩)
  /-- Replies to the end of a subscription are those that gates have taken. -/
  unsubscribeResponses : s.broker.scheduler.metrics.unsubscribeResponses =
    seen.countP (· matches .handed ⟨_, .unsubscribed _, .delivered⟩)
  /-- Notifications are those that gates have taken. -/
  notifications : s.broker.scheduler.metrics.notifications =
    seen.countP (· matches .handed ⟨_, .notification _, .delivered⟩)
  /-- Errors that were handed over are those that gates have taken. -/
  errorResponses : s.broker.scheduler.metrics.errorResponses =
    seen.countP (· matches .handed ⟨_, .error _, .delivered⟩)

/-- Along every run from the start in which new names are not in use, the counters tell the truth
about what the service has `seen` (`Truthful`), however often they are set to zero. -/
theorem counters_tell_truth (metered : Metered s seen) : s.Truthful seen := by
  have tallied := metered.tallied.1
  have opened := tallied.opened
  refine ⟨tallied.active, by omega, by omega, queue_step, ?_, tallied.value_eq .fragmented ?_,
    tallied.value_eq .errors ?_, tallied.value_eq .subscribeResponses ?_,
    tallied.value_eq .unsubscribeResponses ?_, tallied.value_eq .notifications ?_,
    tallied.value_eq .errorResponses ?_⟩
  · -- Two kinds of occurrences are counted as messages.
    rw [show s.broker.scheduler.metrics.messages = _ from
      tallied.value_eq .messages (fun _ => rfl),
      List.countP_eq_countP_filter_add _ _ (· matches .completed _), List.countP_filter,
      List.countP_filter]
    congr 2 <;> funext o <;>
      obtain _ | _ | _ | _ | ⟨_, (_ | _ | _ | _ | _ | _), (_ | _ | _)⟩ := o <;> rfl
  all_goals
    rintro (_ | _ | _ | _ | ⟨_, (_ | _ | _ | _ | _ | _), (_ | _ | _)⟩) <;> rfl

/-- Two gates are opened, and the first one asks for a subscription. -/
def greeting : List (Step Memory) :=
  let first : GateId := ⟨.ofNat 0⟩
  [.opens "/subscribe", .opens "/subscribe", .arrives first subscribesToAll, .picks first,
    .carries first]

/-- The second gate is sent what spells no text, a triple is inserted, and the second gate is
closed. -/
def refusalAndUpdate : List (Step Memory) :=
  let second : GateId := ⟨.ofNat 1⟩
  [.arrives second (.text "\x7b" false), .arrives second (.binary [255] true),
    .amends "INSERT DATA \x7b <a:b> <a:c> <a:d> \x7d" none, .closes second]

/-- After `greeting` the counters are set to zero, but not those of gates, and then
`refusalAndUpdate` is counted. -/
theorem counters_tell_truth_after_reset :
    ∃ seen, Metered ((unused.run greeting).reset.run refusalAndUpdate) seen ∧
      ((unused.run greeting).reset.run refusalAndUpdate).Truthful seen ∧
      (unused.run greeting).broker.scheduler.metrics.subscribeResponses = 1 ∧
      ((unused.run greeting).reset.run refusalAndUpdate).broker.scheduler.metrics =
        { active := 1, openedGates := 2, closedGates := 1, messages := 1, fragmented := 1,
          errors := 1, notifications := 1, errorResponses := 1 } := by
  have idle : unused.Idle := ⟨fun id => ExtTreeMap.getElem?_empty, rfl⟩
  have first : unused.Throughout Fresh greeting := by decide +kernel
  have second : (unused.run greeting).reset.Throughout Fresh refusalAndUpdate := by decide +kernel
  have metered := ((Metered.start idle rfl).run first).reset.run second
  exact ⟨_, metered, counters_tell_truth metered, by decide +kernel, by decide +kernel⟩

end Service

end GraphBroker
