import GraphBroker.Proofs.Broker.Frames
import GraphBroker.Proofs.Broker.HandOffs

/-!
# What becomes of a frame

A frame that arrives at a gate is kept with what has arrived before, or completes a message that
makes a request for the worker, or it is refused. Whatever it is, the broker changes only this
gate and what it counts.

## Main definitions

* `Verdict`, `Broker.verdict`: what becomes of a frame.
* `Gate.Refuses`: the reasons for which an open gate refuses a frame.
* `Broker.AtGate`: a broker after a change of one gate.

## Main statements

* `atGate_receive`: a frame changes its gate alone.
* `verdict_eq_refused_iff`: frames are refused for the reasons named, and for no others.
-/

namespace GraphBroker

/-- What becomes of a frame. -/
inductive Verdict where
  /-- Its gate is not known, and it is dropped. -/
  | dropped
  /-- It is kept until its message is complete. -/
  | kept
  /-- It completes a message that makes a `request`, which is left to the worker. -/
  | accepted (request : Request)
  /-- It is refused with `fault`. -/
  | refused (fault : Fault)

/-- The request that is left to the worker, if one is. -/
def Verdict.requests : Verdict → List Request
  | accepted request => [request]
  | dropped | kept | refused _ => []

/-- The fault for which a frame is refused, if it is. -/
def Verdict.faults : Verdict → List Fault
  | refused fault => [fault]
  | dropped | kept | accepted _ => []

/-- The gate `g` after the verdict on a frame that has arrived at it. -/
def Gate.after (g : Gate) : Verdict → Gate
  | .refused fault => (g.send (.ofFault fault)).2
  | .accepted request => { g with requests := g.requests ++ [request] }
  | .dropped | .kept => g

/-- A `request` that is taken waits behind the others. -/
theorem Gate.forward_eq (g : Gate) (request : Request)
    (taken : (g.forward request).1 = .ok ()) :
    (g.forward request).2 = { g with requests := g.requests ++ [request] } := by
  unfold forward at taken ⊢
  split
  · rename_i shut
    rw [if_pos shut] at taken
    cases taken
  · split
    · rfl
    · rename_i shut full
      rw [if_neg shut, if_neg full] at taken
      cases taken

namespace Broker

variable {ε : Type} {b b' : Broker ε} {id other : GateId} {g g' : Gate} {frame : Frame}
  {fault : Fault}

/-- What becomes of `text`, if it is a whole message at `gate`. -/
def verdictOn (config : GateConfig) (gate : Gate) (text : String) : Verdict :=
  match accept config gate text with
  | .error fault => .refused fault
  | .ok request =>
    match (gate.forward request).1 with
    | .error fault => .refused fault
    | .ok () => .accepted request

/-- What becomes of `frame` when it arrives at the gate `id`. -/
def verdict (b : Broker ε) (id : GateId) (frame : Frame) : Verdict :=
  match b.gate? id with
  | none => .dropped
  | some gate =>
    match Utf8.decode frame.bytes with
    | .error fault => .refused (notUtf8 fault)
    | .ok chunk =>
      match (gate.fragments.push chunk frame.isLast).1 with
      | .error fault => .refused fault
      | .ok none => .kept
      | .ok (some text) => verdictOn b.gateConfig (gate.joined frame) text

/-! ### A change of one gate -/

/-- The broker `b'` is `b` after the gate `id` has become `g'`, but for what is counted. -/
structure AtGate (b b' : Broker ε) (id : GateId) (g' : Gate) : Prop where
  /-- Only the gate `id` has changed. -/
  gates : ∀ other, b'.gate? other = if id = other then some g' else b.gate? other
  /-- No subscription has changed. -/
  table : b'.scheduler.table = b.scheduler.table
  /-- No gate has been closed. -/
  departed : b'.departed = b.departed
  /-- Nothing has been drawn. -/
  supply : b'.supply = b.supply
  /-- The engine has not been called on. -/
  engine : b'.world.engine = b.world.engine
  /-- The authority has not changed. -/
  authority : b'.world.authority = b.world.authority

theorem atGate_putGate (b : Broker ε) (id : GateId) (g : Gate) :
    b.AtGate (b.putGate id g) id g where
  gates _ := gate?_putGate
  table := rfl
  departed := rfl
  supply := rfl
  engine := rfl
  authority := rfl

namespace AtGate

theorem count (at' : b.AtGate b' id g) (counter : Counter) : b.AtGate (b'.count counter) id g where
  __ := at'

theorem of_count {counter : Counter} (at' : (b.count counter).AtGate b' id g) :
    b.AtGate b' id g where
  __ := at'

theorem trans (first : b.AtGate b' id g) {b'' : Broker ε} (second : b'.AtGate b'' id g') :
    b.AtGate b'' id g' where
  gates other := by
    rw [second.gates, first.gates]
    split <;> rfl
  table := second.table.trans first.table
  departed := second.departed.trans first.departed
  supply := second.supply.trans first.supply
  engine := second.engine.trans first.engine
  authority := second.authority.trans first.authority

end AtGate

theorem atGate_reject (known : b.gate? id = some g) (fault : Fault) :
    b.AtGate (b.reject id fault) id (g.send (.ofFault fault)).2 := by
  have found : (b.count .errors).world.gate? id = some g := known
  simp only [reject, World.dispatch_of_known found]
  split
  · exact ((atGate_putGate (b.count .errors) id _).count .errorResponses).of_count
  · exact (atGate_putGate (b.count .errors) id _).of_count

/-! ### A frame -/

theorem atGate_message (known : b.gate? id = some g) (text : String) :
    b.AtGate (b.message id g text) id (g.after (verdictOn b.gateConfig g text)) := by
  have counted : (b.count .messages).gate? id = some g := known
  rw [message, verdictOn]
  rcases accept b.gateConfig g text with fault | request
  · exact (atGate_reject counted fault).of_count
  · have left := g.forward_eq request
    dsimp only
    generalize g.forward request = answer at left ⊢
    obtain ⟨fault | _, next⟩ := answer
    · exact (atGate_reject counted fault).of_count
    · obtain rfl := left rfl
      exact (atGate_putGate (b.count .messages) id _).of_count

/-- Bytes that spell no text are refused. -/
theorem receive_of_decode_error {error : Utf8.Fault} (known : b.gate? id = some g)
    (read : Utf8.decode frame.bytes = .error error) :
    b.receive id frame = (b.count .messages).reject id (notUtf8 error) ∧ g.joined frame = g := by
  have other : frame.chunk? = none := by rw [Frame.chunk?, read]; rfl
  refine ⟨?_, by rw [Gate.joined, Fragments.take_of_not_text other]⟩
  cases frame with
  | text chunk isLast =>
    rw [Frame.chunk?_text] at other
    cases other
  | binary bytes isLast =>
    rw [Frame.bytes] at read
    rw [receive, binaryFrame, read, known]

/-- A `frame` changes its gate alone. -/
theorem atGate_receive (known : b.gate? id = some g) (frame : Frame) :
    b.AtGate (b.receive id frame) id ((g.joined frame).after (b.verdict id frame)) := by
  rw [verdict, known]
  cases read : Utf8.decode frame.bytes with
  | error error =>
    obtain ⟨refused, same⟩ := receive_of_decode_error known read
    rw [refused, same]
    exact (atGate_reject (b := b.count .messages) known _).of_count
  | ok chunk =>
    have text : frame.chunk? = some chunk := by rw [Frame.chunk?, read]; rfl
    -- Whether a fragment is counted makes no difference to the gate.
    obtain ⟨c, counted, put, config⟩ : ∃ c : Broker ε,
        (if frame.isLast then b else b.count .fragmented) = c ∧
          (∀ h, b.AtGate (c.putGate id h) id h) ∧ c.gateConfig = b.gateConfig := by
      refine ⟨_, rfl, fun h => ?_, ?_⟩ <;> split
      · exact atGate_putGate b id h
      · exact (atGate_putGate (b.count .fragmented) id h).of_count
      · rfl
      · rfl
    rw [receive_of_chunk known text, counted, ← config]
    dsimp only
    rcases (g.fragments.push chunk frame.isLast).1 with fault | _ | whole
    · exact (put _).trans (atGate_reject gate?_putGate_self fault)
    · exact put _
    · exact (put _).trans (atGate_message gate?_putGate_self whole)

end Broker

/-! ### Reasons to refuse a frame -/

/-- Why an open gate `g` refuses `frame`. -/
inductive Gate.Refuses (config : GateConfig) (g : Gate) (frame : Frame) : Fault → Prop
  /-- The bytes of `frame` spell no text. -/
  | notText {error : Utf8.Fault} (unread : Utf8.decode frame.bytes = .error error) :
    Refuses config g frame (Broker.notUtf8 error)
  /-- The message grows too large with `chunk`. -/
  | overflow {chunk : String} (read : Utf8.decode frame.bytes = .ok chunk)
    (large : g.fragments.maxSize < g.fragments.buffer.utf8ByteSize + chunk.utf8ByteSize) :
    Refuses config g frame (Fragments.tooLarge g.fragments.maxSize
      (g.fragments.buffer.utf8ByteSize + chunk.utf8ByteSize))
  /-- The connection was opened on a path that is not served. -/
  | wrongPath {text : String} (whole : (g.fragments.take frame).1 = some text)
    (unserved : g.path ≠ config.path) :
    Refuses config g frame (Broker.wrongPath g.path config.path)
  /-- The message `text` is too large or blank. -/
  | inadmissible {text : String} {fault : Fault} (whole : (g.fragments.take frame).1 = some text)
    (served : g.path = config.path)
    (refused : Request.admissible config.maxMessageSize text = .error fault) :
    Refuses config g frame fault
  /-- The message `text` spells no request. -/
  | unparsable {text : String} {fault : Fault} (whole : (g.fragments.take frame).1 = some text)
    (served : g.path = config.path)
    (admissible : Request.admissible config.maxMessageSize text = .ok ())
    (unread : Request.read text = .error fault) :
    Refuses config g frame fault
  /-- Too many requests wait for one more, `request`, or nobody takes them. -/
  | unforwarded {text : String} {request : Request} {fault : Fault}
    (whole : (g.fragments.take frame).1 = some text)
    (read : Broker.accept config g text = .ok request)
    (refused : (g.forward request).1 = .error fault) :
    Refuses config g frame fault

namespace Broker

theorem accept_eq_error_iff {config : GateConfig} {g : Gate} {text : String} {fault : Fault} :
    accept config g text = .error fault ↔
      g.path ≠ config.path ∧ wrongPath g.path config.path = fault ∨
      g.path = config.path ∧ (Request.admissible config.maxMessageSize text = .error fault ∨
        Request.admissible config.maxMessageSize text = .ok () ∧
          Request.read text = .error fault) := by
  unfold accept
  by_cases served : g.path = config.path
  · rcases Request.admissible config.maxMessageSize text with other | _ <;>
      simp [served, bind, Except.bind]
  · simp [served, bind, Except.bind, throw, throwThe, MonadExceptOf.throw]

variable {ε : Type} {b : Broker ε} {id other : GateId} {g : Gate} {frame : Frame} {fault : Fault}

theorem forward_joined (request : Request) :
    ((g.joined frame).forward request).1 = (g.forward request).1 := by
  simp only [Gate.forward, apply_ite Prod.fst]
  rfl

theorem verdictOn_eq_refused_iff {config : GateConfig} {text : String} :
    verdictOn config (g.joined frame) text = .refused fault ↔
      accept config g text = .error fault ∨
        ∃ request, accept config g text = .ok request ∧
          (g.forward request).1 = .error fault := by
  have same : accept config (g.joined frame) text = accept config g text := rfl
  rw [verdictOn, same]
  rcases accept config g text with other | request
  · simp
  · simp only [forward_joined]
    cases forwarded : (g.forward request).1 <;> simp [forwarded]

theorem push_eq_error_iff {f : Fragments} {chunk : String} {isLast : Bool} :
    (f.push chunk isLast).1 = .error fault ↔
      f.maxSize < f.buffer.utf8ByteSize + chunk.utf8ByteSize ∧
        Fragments.tooLarge f.maxSize (f.buffer.utf8ByteSize + chunk.utf8ByteSize) = fault := by
  simp only [Fragments.push]
  split
  · simp [*]
  · split
    · simp [*]
    · split <;> simp [*]

/-- A `frame` is refused when it is read, when it is put together with what has arrived, or when the
message is whole. -/
theorem refuses_iff {config : GateConfig} : g.Refuses config frame fault ↔
    (∃ error, Utf8.decode frame.bytes = .error error ∧ notUtf8 error = fault) ∨
    (∃ chunk, Utf8.decode frame.bytes = .ok chunk ∧
      (g.fragments.push chunk frame.isLast).1 = .error fault) ∨
    ∃ text, (g.fragments.take frame).1 = some text ∧ (accept config g text = .error fault ∨
      ∃ request, accept config g text = .ok request ∧
        (g.forward request).1 = .error fault) := by
  simp only [push_eq_error_iff, accept_eq_error_iff]
  constructor
  · intro refuses
    cases refuses with
    | notText unread => exact .inl ⟨_, unread, rfl⟩
    | overflow read large => exact .inr (.inl ⟨_, read, large, rfl⟩)
    | wrongPath whole unserved => exact .inr (.inr ⟨_, whole, .inl (.inl ⟨unserved, rfl⟩)⟩)
    | inadmissible whole served refused =>
      exact .inr (.inr ⟨_, whole, .inl (.inr ⟨served, .inl refused⟩)⟩)
    | unparsable whole served admissible unread =>
      exact .inr (.inr ⟨_, whole, .inl (.inr ⟨served, .inr ⟨admissible, unread⟩⟩)⟩)
    | unforwarded whole read refused => exact .inr (.inr ⟨_, whole, .inr ⟨_, read, refused⟩⟩)
  · rintro (⟨error, unread, rfl⟩ | ⟨chunk, read, large, rfl⟩ |
      ⟨text, whole, (⟨unserved, rfl⟩ | ⟨served, refused | ⟨admissible, unread⟩⟩) |
        ⟨request, read, refused⟩⟩)
    · exact .notText unread
    · exact .overflow read large
    · exact .wrongPath whole unserved
    · exact .inadmissible whole served refused
    · exact .unparsable whole served admissible unread
    · exact .unforwarded whole read refused

/-- A `frame` is refused for one of the reasons that `Gate.Refuses` names. -/
theorem verdict_eq_refused_iff (known : b.gate? id = some g) :
    b.verdict id frame = .refused fault ↔ g.Refuses b.gateConfig frame fault := by
  rw [verdict, known, refuses_iff]
  -- A frame completes a message if it can be read and put together with what has arrived.
  have taken : (g.fragments.take frame).1 = (Utf8.decode frame.bytes).toOption.bind fun chunk =>
      (g.fragments.push chunk frame.isLast).1.toOption.join := by
    rw [Fragments.take, Frame.chunk?]
    rcases Utf8.decode frame.bytes with error | chunk <;> rfl
  rw [taken]
  rcases Utf8.decode frame.bytes with error | chunk
  · simp [Except.toOption]
  · rcases pushed : (g.fragments.push chunk frame.isLast).1 with other | _ | text <;>
      simp [Except.toOption, pushed, verdictOn_eq_refused_iff]

/-! ### What a frame hands over -/

/-- What `frame` hands over: the fault, if it is refused. -/
def frameLog (b : Broker ε) (id : GateId) (frame : Frame) : List Handed :=
  match b.verdict id frame with
  | .refused fault => [⟨id, .ofFault fault, (b.world.dispatch id (.ofFault fault)).1⟩]
  | _ => []

/-- Only the gate `id`, at which `frame` arrives, is told. -/
theorem gate_eq_of_mem_frameLog {handed : Handed} (listed : handed ∈ b.frameLog id frame) :
    handed.gate = id := by
  unfold frameLog at listed
  split at listed
  · rw [List.mem_singleton.1 listed]
  · cases listed

theorem toGate_frameLog : Handed.toGate (b.frameLog id frame) other =
    if id = other then b.frameLog id frame else [] := by
  split
  · rename_i same
    exact List.filter_eq_self.2 fun handed listed =>
      decide_eq_true ((gate_eq_of_mem_frameLog listed).trans same)
  · rename_i different
    refine List.filter_eq_nil_iff.2 fun handed listed => ?_
    rw [gate_eq_of_mem_frameLog listed, decide_eq_true_iff]
    exact different

/-- A `frame` that arrives at a gate that is not known is dropped. -/
theorem receive_of_unknown (unknown : b.gate? id = none) (frame : Frame) :
    b.receive id frame = b ∧ b.frameLog id frame = [] := by
  have dropped : b.frameLog id frame = [] := by rw [frameLog, verdict, unknown]
  refine ⟨?_, dropped⟩
  cases frame with
  | text chunk isLast => rw [receive, Broker.frame, unknown]
  | binary bytes isLast =>
    rw [receive, binaryFrame]
    split
    · rw [Broker.frame, unknown]
    · rw [unknown]

/-- A `frame` that is refused is answered by one message, and any other frame by none. A request
that is accepted waits behind the others. -/
theorem told_receive (known : b.gate? id = some g) (frame : Frame) :
    ∃ g', (g.joined frame).Told (b.frameLog id frame) g' ∧
      (g.joined frame).after (b.verdict id frame) =
        { g' with requests := g.requests ++ (b.verdict id frame).requests } := by
  have same (message : Message) :
      (b.world.dispatch id message).1 = ((g.joined frame).send message).1 := by
    rw [World.dispatch_of_known known]
    simp only [Gate.send, apply_ite Prod.fst]
    rfl
  rw [frameLog]
  cases b.verdict id frame with
  | refused fault =>
    dsimp only
    rw [same]
    refine ⟨_, .send id _ .start, ?_⟩
    rw [Gate.after, Gate.send_eq, Verdict.requests, List.append_nil]
    rfl
  | accepted request => exact ⟨_, .start, rfl⟩
  | dropped | kept => exact ⟨_, .start, by rw [Verdict.requests, List.append_nil]; rfl⟩

end Broker

end GraphBroker
