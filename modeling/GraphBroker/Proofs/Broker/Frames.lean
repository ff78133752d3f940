import GraphBroker.Proofs.Broker.Gates
import GraphBroker.Proofs.Channel.Reassembly

/-!
# The messages of a connection

The broker reads what the frames of a connection spell together. Which messages these are depends
on the frames and on the limit of the gate alone, and not on what else the broker does with them.

## Main definitions

* `Broker.receive`: a frame arrives at a gate.
* `Broker.handed`: the messages that are read, frame by frame.
* `Broker.Reads`: what `Broker.message` is given, frame by frame.

## Main statements

* `receive_cases`: a message is read when it is complete.
* `reads_handed`: the messages of `Broker.handed` are those that `Broker.message` is given.
* `handed_eq`: the messages that are read are those that the frames complete.
* `message_boundaries`: they are the messages of the groups of frames.
-/

namespace GraphBroker

/-- The gate `g` after one more `frame` of a message has arrived. -/
def Gate.joined (g : Gate) (frame : Frame) : Gate :=
  { g with fragments := (g.fragments.take frame).2 }

namespace Broker

variable {ε : Type} {b : Broker ε} {id : GateId} {g : Gate} {frame : Frame} {frames : List Frame}
  {text : String}

/-- A frame arrives at the gate `id`. -/
def receive (b : Broker ε) (id : GateId) : Frame → Broker ε
  | .text chunk isLast => b.frame id chunk isLast
  | .binary bytes isLast => b.binaryFrame id bytes isLast

/-- The message that `frame` completes at the gate `id`. -/
def completes? (b : Broker ε) (id : GateId) (frame : Frame) : Option String :=
  (b.gate? id).bind fun gate => (gate.fragments.take frame).1

/-- The messages that are read when some frames arrive at the gate `id`, one after another. -/
def handed (b : Broker ε) (id : GateId) : List Frame → List String
  | [] => []
  | frame :: rest => (b.completes? id frame).toList ++ (b.receive id frame).handed id rest

/-- The broker `b` after a `frame` that completes no message, before the gate is told of a fault.
Bytes that spell no text count as a message and leave the gate `g` as it was. -/
def unread (b : Broker ε) (id : GateId) (g : Gate) (frame : Frame) : Broker ε :=
  match frame.chunk? with
  | none => b.count .messages
  | some _ => (if frame.isLast then b else b.count .fragmented).putGate id (g.joined frame)

/-- When the frames arrive one after another at the gate `id`, `Broker.message` is given the texts
in the list, each by the frame that completes it, and nothing else. -/
inductive Reads (id : GateId) : Broker ε → List Frame → List String → Prop
  /-- No frame arrives. -/
  | done {b : Broker ε} : Reads id b [] []
  /-- The frame completes `text`, and `Broker.message` is given this. -/
  | message {b : Broker ε} {g : Gate} {frame : Frame} {rest : List Frame} {text : String}
      {texts : List String} (known : b.gate? id = some g)
      (read : b.receive id frame =
        (b.putGate id (g.joined frame)).message id (g.joined frame) text)
      (later : Reads id (b.receive id frame) rest texts) :
      Reads id b (frame :: rest) (text :: texts)
  /-- The frame completes nothing, and at most it is refused. -/
  | unread {b : Broker ε} {g : Gate} {frame : Frame} {rest : List Frame} {texts : List String}
      (known : b.gate? id = some g)
      (left : b.receive id frame = b.unread id g frame ∨
        ∃ fault, b.receive id frame = (b.unread id g frame).reject id fault)
      (later : Reads id (b.receive id frame) rest texts) : Reads id b (frame :: rest) texts

/-! ### One frame -/

theorem receive_of_text {chunk : String} (text : frame.chunk? = some chunk) :
    b.receive id frame = b.frame id chunk frame.isLast := by
  cases frame with
  | text other isLast =>
    rw [Frame.chunk?_text, Option.some_inj] at text
    rw [receive, text, Frame.isLast]
  | binary bytes isLast =>
    have read : Utf8.decode bytes = .ok chunk :=
      Utf8.decode_eq_ok_iff.2 (Frame.chunk?_eq_some_iff.1 text)
    rw [receive, binaryFrame, read, Frame.isLast]

theorem receive_of_not_text (known : b.gate? id = some g) (other : frame.chunk? = none) :
    ∃ fault, b.receive id frame = (b.count .messages).reject id fault := by
  cases frame with
  | text chunk isLast => rw [Frame.chunk?_text] at other; cases other
  | binary bytes isLast =>
    cases read : Utf8.decode bytes with
    | ok chunk => simp [Frame.chunk?, Frame.bytes, read, Except.toOption] at other
    | error fault => exact ⟨notUtf8 fault, by rw [receive, binaryFrame, read, known]⟩

/-- The text `chunk`, when it arrives at `g`, is put together with what has arrived before, and what
it completes is read. Only if it is not the last of its message it counts as a fragment. -/
theorem receive_of_chunk {chunk : String} (known : b.gate? id = some g)
    (text : frame.chunk? = some chunk) :
    b.receive id frame =
      match (g.fragments.push chunk frame.isLast).1,
        (if frame.isLast then b else b.count .fragmented).putGate id (g.joined frame) with
      | .error fault, counted => counted.reject id fault
      | .ok none, counted => counted
      | .ok (some whole), counted => counted.message id (g.joined frame) whole := by
  rcases pushed : g.fragments.push chunk frame.isLast with ⟨outcome, next⟩
  have push : g.pushFragment chunk frame.isLast = (outcome, g.joined frame) := by
    simp only [Gate.pushFragment, Gate.joined, Fragments.take, text, pushed]
  rw [receive_of_text text, Broker.frame, known]
  dsimp only
  rw [push]
  obtain _ | _ | _ := outcome <;> rfl

theorem gate?_unread (known : b.gate? id = some g) :
    (b.unread id g frame).gate? id = some (g.joined frame) := by
  cases text : frame.chunk? with
  | none =>
    rw [unread, text, Gate.joined, Fragments.take_of_not_text text]
    exact known
  | some chunk =>
    rw [unread, text]
    exact gate?_putGate_self

/-- A `frame` completes a message, and this is given to `Broker.message`, or it completes none, and
at most it is refused. -/
theorem receive_cases (known : b.gate? id = some g) (frame : Frame) :
    (∃ text, (g.fragments.take frame).1 = some text ∧
      b.receive id frame = (b.putGate id (g.joined frame)).message id (g.joined frame) text) ∨
    ((g.fragments.take frame).1 = none ∧ (b.receive id frame = b.unread id g frame ∨
      ∃ fault, b.receive id frame = (b.unread id g frame).reject id fault)) := by
  cases text : frame.chunk? with
  | none =>
    obtain ⟨fault, refused⟩ := receive_of_not_text known text
    rw [unread, text, Fragments.take_of_not_text text]
    exact .inr ⟨rfl, .inr ⟨fault, refused⟩⟩
  | some chunk =>
    have taken : (g.fragments.take frame).1 =
        (g.fragments.push chunk frame.isLast).1.toOption.join := by
      simp only [Fragments.take, text]
    rw [receive_of_chunk known text, taken, unread, text]
    rcases pushed : (g.fragments.push chunk frame.isLast).1 with fault | _ | text
    · exact .inr ⟨rfl, .inr ⟨fault, rfl⟩⟩
    · exact .inr ⟨rfl, .inl rfl⟩
    · -- Only the last frame of a message completes it, and this is not counted as a fragment.
      have last : frame.isLast := by
        by_contra more
        have nothing := Fragments.take_of_not_last (f := g.fragments) (Bool.eq_false_iff.2 more)
        rw [taken, pushed] at nothing
        cases nothing
      exact .inl ⟨text, rfl, by rw [if_pos last]⟩

/-- After `frame` the gate is still known, with what has arrived now. -/
theorem gate?_receive (known : b.gate? id = some g) (frame : Frame) :
    ∃ g', (b.receive id frame).gate? id = some g' ∧
      g'.fragments = (g.fragments.take frame).2 := by
  have kept : (b.unread id g frame).gate? id = some (g.joined frame) := gate?_unread known
  obtain ⟨text, -, reads⟩ | ⟨-, same | ⟨fault, refuses⟩⟩ := receive_cases known frame
  · obtain ⟨call, other, unclosed, after⟩ := gate?_message (gate?_putGate_self (b := b)) text
    exact ⟨_, by rw [reads, after], Gate.fragments_perform other unclosed⟩
  · exact ⟨_, by rw [same, kept], rfl⟩
  · exact ⟨_, by rw [refuses, gate?_reject kept], Gate.fragments_perform rfl rfl⟩

/-! ### Frames in a row -/

/-- The messages that are read are those that the `frames` complete. -/
theorem handed_eq (known : b.gate? id = some g) :
    b.handed id frames = g.fragments.messages frames := by
  -- The broker goes on with the message that is read, of which the buffer knows nothing.
  induction frames generalizing b g with
  | nil => rfl
  | cons frame rest ih =>
    obtain ⟨g', after, fragments⟩ := gate?_receive known frame
    rw [handed, Fragments.messages, ih after, fragments, completes?, known, Option.bind_some]

/-- The messages that are read are those that `Broker.message` is given. -/
theorem reads_handed (known : b.gate? id = some g) : b.Reads id frames (b.handed id frames) := by
  induction frames generalizing b g with
  | nil => exact .done
  | cons frame rest ih =>
    obtain ⟨g', after, -⟩ := gate?_receive known frame
    rw [handed, completes?, known, Option.bind_some]
    obtain ⟨text, complete, reads⟩ | ⟨none, left⟩ := receive_cases known frame
    · rw [complete]
      exact .message known reads (ih after)
    · rw [none]
      exact .unread known left (ih after)

end Broker

/-- The messages that are read at a gate `g` on which nothing has arrived yet. `b.handed id frames`
are those that `Broker.message` is given. If the last frame of every group is text by itself, each
group is dealt with as if it were alone. A `Clean` group, of which every frame is text by itself and
which has room for all but its last frame, yields its message if this fits into `limit`, and
otherwise nothing. If all groups are like this, exactly the messages of the groups are read,
whatever the frames into which they are cut. -/
theorem message_boundaries {ε : Type} {b : Broker ε} {id : GateId} {g : Gate} {limit : Nat}
    (known : b.gate? id = some g) (fresh : g.fragments = { maxSize := limit })
    (frames : List Frame) :
    b.Reads id frames (b.handed id frames) ∧
    ((∀ frame ∈ frames, frame.isLast → frame.chunk?.isSome) →
      b.handed id frames = (groups frames).flatMap (b.handed id)) ∧
    (∀ group ∈ groups frames, Clean limit group →
      b.handed id group = (whole? limit group).toList) ∧
    ((∀ group ∈ groups frames, Clean limit group) →
      b.handed id frames = (groups frames).filterMap (whole? limit)) := by
  have clear : g.fragments = g.fragments.clear := by rw [fresh]; rfl
  have size : g.fragments.maxSize = limit := by rw [fresh]
  have handed (frames : List Frame) : b.handed id frames = g.fragments.clear.messages frames :=
    (Broker.handed_eq known).trans (by rw [← clear])
  have oneByOne : (∀ frame ∈ frames, frame.isLast → frame.chunk?.isSome) →
      b.handed id frames = (groups frames).flatMap (b.handed id) := fun ends => by
    rw [handed, Fragments.messages_clear ends]
    exact List.flatMap_congr fun group _ => (handed group).symm
  have ofClean : ∀ group ∈ groups frames, Clean limit group →
      b.handed id group = (whole? limit group).toList := fun group listed clean => by
    rw [← size] at clean ⊢
    rw [handed, Fragments.messages_group listed clean]
  refine ⟨Broker.reads_handed known, oneByOne, ofClean, fun clean => ?_⟩
  rw [oneByOne, List.filterMap_eq_flatMap_toList]
  · exact List.flatMap_congr fun group listed => ofClean group listed (clean group listed)
  · intro frame member last
    obtain ⟨group, listed, within⟩ := exists_group_of_isLast member last
    exact (clean group listed).texts frame within

/-- A gate on which messages of four bytes may arrive. -/
def narrowGate : GateId × Broker Memory :=
  (Broker.unused { maxMessageSize := 4 }).openGate "/subscribe"

/-- A message in two frames, one that is too large, and one in one frame. -/
def mixedFrames : List Frame :=
  [.text "\x7b" false, .binary [0x7d] true, .text "12" false, .text "345" true, .text "6" true]

/-- `Broker.message` is given two of the messages. The one that is too large is left out. -/
theorem message_boundaries_mixedFrames :
    narrowGate.2.handed narrowGate.1 mixedFrames = ["\x7b\x7d", "6"] ∧
      narrowGate.2.Reads narrowGate.1 mixedFrames ["\x7b\x7d", "6"] := by
  have known : narrowGate.2.gate? narrowGate.1 =
    some (.ofConfig "/subscribe" { maxMessageSize := 4 }) := by decide +kernel
  obtain ⟨reads, -, -, ofClean⟩ := message_boundaries known rfl mixedFrames
  have clean : ∀ group ∈ groups mixedFrames,
      (∀ frame ∈ group, frame.chunk?.isSome) ∧ (payload group.dropLast).length ≤ 4 := by
    decide +kernel
  have handed : narrowGate.2.handed narrowGate.1 mixedFrames = ["\x7b\x7d", "6"] := by
    rw [ofClean fun group listed => ⟨(clean group listed).1, (clean group listed).2⟩]
    decide +kernel
  exact ⟨handed, handed ▸ reads⟩

/-- After a message that is too large before its last frame, the rest of its frames is read as a
message. Bytes that spell no text do not end a message, which goes on with the next one. A
character whose bytes are in two frames is not read. -/
theorem boundaries_lost :
    (narrowGate.2.handed narrowGate.1 [.text "12345" false, .text "ok" true] = ["ok"] ∧
      (groups [.text "12345" false, .text "ok" true]).filterMap (whole? 4) = []) ∧
    (narrowGate.2.handed narrowGate.1 [.text "a" false, .binary [0xff] true, .text "b" true] =
        ["ab"] ∧
      (groups [.text "a" false, .binary [0xff] true, .text "b" true]).filterMap (whole? 4) =
        ["b"]) ∧
    (narrowGate.2.handed narrowGate.1 [.binary [0xc3] false, .binary [0xa9] true] = [] ∧
      (groups [.binary [0xc3] false, .binary [0xa9] true]).filterMap (whole? 4) = ["é"]) := by
  decide +kernel

end GraphBroker
