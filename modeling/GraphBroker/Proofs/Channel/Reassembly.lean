import GraphBroker.Channel.Fragments
import GraphBroker.Proofs.Text.Utf8

/-!
# Messages put together from frames

A connection brings frames of text and of bytes. Those up to one that is marked as the last make
a group, and a group spells one message. Where the last frame of every group is text by itself,
each group is dealt with as if it were alone. A group of which every frame is text by itself, and
which does not become too large before its last frame, yields its message if this fits, and
nothing otherwise.

## Main definitions

* `Frame`: a fragment as text or as bytes.
* `Fragments.take`, `Fragments.messages`: the messages that frames complete.
* `groups`, `whole?`: the groups of frames, and the message that a group spells.
* `Clean`: every frame of a group is text, and only the last may be too much.

## Main statements

* `messages_clear`: groups are dealt with one by one.
* `messages_of_clean`: a clean group yields the message that it spells.
-/

namespace GraphBroker

/-- A fragment of a message as a connection brings it. -/
inductive Frame where
  /-- The fragment is text. -/
  | text (chunk : String) (isLast : Bool)
  /-- The fragment is bytes. -/
  | binary (bytes : List UInt8) (isLast : Bool)
deriving DecidableEq

namespace Frame

/-- Whether the frame is the last of its group. -/
def isLast : Frame → Bool
  | text _ isLast => isLast
  | binary _ isLast => isLast

/-- The bytes of the frame. -/
def bytes : Frame → List UInt8
  | text chunk _ => Utf8.encode chunk
  | binary bytes _ => bytes

/-- The text of the frame, if its bytes spell one. -/
def chunk? (frame : Frame) : Option String :=
  (Utf8.decode frame.bytes).toOption

theorem chunk?_eq_some_iff {frame : Frame} {chunk : String} :
    frame.chunk? = some chunk ↔ frame.bytes = Utf8.encode chunk := by
  rw [chunk?, ← Utf8.decode_eq_ok_iff]
  cases Utf8.decode frame.bytes <;> simp [Except.toOption]

@[simp] theorem chunk?_text {chunk : String} {isLast : Bool} :
    (text chunk isLast).chunk? = some chunk :=
  chunk?_eq_some_iff.2 rfl

end Frame

/-- The frames up to each one that is the last of its group. Frames after the last of them are left
out. -/
def groups : List Frame → List (List Frame)
  | [] => []
  | frame :: rest =>
    if frame.isLast then [frame] :: groups rest
    else match groups rest with
      | [] => []
      | group :: others => (frame :: group) :: others

/-- The bytes of all `frames` together. -/
def payload (frames : List Frame) : List UInt8 :=
  frames.flatMap Frame.bytes

/-- The message that the frames of `group` spell together, unless it has more than `limit` bytes. -/
def whole? (limit : Nat) (group : List Frame) : Option String :=
  if (payload group).length ≤ limit then (Utf8.decode (payload group)).toOption else none

/-- Every frame of `group` is text by itself, and those before the last do not have more than
`limit` bytes. -/
structure Clean (limit : Nat) (group : List Frame) : Prop where
  /-- Every frame is text. -/
  texts : ∀ frame ∈ group, frame.chunk?.isSome
  /-- Without the last frame there is room. -/
  room : (payload group.dropLast).length ≤ limit

namespace Fragments

/-- Takes one more `frame`; the message that it completes. A frame that is not text is left out. -/
def take (f : Fragments) (frame : Frame) : Option String × Fragments :=
  match frame.chunk? with
  | none => (none, f)
  | some chunk =>
    let (outcome, next) := f.push chunk frame.isLast
    (outcome.toOption.join, next)

/-- The messages that frames complete, one after another, if `f` has arrived before. -/
def messages (f : Fragments) : List Frame → List String
  | [] => []
  | frame :: rest => (f.take frame).1.toList ++ (f.take frame).2.messages rest

/-- Before the first fragment of `f` there is no text. -/
def Sound (f : Fragments) : Prop :=
  f.count = 0 → f.buffer = ""

variable {f : Fragments} {frame : Frame} {chunk : String} {frames rest group : List Frame}

/-! ### One frame -/

theorem sound_clear : f.clear.Sound := fun _ => rfl

/-- The fragment `chunk` is too much, or it completes the message, or it is kept with what has
arrived. -/
theorem push_of_sound (sound : f.Sound) (chunk : String) (isLast : Bool) : f.push chunk isLast =
    let received := f.buffer.utf8ByteSize + chunk.utf8ByteSize
    if f.maxSize < received then (.error (tooLarge f.maxSize received), f.clear)
    else if isLast then (.ok (some (f.buffer ++ chunk)), f.clear)
    else (.ok none, { f with buffer := f.buffer ++ chunk, count := f.count + 1 }) := by
  simp only [push]
  split
  · rfl
  cases isLast
  · rfl
  · -- The first fragment clears what is there, which changes nothing.
    by_cases first : f.count = 0
    · have cleared : f.clear = f := by
        obtain ⟨maxSize, buffer, count⟩ := f
        obtain rfl : count = 0 := first
        obtain rfl : buffer = "" := sound rfl
        rfl
      simp [first, cleared, sound first]
    · simp [first]

/-- What becomes of a `frame` that is text. -/
theorem take_of_text (sound : f.Sound) (text : frame.chunk? = some chunk) : f.take frame =
    if f.maxSize < f.buffer.utf8ByteSize + chunk.utf8ByteSize then (none, f.clear)
    else if frame.isLast then (some (f.buffer ++ chunk), f.clear)
    else (none, { f with buffer := f.buffer ++ chunk, count := f.count + 1 }) := by
  rw [take, text]
  simp only [push_of_sound sound]
  split
  · rfl
  · split <;> rfl

theorem take_of_not_text (other : frame.chunk? = none) : f.take frame = (none, f) := by
  rw [take, other]

theorem sound_take (sound : f.Sound) (frame : Frame) : (f.take frame).2.Sound := by
  cases text : frame.chunk? with
  | none => rwa [take_of_not_text text]
  | some chunk =>
    rw [take_of_text sound text]
    split
    · exact sound_clear
    · split
      · exact sound_clear
      · exact fun none => by cases none

theorem maxSize_take : (f.take frame).2.maxSize = f.maxSize := by
  rw [take]
  split
  · rfl
  · simp only [push]
    split
    · rfl
    · split
      · rfl
      · split <;> rfl

/-- A `frame` that is not the last completes no message. -/
theorem take_of_not_last (more : frame.isLast = false) : (f.take frame).1 = none := by
  rw [take]
  split
  · rfl
  · simp only [push, more]
    split <;> rfl

/-- After the last `frame`, if it is text, nothing is left over. -/
theorem take_of_last (sound : f.Sound) (last : frame.isLast) (text : frame.chunk?.isSome) :
    (f.take frame).2 = f.clear := by
  obtain ⟨chunk, text⟩ := Option.isSome_iff_exists.1 text
  rw [take_of_text sound text, if_pos last]
  split <;> rfl

/-! ### Groups -/

theorem clear_take : (f.take frame).2.clear = f.clear := by
  rw [clear, clear, maxSize_take]

/-- What has arrived in `f` goes to the first group, and each further group is dealt with as if it
were alone, if the last frame of every group is text. -/
theorem messages_eq (sound : f.Sound)
    (ends : ∀ frame ∈ frames, frame.isLast → frame.chunk?.isSome) :
    f.messages frames = match groups frames with
      | [] => []
      | group :: others => f.messages group ++ others.flatMap f.clear.messages := by
  -- A frame that is not the last hands on what has arrived, so that the induction is over any
  -- start. After the last frame nothing is left over.
  induction frames generalizing f with
  | nil => rfl
  | cons frame rest ih =>
    rw [List.forall_mem_cons] at ends
    have later := ih (sound_take sound frame) ends.2
    rw [messages, later, groups]
    cases last : frame.isLast with
    | true =>
      rw [take_of_last sound last (ends.1 last)]
      have again : f.clear.clear = f.clear := rfl
      cases groups rest <;> simp [messages, again]
    | false =>
      cases groups rest <;> simp [messages, take_of_not_last last, clear_take]

/-- Each group is dealt with as if it were alone, if the last frame of every group is text. -/
theorem messages_clear (ends : ∀ frame ∈ frames, frame.isLast → frame.chunk?.isSome) :
    f.clear.messages frames = (groups frames).flatMap f.clear.messages := by
  rw [messages_eq sound_clear ends]
  cases groups frames <;> rfl

end Fragments

/-! ### Groups -/

/-- Some frames of which the last one, and no other, is marked as the last. -/
inductive IsGroup : List Frame → Prop where
  /-- A frame is a group. -/
  | last {frame : Frame} (last : frame.isLast) : IsGroup [frame]
  /-- A frame comes before a group. -/
  | more {frame : Frame} {rest : List Frame} (more : frame.isLast = false) (group : IsGroup rest) :
    IsGroup (frame :: rest)

variable {f : Fragments} {frame : Frame} {chunk : String} {frames group : List Frame} {limit : Nat}

theorem isGroup_of_mem_groups (listed : group ∈ groups frames) : IsGroup group := by
  induction frames generalizing group with
  | nil => cases listed
  | cons frame rest ih =>
    rw [groups] at listed
    cases last : frame.isLast with
    | true =>
      rw [if_pos last, List.mem_cons] at listed
      rcases listed with rfl | later
      · exact .last last
      · exact ih later
    | false =>
      rw [if_neg (by simp [last])] at listed
      cases found : groups rest with
      | nil => simp [found] at listed
      | cons first others =>
        rw [found] at ih
        rw [found, List.mem_cons] at listed
        rcases listed with rfl | later
        · exact .more last (ih (List.mem_cons_self ..))
        · exact ih (List.mem_cons_of_mem _ later)

/-- A `frame` that is marked as the last is the last of a group. -/
theorem exists_group_of_isLast (member : frame ∈ frames) (last : frame.isLast) :
    ∃ group ∈ groups frames, frame ∈ group := by
  induction frames with
  | nil => cases member
  | cons first rest ih =>
    rw [groups]
    -- The group of a later frame is extended at its start, if at all.
    rcases List.mem_cons.1 member with rfl | later
    · exact ⟨[frame], by simp [last], List.mem_singleton_self _⟩
    · obtain ⟨group, listed, within⟩ := ih later
      cases first.isLast with
      | true => exact ⟨group, List.mem_cons_of_mem _ listed, within⟩
      | false =>
        cases found : groups rest with
        | nil => simp [found] at listed
        | cons other others =>
          rw [found, List.mem_cons] at listed
          rcases listed with rfl | listed
          · exact ⟨first :: group, List.mem_cons_self .., List.mem_cons_of_mem _ within⟩
          · exact ⟨group, List.mem_cons_of_mem _ listed, within⟩

theorem payload_cons : payload (frame :: frames) = frame.bytes ++ payload frames :=
  List.flatMap_cons

theorem payload_text {isLast : Bool} : payload [.text chunk isLast] = Utf8.encode chunk :=
  List.append_nil _

/-- Two frames of text, `start` and `chunk`, have the bytes of one. -/
theorem payload_concat_text (text : frame.chunk? = some chunk) (start : String)
    (others : List Frame) : payload (.text start false :: frame :: others) =
      payload (.text (start ++ chunk) false :: others) := by
  rw [payload_cons, payload_cons, payload_cons, Frame.chunk?_eq_some_iff.1 text, Frame.bytes,
    Frame.bytes, Utf8.encode_append, List.append_assoc]

/-- What has arrived in `f` may be thought of as a first frame of `group`. -/
theorem Fragments.messages_of_clean (sound : f.Sound) (isGroup : IsGroup group)
    (clean : Clean f.maxSize (.text f.buffer false :: group)) :
    f.messages group = (whole? f.maxSize (.text f.buffer false :: group)).toList := by
  -- Each frame before the last moves its text from the group to what has arrived.
  induction isGroup generalizing f with
  | @last frame last =>
    obtain ⟨chunk, text⟩ := Option.isSome_iff_exists.1 (clean.texts frame (by simp))
    have bytes := payload_concat_text text f.buffer []
    have size : (payload [.text f.buffer false, frame]).length =
        f.buffer.utf8ByteSize + chunk.utf8ByteSize := by
      rw [bytes, payload_text, Utf8.length_encode, String.utf8ByteSize_append]
    rw [messages, take_of_text sound text, if_pos last, whole?, size, bytes, payload_text,
      Utf8.decode_encode]
    by_cases fits : f.buffer.utf8ByteSize + chunk.utf8ByteSize ≤ f.maxSize
    · rw [if_neg (Nat.not_lt.2 fits), if_pos fits]
      rfl
    · rw [if_pos (Nat.not_le.1 fits), if_neg fits]
      rfl
  | @more frame rest more isGroup ih =>
    obtain ⟨chunk, text⟩ := Option.isSome_iff_exists.1 (clean.texts frame (by simp))
    have nonempty : rest ≠ [] := by rintro rfl; cases isGroup
    have room := clean.room
    rw [List.dropLast_cons_of_ne_nil (by simp), List.dropLast_cons_of_ne_nil nonempty,
      payload_concat_text text, ← List.dropLast_cons_of_ne_nil nonempty] at room
    have fits : f.buffer.utf8ByteSize + chunk.utf8ByteSize ≤ f.maxSize := by
      refine Nat.le_trans ?_ room
      rw [List.dropLast_cons_of_ne_nil nonempty, payload_cons, List.length_append, Frame.bytes,
        Utf8.length_encode, String.utf8ByteSize_append]
      exact Nat.le_add_right ..
    have texts : ∀ other ∈ Frame.text (f.buffer ++ chunk) false :: rest, other.chunk?.isSome :=
      List.forall_mem_cons.2 ⟨by simp, fun other listed => clean.texts other (by simp [listed])⟩
    have later := ih (f := { f with buffer := f.buffer ++ chunk, count := f.count + 1 })
      (fun none => by cases none) ⟨texts, room⟩
    rw [messages, take_of_text sound text, if_neg (Nat.not_lt.2 fits), if_neg (by simp [more])]
    exact later.trans (by rw [whole?, whole?, payload_concat_text text])

/-- A clean `group` yields the message that it spells, if this is not too large. -/
theorem Fragments.messages_group (listed : group ∈ groups frames) (clean : Clean f.maxSize group) :
    f.clear.messages group = (whole? f.maxSize group).toList := by
  have isGroup := isGroup_of_mem_groups listed
  have nonempty : group ≠ [] := by rintro rfl; cases isGroup
  have same (others : List Frame) : payload (.text "" false :: others) = payload others := rfl
  have first : Clean f.maxSize (.text "" false :: group) := by
    refine ⟨List.forall_mem_cons.2 ⟨by simp, clean.texts⟩, ?_⟩
    rw [List.dropLast_cons_of_ne_nil nonempty, same]
    exact clean.room
  exact (messages_of_clean sound_clear isGroup first).trans (by rw [whole?, whole?]; rfl)

end GraphBroker
