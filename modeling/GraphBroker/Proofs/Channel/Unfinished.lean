import GraphBroker.Proofs.Channel.Reassembly
import Mathlib.Data.List.DropRight

/-!
# Unfinished messages

What is kept of a message is, at any time, the fragments that have arrived since the last message
was complete or too large, or since everything was forgotten: their text in the order in which they
came, and their number. A first fragment that is also the last goes past what is kept, which makes
no difference.

## Main definitions

* `Fragments.Call`, `Fragments.Event`: what may be done, and what has been done with its answer.
* `Fragments.run`, `Fragments.trace`: what calls lead to, and what they answer.
* `Fragments.unfinished`: the fragments of a message that is not complete.
* `Fragments.holding`: what is kept if some fragments have arrived.

## Main statements

* `push_holding`: one more fragment.
* `run_eq_holding`: what is kept after any calls.
* `bounded_and_faithful`: all of this together.
-/

namespace GraphBroker.Fragments

/-- What may be done with what has arrived. -/
inductive Call where
  /-- One more fragment `chunk` arrives. -/
  | push (chunk : String) (isLast : Bool)
  /-- All that has arrived is forgotten. -/
  | clear
deriving DecidableEq

/-- What has been done with what has arrived. -/
inductive Event where
  /-- The fragment `chunk` has arrived, and this is the `answer`. -/
  | pushed (chunk : String) (isLast : Bool) (answer : Outcome (Option String))
  /-- All that had arrived was forgotten. -/
  | cleared

namespace Event

/-- Whether nothing of a message is left over: it is complete, too large, or forgotten. -/
def ends : Event → Bool
  | pushed _ isLast (.ok _) => isLast
  | pushed _ _ (.error _) | cleared => true

/-- The fragment that has arrived. -/
def chunk? : Event → Option String
  | pushed chunk _ _ => some chunk
  | cleared => none

end Event

/-- A call on `f`: what has been done, and what is kept then. -/
def perform (f : Fragments) : Call → Event × Fragments
  | .push chunk isLast =>
    let (answer, next) := f.push chunk isLast
    (.pushed chunk isLast answer, next)
  | .clear => (.cleared, f.clear)

/-- What is kept after the `calls`, one after another. -/
def run (f : Fragments) (calls : List Call) : Fragments :=
  calls.foldl (fun f call => (f.perform call).2) f

/-- What has been done in calls in a row, beginning with `f`. -/
def trace (f : Fragments) : List Call → List Event
  | [] => []
  | call :: rest => (f.perform call).1 :: (f.perform call).2.trace rest

/-- The fragments that have arrived in `events` since the last message was complete, too large, or
forgotten. -/
def unfinished (events : List Event) : List String :=
  (events.rtakeWhile fun event => !event.ends).filterMap Event.chunk?

/-- What is kept of the fragments `chunks`. -/
def holding (maxSize : Nat) (chunks : List String) : Fragments where
  maxSize
  buffer := String.join chunks
  count := chunks.length

variable {f : Fragments} {maxSize : Nat} {calls : List Call} {call : Call} {chunk : String}
  {chunks : List String} {events : List Event}

/-! ### One call -/

theorem join_concat : String.join (chunks ++ [chunk]) = String.join chunks ++ chunk := by
  rw [String.join_append, String.join_cons, String.join_nil, String.append_empty]

theorem isPending_holding : (holding maxSize chunks).isPending = !chunks.isEmpty := by
  cases chunks <;> rfl

theorem sound_holding : (holding maxSize chunks).Sound := fun none => by
  rw [holding, List.length_eq_zero_iff.1 none, String.join_nil]

/-- One more fragment `chunk` is too much, or it completes the message, or it is kept with the
others. -/
theorem push_holding (chunk : String) (isLast : Bool) : (holding maxSize chunks).push chunk isLast =
    let received := (String.join chunks).utf8ByteSize + chunk.utf8ByteSize
    if maxSize < received then (.error (tooLarge maxSize received), { maxSize })
    else if isLast then (.ok (some (String.join (chunks ++ [chunk]))), { maxSize })
    else (.ok none, holding maxSize (chunks ++ [chunk])) := by
  rw [push_of_sound sound_holding, holding, holding, join_concat, List.length_append]
  rfl

/-- Bytes are counted and not characters. -/
example : ((holding 3 ["é"]).push "é" true).1 = .error (tooLarge 3 4) := by decide +kernel

theorem unfinished_concat (event : Event) : unfinished (events ++ [event]) =
    if event.ends then [] else unfinished events ++ event.chunk?.toList := by
  rw [unfinished, List.rtakeWhile_concat, unfinished]
  cases event.ends <;> cases chunk : event.chunk? <;> simp [chunk]

/-- What `call` does to what is kept is what it does to the fragments that have arrived, and nothing
is kept beyond `maxSize`. -/
theorem perform_holding (call : Call) {event : Event} {next : Fragments}
    (performed : (holding maxSize (unfinished events)).perform call = (event, next)) :
    next = holding maxSize (unfinished (events ++ [event])) ∧
      (String.join (unfinished (events ++ [event]))).utf8ByteSize ≤ maxSize := by
  cases call with
  | clear =>
    cases performed
    rw [unfinished_concat]
    exact ⟨rfl, Nat.zero_le _⟩
  | push chunk isLast =>
    rw [perform, push_holding] at performed
    by_cases large : maxSize < (String.join (unfinished events)).utf8ByteSize + chunk.utf8ByteSize
    · -- A fragment that is too much ends the message, whether it is the last or not.
      rw [if_pos large] at performed
      cases performed
      rw [unfinished_concat]
      exact ⟨rfl, Nat.zero_le _⟩
    · rw [if_neg large] at performed
      cases isLast <;> cases performed <;> rw [unfinished_concat]
      · refine ⟨rfl, ?_⟩
        change (String.join (unfinished events ++ [chunk])).utf8ByteSize ≤ maxSize
        rw [join_concat, String.utf8ByteSize_append]
        exact Nat.not_lt.1 large
      · exact ⟨rfl, Nat.zero_le _⟩

/-! ### Calls in a row -/

theorem run_concat : f.run (calls ++ [call]) = ((f.run calls).perform call).2 :=
  List.foldl_concat ..

theorem trace_concat :
    f.trace (calls ++ [call]) = f.trace calls ++ [((f.run calls).perform call).1] := by
  induction calls generalizing f with
  | nil => rfl
  | cons first rest ih =>
    rw [List.cons_append, trace, ih, trace, List.cons_append]
    rfl

/-- What is kept after `calls` is what has arrived of the message that is not complete, and this is
not too large. -/
theorem run_eq_holding (maxSize : Nat) (calls : List Call) :
    let chunks := unfinished (trace { maxSize } calls)
    run { maxSize } calls = holding maxSize chunks ∧
      (String.join chunks).utf8ByteSize ≤ maxSize := by
  -- What is unfinished is at the end of the trace, so that the induction is on the last call.
  induction calls using List.reverseRecOn with
  | nil => exact ⟨rfl, Nat.zero_le _⟩
  | append_singleton calls call ih =>
    obtain ⟨kept, -⟩ := ih
    rw [run_concat, trace_concat, kept]
    exact perform_holding call rfl

/-- After any `calls`, no more than `maxSize` bytes are kept, and none unless a message has arrived
in part. A further `chunk` is refused just when it makes the message too large, and then all is as
at the start. Otherwise, if it is the last, it completes the message of the fragments that have
arrived since the last message was complete, refused or forgotten, and all is as at the start. If it
is not the last, it is kept, even if it is empty. -/
theorem bounded_and_faithful (maxSize : Nat) (calls : List Call) :
    let new : Fragments := { maxSize }
    let f := new.run calls
    f.buffer.utf8ByteSize ≤ maxSize ∧ (f.isPending = false → f.buffer = "") ∧
      ∀ chunk isLast,
        match f.push chunk isLast with
        | (.error _, next) =>
          maxSize < f.buffer.utf8ByteSize + chunk.utf8ByteSize ∧ next = new
        | (.ok answer, next) =>
          f.buffer.utf8ByteSize + chunk.utf8ByteSize ≤ maxSize ∧
            if isLast then
              answer = some (String.join (unfinished (new.trace calls) ++ [chunk])) ∧ next = new
            else answer = none ∧ next.isPending := by
  intro new f
  obtain ⟨kept, room⟩ := run_eq_holding maxSize calls
  change f = _ at kept
  rw [kept]
  refine ⟨room, fun finished => ?_, fun chunk isLast => ?_⟩
  · rw [isPending_holding, Bool.not_eq_false', List.isEmpty_iff] at finished
    rw [holding, finished, String.join_nil]
  · rw [push_holding]
    by_cases large : maxSize <
        (String.join (unfinished (new.trace calls))).utf8ByteSize + chunk.utf8ByteSize
    · rw [if_pos large]
      exact ⟨large, rfl⟩
    · rw [if_neg large]
      cases isLast with
      | true => exact ⟨Nat.not_lt.1 large, rfl, rfl⟩
      | false => exact ⟨Nat.not_lt.1 large, rfl, by simp [isPending_holding]⟩

end GraphBroker.Fragments
