import GraphBroker.Gate.Basic
import Mathlib.Data.List.Basic
import Mathlib.Data.List.Induction

/-!
# Calls on a gate

Whoever holds a gate may send on it, forward requests, push fragments, take what waits, or
let go of an end. Of all this, the end of the gate depends on little: its state, whether it
has a writer, whether its writer and its worker have been told to stop, and what has arrived
in fragments. What a call does to these does not depend on the queues.

## Main definitions

* `Gate.Call`, `Gate.perform`, `Gate.run`: calls, one of them, some in a row.
* `Gate.Life`: what the end of a gate depends on.
* `Gate.Noticed`: a message has been sent after the writer was gone.

## Main statements

* `life_perform`: what a call does to the life of a gate.
* `run_of_not_closes`: a gate that nobody closes is open until it is noticed that its writer is
  gone.
* `run_of_closed`: a gate that is closed stays as it is.
-/

namespace GraphBroker.Gate

/-- What may be done to a gate. -/
inductive Call where
  /-- The `message` is sent to the client. -/
  | send (message : Message)
  /-- The `request` is left to the worker. -/
  | forward (request : Request)
  /-- The fragment `chunk` of a message has arrived. -/
  | fragment (chunk : String) (isLast : Bool)
  /-- The writer takes a message. -/
  | receive
  /-- The worker takes a request. -/
  | takeRequest
  /-- The writer is gone. -/
  | dropWriter
  /-- The worker is gone. -/
  | dropWorker
  /-- The gate starts to close. -/
  | beginClose
  /-- The gate is closed. -/
  | finishClose
deriving DecidableEq

/-- Whether the call closes the gate. -/
def Call.closes : Call → Bool
  | beginClose | finishClose => true
  | _ => false

/-- Whether the call brings a fragment. -/
def Call.isFragment : Call → Bool
  | fragment .. => true
  | _ => false

/-- The gate `g` after a call. -/
def perform (g : Gate) : Call → Gate
  | .send message => (g.send message).2
  | .forward request => (g.forward request).2
  | .fragment chunk isLast => (g.pushFragment chunk isLast).2
  | .receive => g.receive.2
  | .takeRequest => (g.takeRequest?.map Prod.snd).getD g
  | .dropWriter => g.dropWriter
  | .dropWorker => g.dropWorker
  | .beginClose => g.beginClose.2
  | .finishClose => g.finishClose

/-- The gate `g` after the `calls`, one after another. -/
def run (g : Gate) (calls : List Call) : Gate :=
  calls.foldl perform g

/-- What the end of a gate depends on. -/
structure Life where
  /-- The state. -/
  state : GateState
  /-- Whether someone takes the messages. -/
  hasWriter : Bool
  /-- Whether those who take messages and requests have been told to stop. -/
  cancelled : Bool
  /-- What has arrived of a message. -/
  fragments : Fragments

/-- What the end of the gate `g` depends on. -/
def life (g : Gate) : Life := ⟨g.state, g.hasWriter, g.cancelled, g.fragments⟩

/-- The life of a gate after a call, if it was `l` before. -/
def Life.after (l : Life) : Call → Life
  | .send _ => if l.hasWriter then l else { l with state := l.state.advance .closing }
  | .fragment chunk isLast => { l with fragments := (l.fragments.push chunk isLast).2 }
  | .dropWriter => { l with hasWriter := false }
  | .beginClose =>
    if l.state = .opened then
      { l with state := .closing, cancelled := true, fragments := l.fragments.clear }
    else l
  | .finishClose => { l with state := l.state.advance .closed }
  | _ => l

variable {g : Gate} {call : Call} {calls : List Call}

theorem isOpen_iff : g.isOpen ↔ g.state = .opened := by
  rw [isOpen, beq_iff_eq]

theorem isOpen_eq_false_iff : g.isOpen = false ↔ g.state ≠ .opened := by
  rw [← Bool.not_eq_true, isOpen_iff]

/-! ### One call -/

/-- A `message` is not taken by a gate that is not open; it finds that the writer is gone, or a
place in the queue, or none. -/
theorem send_cases (g : Gate) (message : Message) :
    (g.isOpen = false ∧ g.send message = (.gateClosed, g)) ∨
    (g.isOpen ∧ g.hasWriter = false ∧
      g.send message = (.gateClosed, { g with state := g.state.advance .closing })) ∨
    (g.isOpen ∧ g.hasWriter ∧ g.outbound.length < g.outboundCapacity ∧
      g.send message = (.delivered, { g with outbound := g.outbound ++ [message] })) ∨
    (g.isOpen ∧ g.hasWriter ∧ g.outboundCapacity ≤ g.outbound.length ∧
      g.send message = (.busy, g)) := by
  unfold send
  cases opened : g.isOpen
  · exact .inl ⟨rfl, rfl⟩
  · cases writer : g.hasWriter
    · exact .inr (.inl ⟨rfl, rfl, rfl⟩)
    · by_cases room : g.outbound.length < g.outboundCapacity
      · exact .inr (.inr (.inl ⟨rfl, rfl, room, by simp [room]⟩))
      · exact .inr (.inr (.inr ⟨rfl, rfl, Nat.not_lt.1 room, by simp [room]⟩))

theorem life_send (message : Message) : (g.send message).2.life = g.life.after (.send message) := by
  obtain ⟨shut, sent⟩ | ⟨-, gone, sent⟩ | ⟨-, writer, -, sent⟩ | ⟨-, writer, -, sent⟩ :=
    g.send_cases message <;> rw [sent]
  · -- A gate that is not open is at least closing, so that nothing moves.
    have stays : g.state.advance .closing = g.state := by
      have other := isOpen_eq_false_iff.1 shut
      cases state : g.state
      · exact absurd state other
      · rfl
      · rfl
    simp only [life, Life.after, stays, ite_self]
  · simp only [life, Life.after, gone, Bool.false_eq_true, if_false]
  · simp only [life, Life.after, writer, if_true]
  · simp only [life, Life.after, writer, if_true]

/-- What `call` does to the life of `g`. -/
theorem life_perform : (g.perform call).life = g.life.after call := by
  cases call with
  | send message => exact life_send message
  | forward request =>
    simp only [perform, forward]
    split
    · rfl
    · split <;> rfl
  | fragment chunk isLast => rfl
  | receive =>
    simp only [perform, receive]
    split
    · rfl
    · split <;> rfl
  | takeRequest =>
    simp only [perform, takeRequest?]
    split <;> rfl
  | dropWriter => rfl
  | dropWorker => rfl
  | beginClose =>
    have opened : g.isOpen ↔ g.life.state = .opened := isOpen_iff
    simp only [perform, beginClose, Life.after, ← opened]
    split <;> rfl
  | finishClose => rfl

/-- What has arrived of a message is not touched by a `call` that brings no fragment and does not
close the gate. -/
theorem fragments_perform (other : call.isFragment = false) (unclosed : call.closes = false) :
    (g.perform call).fragments = g.fragments := by
  have fragments : (g.perform call).fragments = (g.life.after call).fragments :=
    congrArg Life.fragments life_perform
  rw [fragments]
  cases call with
  | send message =>
    simp only [Life.after]
    split <;> rfl
  | fragment chunk isLast => cases other
  | beginClose => cases unclosed
  | _ => rfl

/-! ### Calls in a row -/

theorem run_concat : g.run (calls ++ [call]) = (g.run calls).perform call :=
  List.foldl_concat ..

/-- In the course of `calls`, a message is sent after the writer is gone. -/
def Noticed (calls : List Call) : Prop :=
  ∃ before message after, calls = before ++ .send message :: after ∧ .dropWriter ∈ before

theorem noticed_concat : Noticed (calls ++ [call]) ↔
    Noticed calls ∨ .dropWriter ∈ calls ∧ ∃ message, call = .send message := by
  constructor
  · rintro ⟨before, message, after, split, gone⟩
    obtain rfl | ⟨after, last, rfl⟩ := List.eq_nil_or_concat' after
    · obtain ⟨rfl, same⟩ := List.append_inj' split rfl
      exact .inr ⟨gone, message, List.singleton_injective same⟩
    · rw [← List.cons_append, ← List.append_assoc] at split
      exact .inl ⟨before, message, after, (List.append_inj' split rfl).1, gone⟩
  · rintro (⟨before, message, after, rfl, gone⟩ | ⟨gone, message, rfl⟩)
    · exact ⟨before, message, after ++ [call], by simp, gone⟩
    · exact ⟨calls, message, [], rfl, gone⟩

/-- As long as none of the `calls` closes a gate that has just been opened, nobody is told to stop,
it has its writer until this one goes, and it is open until it is `Noticed` that the writer is
gone. -/
theorem run_of_not_closes (path : String) (config : GateConfig)
    (unclosed : ∀ call ∈ calls, call.closes = false) :
    ((ofConfig path config).run calls).cancelled = false ∧
      (((ofConfig path config).run calls).hasWriter ↔ .dropWriter ∉ calls) ∧
      (((ofConfig path config).run calls).isOpen ↔ ¬Noticed calls) := by
  -- The calls are followed to the last one, which alone decides what changes.
  induction calls using List.reverseRecOn with
  | nil => exact ⟨rfl, by simp [run, ofConfig], by simp [run, ofConfig, isOpen, Noticed]⟩
  | append_singleton calls call ih =>
    obtain ⟨told, writer, opened⟩ := ih fun other listed =>
      unclosed other (List.mem_append_left _ listed)
    have last : ((ofConfig path config).run (calls ++ [call])).life =
        ((ofConfig path config).run calls).life.after call := by rw [run_concat, life_perform]
    generalize (ofConfig path config).run calls = before at told writer opened last
    generalize (ofConfig path config).run (calls ++ [call]) = g at last
    have state : g.state = (before.life.after call).state := congrArg Life.state last
    have hasWriter : g.hasWriter = (before.life.after call).hasWriter :=
      congrArg Life.hasWriter last
    have cancelled : g.cancelled = (before.life.after call).cancelled :=
      congrArg Life.cancelled last
    rw [isOpen_iff] at opened ⊢
    rw [state, hasWriter, cancelled, noticed_concat]
    cases call with
    | send message =>
      by_cases gone : .dropWriter ∈ calls
      · have none : before.hasWriter = false :=
          Bool.eq_false_iff.2 fun here => writer.1 here gone
        have shut : before.state.advance .closing ≠ .opened := by
          cases before.state <;> decide
        simp [Life.after, life, none, gone, told, shut]
      · simp [Life.after, life, writer.2 gone, gone, told, opened]
    | beginClose => cases unclosed .beginClose (by simp)
    | finishClose => cases unclosed .finishClose (by simp)
    | dropWriter => simp [Life.after, life, told, opened]
    | _ => simp [Life.after, life, told, opened, writer]

/-- A `call` on a gate that is closed only lets go of an end or brings a fragment. -/
theorem life_after_of_closed {l : Life} (closed : l.state = .closed) (call : Call) :
    (l.after call).state = .closed ∧ (l.after call).cancelled = l.cancelled ∧
      (call.isFragment = false → (l.after call).fragments = l.fragments) := by
  cases call with
  | send message =>
    simp only [Life.after]
    split
    · exact ⟨closed, rfl, fun _ => rfl⟩
    · exact ⟨by rw [closed]; rfl, rfl, fun _ => rfl⟩
  | fragment chunk isLast => exact ⟨closed, rfl, nofun⟩
  | beginClose =>
    rw [Life.after, if_neg (by simp [closed])]
    exact ⟨closed, rfl, fun _ => rfl⟩
  | finishClose => exact ⟨by simp only [Life.after, closed]; rfl, rfl, fun _ => rfl⟩
  | _ => exact ⟨closed, rfl, fun _ => rfl⟩

/-- A gate that is closed stays closed, whatever the `calls`, and nobody is told to stop who has not
been told. -/
theorem run_of_closed (closed : g.state = .closed) (calls : List Call) :
    (g.run calls).state = .closed ∧
    (g.run calls).cancelled = g.cancelled ∧
    ((∀ call ∈ calls, call.isFragment = false) → (g.run calls).fragments = g.fragments) := by
  induction calls generalizing g with
  | nil => exact ⟨closed, rfl, fun _ => rfl⟩
  | cons call calls ih =>
    obtain ⟨state, told, fragments⟩ := life_after_of_closed (l := g.life) closed call
    rw [← life_perform] at state told fragments
    obtain ⟨laterState, laterTold, laterFragments⟩ := ih (g := g.perform call) state
    refine ⟨laterState, laterTold.trans told, fun none => ?_⟩
    rw [List.forall_mem_cons] at none
    exact (laterFragments none.2).trans (fragments none.1)

/-- A gate that is closed takes no messages and no requests. -/
theorem refuses_of_closed (closed : g.state = .closed) :
    (∀ message, g.send message = (.gateClosed, g)) ∧
      ∀ request, g.forward request = (.error closedFault, g) := by
  have shut : g.isOpen = false := isOpen_eq_false_iff.2 (by simp [closed])
  exact ⟨fun message => by simp [send, shut], fun request => by simp [forward, shut]⟩

/-- Whatever `g` was like, closing it leaves it closed. Only a gate that is still open tells those
who hold it to stop and forgets what has arrived. -/
theorem finishClose_beginClose (g : Gate) :
    g.beginClose.2.finishClose.state = .closed ∧
      (g.isOpen → g.beginClose.2.finishClose.cancelled ∧
        g.beginClose.2.finishClose.fragments = g.fragments.clear) ∧
      (g.isOpen = false → g.beginClose.2.finishClose.cancelled = g.cancelled ∧
        g.beginClose.2.finishClose.fragments = g.fragments) := by
  have closed (s : GateState) : s.advance .closed = .closed := by cases s <;> rfl
  refine ⟨closed _, fun opened => ?_, fun shut => ?_⟩
  · rw [beginClose, if_pos opened]
    exact ⟨rfl, rfl⟩
  · rw [beginClose, shut]
    exact ⟨rfl, rfl⟩

end GraphBroker.Gate
