import GraphBroker.Proofs.Broker.Gates
import Mathlib.Tactic.Common

/-!
# The end of a gate

A gate that its broker closes is no longer known to the broker and stays closed, so that
nothing is handed to it or taken from it. Those who still hold it, its worker among them, are
told to stop by the call that finds the gate open. A message that was sent after the writer
was gone has closed the gate in part before: then that call does not come any more, the worker
waits for requests for ever, and what has arrived in fragments is kept.

## Main definitions

* `Broker.Gone`: the broker no longer knows a gate, which is kept for those who hold it.
* `Gate.Shut`: a gate is closed and takes nothing.

## Main statements

* `gone_closeGate`, `gone_closeAll`, `gone_shutdown`: closing makes a gate go.
* `closed_for_good`: what becomes of a gate that is closed.
-/

namespace GraphBroker

namespace Broker

variable {ε : Type} {b : Broker ε} {id other : GateId} {g : Gate}

/-- The broker `b` does not know the gate `id`, which is kept as `g` for those who hold it. -/
structure Gone (b : Broker ε) (id : GateId) (g : Gate) : Prop where
  /-- The broker does not know it. -/
  unknown : b.gate? id = none
  /-- It is kept. -/
  kept : b.departed[id]? = some g

/-! ### Closing -/

theorem departed_closeGate (known : b.gate? id = some g) : (b.closeGate id).2.departed[other]? =
    if id = other then some g.beginClose.2.finishClose else b.departed[other]? := by
  unfold closeGate
  rw [known]
  change (b.departed.insert id _)[other]? = _
  simp only [Std.ExtTreeMap.getElem?_insert, Std.LawfulEqCmp.compare_eq_iff_eq]

theorem closeGate_of_unknown (unknown : b.gate? id = none) : b.closeGate id = (false, b) := by
  rw [closeGate, unknown]

theorem gone_closeGate (known : b.gate? id = some g) :
    (b.closeGate id).2.Gone id g.beginClose.2.finishClose :=
  ⟨by rw [gate?_closeGate, if_pos rfl], by rw [departed_closeGate known, if_pos rfl]⟩

/-- A gate that is `Gone` stays so when any `other` gate is closed. -/
theorem Gone.closeGate (gone : b.Gone id g) (other : GateId) : (b.closeGate other).2.Gone id g := by
  cases found : b.gate? other with
  | none => rwa [closeGate_of_unknown found]
  | some h =>
    have different : other ≠ id := by
      rintro rfl
      rw [gone.unknown] at found
      cases found
    exact ⟨by rw [gate?_closeGate, if_neg different, gone.unknown],
      by rw [departed_closeGate found, if_neg different, gone.kept]⟩

theorem Gone.foldl_closeGate (gone : b.Gone id g) (ids : List GateId) :
    (ids.foldl (fun b id => (b.closeGate id).2) b).Gone id g := by
  induction ids generalizing b with
  | nil => exact gone
  | cons first rest ih => exact ih (gone.closeGate first)

/-- Of several gates `ids` that are closed one after another, each is closed as it was at the
start. -/
theorem gone_foldl_closeGate (known : b.gate? id = some g) {ids : List GateId} (listed : id ∈ ids) :
    (ids.foldl (fun b id => (b.closeGate id).2) b).Gone id g.beginClose.2.finishClose := by
  -- Before the turn of the gate others are closed, and after it the gate is gone.
  induction ids generalizing b with
  | nil => cases listed
  | cons first rest ih =>
    by_cases same : first = id
    · rw [List.foldl_cons, same]
      exact (gone_closeGate known).foldl_closeGate rest
    · refine ih ?_ ((List.mem_cons.1 listed).resolve_left (Ne.symm same))
      rw [gate?_closeGate, if_neg same, known]

theorem gone_closeAll (known : b.gate? id = some g) :
    b.closeAll.Gone id g.beginClose.2.finishClose :=
  gone_foldl_closeGate known (mem_gateIds.2 (by rw [known]; rfl))

theorem gone_shutdown [QueryEngine ε] (known : b.gate? id = some g) :
    b.shutdown.Gone id g.beginClose.2.finishClose :=
  have closed := gone_closeAll (b := { b with signalled := true }) known
  ⟨closed.unknown, closed.kept⟩

/-! ### A gate that is not known -/

/-- Nothing is handed to a gate that is `Gone`, and what arrives for it is dropped. -/
theorem Gone.ignored (gone : b.Gone id g) (message : Message) (chunk : String)
    (bytes : List UInt8) (isLast : Bool) :
    b.world.dispatch id message = (.gateClosed, b.world) ∧ b.frame id chunk isLast = b ∧
      b.binaryFrame id bytes isLast = b := by
  have unknown : b.world.gate? id = none := gone.unknown
  refine ⟨by rw [World.dispatch, unknown], by rw [frame, gone.unknown], ?_⟩
  unfold binaryFrame
  split
  · rw [frame, gone.unknown]
  · rw [gone.unknown]

/-! ### A gate that is closed -/

theorem work_eq_stop_iff : Work.of g = .stop ↔ g.cancelled := by
  unfold Work.of
  split
  · simp [*]
  · split <;> simp [*]

end Broker

/-- A gate is closed and takes neither messages nor requests. -/
structure Gate.Shut (g : Gate) : Prop where
  /-- It is closed. -/
  closed : g.state = .closed
  /-- Whatever the `message`, it answers `.gateClosed` and stays as it is. -/
  takesNoMessage (message : Message) : g.send message = (.gateClosed, g)
  /-- Whatever the `request`, it refuses it and stays as it is. -/
  takesNoRequest (request : Request) :
    g.forward request = (.error Gate.closedFault, g)

open Gate (Noticed)

/-- When the broker closes the gate `id`, by itself or with all others, it no longer knows it. The
gate is closed for good, and nothing is handed to it or taken for it. If no message was sent after
its writer was gone, those who hold it are told to stop, its worker stops, and nothing of a message
is kept. Otherwise (`Noticed calls`) nobody is ever told to stop, the worker does not stop, and what
had arrived of a message is kept. -/
theorem closed_for_good {ε : Type} [QueryEngine ε] {b b' : Broker ε} {id : GateId} {path : String}
    {config : GateConfig} {calls : List Gate.Call}
    (known : b.gate? id = some ((Gate.ofConfig path config).run calls))
    (unclosed : ∀ call ∈ calls, call.closes = false)
    (closing : b' = (b.closeGate id).2 ∨ b' = b.closeAll ∨ b' = b.shutdown) :
    ∃ g, b'.Gone id g ∧
      (∀ message, b'.world.dispatch id message = (.gateClosed, b'.world)) ∧
      (∀ later, (g.run later).Shut) ∧
      (¬Noticed calls → ∀ later, (g.run later).cancelled ∧ Broker.Work.of (g.run later) = .stop ∧
        ((∀ call ∈ later, call.isFragment = false) →
          (g.run later).fragments.isPending = false ∧ (g.run later).fragments.buffer = "")) ∧
      (Noticed calls → ∀ later, (g.run later).cancelled = false ∧
        Broker.Work.of (g.run later) ≠ .stop ∧
        ((∀ call ∈ later, call.isFragment = false) →
          (g.run later).fragments = ((Gate.ofConfig path config).run calls).fragments)) := by
  obtain ⟨untold, -, opened⟩ := Gate.run_of_not_closes path config unclosed
  generalize (Gate.ofConfig path config).run calls = g at known untold opened ⊢
  obtain ⟨closed, ofOpen, ofShut⟩ := Gate.finishClose_beginClose g
  have gone : b'.Gone id g.beginClose.2.finishClose := by
    rcases closing with rfl | rfl | rfl
    · exact Broker.gone_closeGate known
    · exact Broker.gone_closeAll known
    · exact Broker.gone_shutdown known
  -- From here on only the gate that is left matters, and that is closed.
  generalize g.beginClose.2.finishClose = left at closed ofOpen ofShut gone
  refine ⟨left, gone, fun message => (gone.ignored message "" [] true).1, fun later => ?_,
    fun unnoticed later => ?_, fun noticed later => ?_⟩ <;>
    obtain ⟨stillClosed, told, kept⟩ := Gate.run_of_closed closed later
  · obtain ⟨noMessage, noRequest⟩ := Gate.refuses_of_closed stillClosed
    exact ⟨stillClosed, noMessage, noRequest⟩
  · obtain ⟨cancelled, cleared⟩ := ofOpen (opened.2 unnoticed)
    rw [cancelled] at told
    refine ⟨told, Broker.work_eq_stop_iff.2 told, fun none => ?_⟩
    rw [kept none, cleared]
    exact ⟨rfl, rfl⟩
  · have shut : g.isOpen = false := Bool.eq_false_iff.2 fun isOpen => opened.1 isOpen noticed
    obtain ⟨uncancelled, same⟩ := ofShut shut
    rw [uncancelled, untold] at told
    refine ⟨told, fun stops => ?_, fun none => (kept none).trans same⟩
    rw [Broker.work_eq_stop_iff, told] at stops
    cases stops

/-- A gate on which a message has arrived in part and whose writer is gone. -/
def halfRead : GateId × Broker Memory :=
  let (id, opened) := (Broker.unused {}).openGate "/subscribe"
  (id, (opened.frame id "\x7b" false).dropWriter id)

/-- The worker of the gate of `halfRead` stops when the gate is closed, and the part of the message
is forgotten. -/
theorem closed_for_good_halfRead :
    ∃ g, (halfRead.2.closeGate halfRead.1).2.Gone halfRead.1 g ∧ Broker.Work.of g = .stop ∧
      g.fragments.buffer = "" := by
  have known : halfRead.2.gate? halfRead.1 = some ((Gate.ofConfig "/subscribe" {}).run
    [.fragment "\x7b" false, .dropWriter]) := by decide +kernel
  obtain ⟨g, gone, -, -, unnoticed, -⟩ := closed_for_good known (by decide) (.inl rfl)
  have silent : ¬Noticed [.fragment "\x7b" false, .dropWriter] := by
    rintro ⟨before, message, after, split, -⟩
    have sent : .send message ∈ [Gate.Call.fragment "\x7b" false, .dropWriter] := by simp [split]
    simp at sent
  obtain ⟨-, stops, forgotten⟩ := unnoticed silent []
  exact ⟨g, gone, stops, (forgotten nofun).2⟩

/-- At the gate of `halfRead`, bytes that spell no text are refused, which finds that the writer is
gone. When the gate is closed after that, its worker waits and the part of the message is kept. -/
theorem worker_waits_after_unheard_refusal :
    ∃ g, ((halfRead.2.binaryFrame halfRead.1 [0xff] true).closeGate halfRead.1).2.Gone
        halfRead.1 g ∧
      g.state = .closed ∧ g.cancelled = false ∧ Broker.Work.of g = .wait ∧
      g.fragments.buffer = "\x7b" := by
  obtain ⟨g, kept⟩ : ∃ g, ((halfRead.2.binaryFrame halfRead.1 [0xff] true).closeGate
      halfRead.1).2.departed[halfRead.1]? = some g := Option.isSome_iff_exists.1 (by decide +kernel)
  have shown : (((halfRead.2.binaryFrame halfRead.1 [0xff] true).closeGate
      halfRead.1).2.departed[halfRead.1]?).map
        (fun g => (g.state, g.cancelled, g.requests, g.fragments.buffer)) =
      some (.closed, false, [], "\x7b") := by decide +kernel
  rw [kept, Option.map_some, Option.some_inj] at shown
  obtain ⟨closed, untold, none, buffer⟩ : g.state = .closed ∧ g.cancelled = false ∧
      g.requests = [] ∧ g.fragments.buffer = "\x7b" := by simpa using shown
  exact ⟨g, ⟨by decide +kernel, kept⟩, closed, untold, by
    simp [Broker.Work.of, untold, Gate.takeRequest?, none], buffer⟩

end GraphBroker
