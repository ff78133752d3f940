import GraphBroker.Proofs.Gate.Passage

/-!
# Messages come in order and at most once

What the writer has returned is, in order, what was delivered first. A sender is told that the gate
is busy just when it is open and as many messages as may wait have been delivered and not taken. Any
other message is delivered as long as the gate is open, and the writer gets the oldest one. Once
someone has started to close the gate, nobody who comes then delivers a message, and the writer
returns none, even if some are still in the queue. This is so when calls are made one after another,
and it is so when they overlap, where a sender that has come before the close may still be answered
in another way.

## Main definitions

* `Passage.Sound`: what the gate has to do with what is noted.
* `Gate.along`, `Call.delivered`, `Call.received`: the messages of calls made one after another.
* `Gate.InOrder`, `Passage.InOrder`: in which order messages come, and who is told what, when calls
  are made one after another and when their stages overlap.

## Main statements

* `Sound.step`: every stage.
* `exists_run`: calls made one after another are stages in a row.
* `delivered_in_order`: all of this together.
-/

namespace GraphBroker

open Gate (Call ofConfig)

/-! ### Stages -/

namespace Passage

/-- What is delivered is taken or waits in the queue, and what is taken is returned or held by the
writer, as long as the gate is open. Whether it is open, and who has been told to stop, shows from
what is noted in `log`. -/
structure Sound (limit : Nat) (log : Log) (p : Passage) : Prop where
  /-- The queue has room for `limit` messages. -/
  capacity : p.gate.outboundCapacity = limit
  /-- There is a writer. -/
  writer : p.gate.hasWriter
  /-- No more than `limit` messages wait. -/
  room : p.gate.outbound.length ≤ limit
  /-- What is delivered has been taken or waits. -/
  queue : log.delivered = log.taken ++ p.gate.outbound
  /-- What is returned has been taken before anything else. -/
  ordered : log.received <+: log.taken
  /-- While the gate is open, what is taken has been returned or is held. -/
  held : p.gate.isOpen → log.taken = log.received ++ p.reading.held
  /-- The gate is open until someone starts to close it. -/
  opened : p.gate.isOpen = !log.closing
  /-- It shows from the gate whether those who hold it have been told to stop. -/
  told : p.gate.cancelled = log.told
  /-- Whoever starts to close the gate first goes on to tell those who hold it to stop. -/
  telling : log.closing = (p.telling || log.told)

variable {path : String} {config : GateConfig} {limit : Nat} {log : Log} {p q : Passage}
  {event : Event} {message : Message} {answer : Delivery}

theorem sound_opened (path : String) (config : GateConfig) :
    Sound (max config.outboundSize 1) {} { gate := ofConfig path config } where
  capacity := rfl
  writer := rfl
  room := Nat.zero_le _
  queue := rfl
  ordered := List.prefix_rfl
  held _ := rfl
  opened := rfl
  told := rfl
  telling := rfl

namespace Sound

theorem place (sound : Sound limit log p) (message : Message) :
    Sound limit (log.note (.placed message (p.gate.place message).1))
      { p with gate := (p.gate.place message).2, sending := p.sending.erase message } := by
  rw [Gate.place_of_hasWriter sound.writer]
  split
  · rename_i room
    refine { sound with room := ?_, queue := ?_ }
    · change (p.gate.outbound ++ [message]).length ≤ limit
      rw [List.length_append, ← sound.capacity]
      exact room
    · change log.delivered ++ [message] = log.taken ++ (p.gate.outbound ++ [message])
      rw [sound.queue, List.append_assoc]
  · exact { sound with }

theorem take {rest : Gate} (sound : Sound limit log p) (looking : p.reading = .looking)
    (found : p.gate.takeOldest? = some (message, rest)) :
    Sound limit (log.note (.took message))
      { p with gate := rest, reading := .holding message } := by
  obtain ⟨queued, same⟩ := Gate.takeOldest?_eq_some_iff.1 found
  rw [same]
  refine { sound with room := ?_, queue := ?_, ordered := ?_, held := fun opened => ?_ }
  · have room := sound.room
    rw [queued, List.length_cons] at room
    exact Nat.le_of_succ_le room
  · change log.delivered = log.taken ++ [message] ++ rest.outbound
    rw [sound.queue, queued, List.append_assoc]
    rfl
  · exact sound.ordered.trans (List.prefix_append ..)
  · change log.taken ++ [message] = log.received ++ [message]
    rw [sound.held opened, looking]
    rw [Reading.held, List.append_nil]

theorem hand (sound : Sound limit log p) (holding : p.reading = .holding message) :
    Sound limit (log.note (.returned (if p.gate.isOpen then some message else none)))
      { p with reading := .idle } := by
  cases opened : p.gate.isOpen with
  | true =>
    have taken : log.taken = log.received ++ [message] := by
      rw [sound.held opened, holding, Reading.held]
    exact { sound with
      ordered := taken ▸ List.prefix_rfl
      held := fun _ => taken.trans (List.append_nil _).symm }
  | false => exact { sound with held := fun still => by cases opened.symm.trans still }

/-- What the gate has to do with what is noted is kept by every stage from `p` to `q`. -/
theorem step (sound : Sound limit log p) (step : Step p event q) :
    Sound limit (log.note event) q := by
  cases step with
  | refuse message shut => exact sound
  | approach message opened => exact { sound with }
  | place underWay => exact sound.place _
  | stop idle told => exact sound
  | look idle untold =>
    exact { sound with held := fun opened => (sound.held opened).trans (by rw [idle]; rfl) }
  | wait looking empty =>
    exact { sound with held := fun opened => (sound.held opened).trans (by rw [looking]; rfl) }
  | take looking found => exact sound.take looking found
  | hand holding => exact sound.hand holding
  | begin =>
    have shut := Gate.isOpen_startClosing (g := p.gate)
    refine { sound with held := fun opened => ?_, opened := shut, telling := ?_ }
    · cases shut.symm.trans opened
    · -- If the gate was not open, someone else has started to close it before.
      change true = (p.telling || p.gate.isOpen || log.told)
      rw [sound.opened, Bool.or_right_comm, ← sound.telling, Bool.or_not_self]
  | tell telling =>
    have closing : log.closing := by rw [sound.telling, telling]; rfl
    exact { sound with told := rfl, telling := closing }
  | finish shut =>
    have later := Gate.isOpen_finishClose (g := p.gate)
    exact { sound with
      held := fun opened => by cases later.symm.trans opened
      opened := later.trans (shut.symm.trans sound.opened) }

end Sound

theorem Run.sound (run : Run path config log p) : Sound (max config.outboundSize 1) log p := by
  induction run with
  | opened => exact sound_opened path config
  | step _ step ih => exact ih.step step

/-- The stage fits what is noted in `log`. A sender or the writer is answered by what is noted, the
writer takes the oldest message, and it does not go on once it has been told to stop. -/
def Event.Fits (limit : Nat) (log : Log) : Event → Prop
  | .refused _ => log.closing
  | .admitted _ => log.closing = false
  | .placed _ answer =>
    answer = if log.delivered.length = log.taken.length + limit then .busy else .delivered
  | .looked => log.told = false
  | .waited => log.delivered = log.taken
  | .took message => log.taken ++ [message] <+: log.delivered
  | .returned answer => answer.isSome = !log.closing
  | .closing _ | .told | .closed => True

/-- After the stages noted in `log`, messages have come in the order in which they were delivered,
and whatever stage comes next fits. -/
structure InOrder (limit : Nat) (log : Log) (p : Passage) : Prop where
  /-- What the writer has returned is, in order, what was delivered first. -/
  received : log.received <+: log.delivered
  /-- Until someone starts to close the gate, what is taken has been returned, or is held. -/
  taken : log.closing = false → log.taken = log.received ++ p.reading.held
  /-- Every stage that may come next fits what is noted. -/
  fits (event : Event) (q : Passage) : Step p event q → event.Fits limit log
  /-- A `message` that finds no place leaves the gate as it is. -/
  busy (message : Message) (q : Passage) : Step p (.placed message .busy) q → q.gate = p.gate

namespace Sound

/-- The queue is full just when `limit` messages are delivered and not taken. -/
theorem place_eq (sound : Sound limit log p) (message : Message) : p.gate.place message =
    if log.delivered.length = log.taken.length + limit then (.busy, p.gate)
    else (.delivered, { p.gate with outbound := p.gate.outbound ++ [message] }) := by
  have room := sound.room
  have free : p.gate.outbound.length < p.gate.outboundCapacity ↔
      log.delivered.length ≠ log.taken.length + limit := by
    rw [sound.capacity, sound.queue, List.length_append]
    omega
  rw [Gate.place_of_hasWriter sound.writer]
  by_cases full : log.delivered.length = log.taken.length + limit
  · rw [if_neg (by simpa [free] using full), if_pos full]
  · rw [if_pos (free.2 full), if_neg full]

theorem fits (sound : Sound limit log p) (step : Step p event q) : event.Fits limit log := by
  have opened := sound.opened
  have told := sound.told
  have telling := sound.telling
  cases step with
  | refuse message shut => simpa [Event.Fits, shut] using opened
  | approach message open_ => simpa [Event.Fits, open_] using opened
  | place underWay =>
    rw [sound.place_eq, Event.Fits]
    split <;> rfl
  | stop idle stopped =>
    rw [stopped] at told
    rw [Event.Fits, telling, ← told]
    simp
  | look idle untold => exact told.symm.trans untold
  | wait looking empty =>
    rw [Event.Fits, sound.queue, Gate.takeOldest?_eq_none_iff.1 empty, List.append_nil]
  | take looking found =>
    obtain ⟨queued, -⟩ := Gate.takeOldest?_eq_some_iff.1 found
    rw [Event.Fits, sound.queue, queued]
    exact ⟨_, List.append_assoc ..⟩
  | hand holding =>
    rw [Event.Fits, ← opened]
    cases p.gate.isOpen <;> rfl
  | _ => trivial

theorem inOrder (sound : Sound limit log p) : p.InOrder limit log where
  received := sound.queue ▸ sound.ordered.trans (List.prefix_append ..)
  taken open_ := sound.held (by rw [sound.opened, open_]; rfl)
  fits _ _ := sound.fits
  busy message q step := by
    generalize noted : Event.placed message .busy = event at step
    cases step with
    | place underWay =>
      obtain ⟨rfl, answered⟩ := Event.placed.inj noted
      have placed := sound.place_eq message
      split at placed
      · exact congrArg Prod.snd placed
      · rw [placed] at answered
        cases answered
    | _ => cases noted

end Sound

end Passage

/-! ### Calls one after another -/

namespace Gate

/-- The message that a call on `g` delivers, if it does. -/
def Call.delivered (g : Gate) : Call → List Message
  | .send message => if (g.send message).1 = .delivered then [message] else []
  | _ => []

/-- The message that a call on `g` returns to the writer, if it does. -/
def Call.received (g : Gate) : Call → List Message
  | .receive =>
    match g.receive.1 with
    | .message message => [message]
    | _ => []
  | _ => []

/-- The messages that calls in a row have a `part` in, beginning with the gate `g`. -/
def along (part : Gate → Call → List Message) (g : Gate) : List Call → List Message
  | [] => []
  | call :: rest => part g call ++ along part (g.perform call) rest

/-- Whether the call has to do with messages for the client, or closes the gate. -/
def Call.isOutbound : Call → Bool
  | send _ | receive | beginClose | finishClose => true
  | _ => false

/-- Messages are sent and received, and the gate is closed only after someone has started to close
it. -/
structure Orderly (calls : List Call) : Prop where
  /-- There are no other calls. -/
  outbound : ∀ call ∈ calls, call.isOutbound
  /-- The gate is closed only after someone has started to close it: there is a `.beginClose` before
  each `.finishClose`. -/
  closed : ∀ before after, calls = before ++ .finishClose :: after → .beginClose ∈ before

/-- After the `calls`, made one after another on the gate `new`, messages have come in the order in
which they were delivered, and whether the gate is open, busy or closed shows from the `calls`. -/
structure InOrder (new : Gate) (limit : Nat) (calls : List Call) : Prop where
  /-- What has been returned is, in order, what was delivered first. -/
  received : new.along Call.received calls <+: new.along Call.delivered calls
  /-- The gate is open until the first `.beginClose`. -/
  opened : (new.run calls).isOpen ↔ .beginClose ∉ calls
  /-- The answer to `message` is `.busy` just when the gate is open and `limit` messages have been
  delivered and not received. -/
  busy_iff (message : Message) : ((new.run calls).send message).1 = .busy ↔
    (new.run calls).isOpen ∧ (new.along Call.delivered calls).length =
      (new.along Call.received calls).length + limit
  /-- A `message` that is answered `.busy` leaves the gate as it is. -/
  busy (message : Message) : ((new.run calls).send message).1 = .busy →
    ((new.run calls).send message).2 = new.run calls
  /-- As long as the gate is open, a `message` that is not answered `.busy` is delivered. -/
  delivered (message : Message) : (new.run calls).isOpen →
    ((new.run calls).send message).1 ≠ .busy → ((new.run calls).send message).1 = .delivered
  /-- As long as the gate is open, the writer gets the oldest of the messages that are `waiting`,
  which are delivered and not received, if there is one. -/
  oldest (waiting : List Message) : (new.run calls).isOpen →
    new.along Call.delivered calls = new.along Call.received calls ++ waiting →
      (new.run calls).receive.1 = waiting.head?.elim .waiting .message
  /-- From the first `.beginClose` on, no message is delivered or returned. -/
  closed : .beginClose ∈ calls →
    (∀ message, ((new.run calls).send message).1 = .gateClosed) ∧
      (new.run calls).receive.1 = .ended

variable {path : String} {config : GateConfig} {log : Log} {g : Gate} {calls : List Call}
  {call : Call} {part : Gate → Call → List Message}

theorem along_concat :
    g.along part (calls ++ [call]) = g.along part calls ++ part (g.run calls) call := by
  induction calls generalizing g with
  | nil => rw [List.nil_append, along, along, along, List.append_nil]; rfl
  | cons first rest ih =>
    rw [List.cons_append, along, ih, along, List.append_assoc]
    rfl

theorem Orderly.of_concat (orderly : Orderly (calls ++ [call])) :
    Orderly calls ∧ call.isOutbound ∧ (call = .finishClose → .beginClose ∈ calls) := by
  refine ⟨⟨fun other listed => orderly.outbound other (List.mem_append_left _ listed),
    fun before after split => ?_⟩, orderly.outbound call (by simp), ?_⟩
  · exact orderly.closed before (after ++ [call]) (by rw [split]; simp)
  · rintro rfl
    exact orderly.closed calls [] rfl

/-! ### Calls as stages -/

open Passage (Run)

/-- A `message` is sent to `g` while nobody else does anything. -/
theorem exists_run_send (run : Run path config log { gate := g }) (message : Message) :
    ∃ later, Run path config later { gate := (g.send message).2 } ∧
      later.delivered = log.delivered ++ Call.delivered g (.send message) ∧
      later.received = log.received ∧ later.closing = log.closing := by
  rw [Call.delivered, send_eq_stages]
  cases opened : g.isOpen with
  | false =>
    exact ⟨log, run.step (.refuse message opened), (List.append_nil _).symm, rfl, rfl⟩
  | true =>
    have placed := (run.step (.approach message opened)).step (.place (List.mem_cons_self ..))
    -- Nobody else is under way, so that no sender is left.
    rw [List.erase_cons_head] at placed
    refine ⟨_, placed, ?_⟩
    rw [if_pos rfl]
    cases (g.place message).1 <;> simp [Log.note]

/-- The writer takes a message of `g` while nobody else does anything. -/
theorem exists_run_receive (run : Run path config log { gate := g }) :
    ∃ later, Run path config later { gate := g.receive.2 } ∧ later.delivered = log.delivered ∧
      later.received = log.received ++ Call.received g .receive ∧ later.closing = log.closing := by
  rw [Call.received, receive_eq_stages]
  cases told : g.cancelled with
  | true => exact ⟨log, run.step (.stop rfl told), rfl, (List.append_nil _).symm, rfl⟩
  | false =>
    have looked := run.step (.look rfl told)
    cases found : g.takeOldest? with
    | none => exact ⟨_, looked.step (.wait rfl found), rfl, (List.append_nil _).symm, rfl⟩
    | some taken =>
      obtain ⟨message, rest⟩ := taken
      refine ⟨_, (looked.step (.take rfl found)).step (.hand rfl), ?_⟩
      cases opened : rest.isOpen <;> simp [Log.note, opened]

/-- Someone starts to close `g` while nobody else does anything. -/
theorem exists_run_beginClose (run : Run path config log { gate := g }) :
    ∃ later, Run path config later { gate := g.beginClose.2 } ∧
      later.delivered = log.delivered ∧ later.received = log.received ∧ later.closing := by
  have begun := run.step .begin
  rw [beginClose_eq_stages]
  cases opened : g.isOpen with
  | true =>
    rw [opened] at begun
    exact ⟨_, begun.step (.tell rfl), rfl, rfl, rfl⟩
  | false =>
    rw [opened] at begun
    exact ⟨_, begun, rfl, rfl, rfl⟩

/-- The `calls`, when they are made one after another, are stages in a row. -/
theorem exists_run (orderly : Orderly calls) (path : String) (config : GateConfig) :
    ∃ log, Run path config log { gate := (ofConfig path config).run calls } ∧
      log.delivered = (ofConfig path config).along Call.delivered calls ∧
      log.received = (ofConfig path config).along Call.received calls ∧
      (log.closing ↔ .beginClose ∈ calls) := by
  -- What is noted grows at its end, so that the induction is on the last call.
  induction calls using List.reverseRecOn with
  | nil => exact ⟨{}, .opened, rfl, rfl, by simp⟩
  | append_singleton calls call ih =>
    obtain ⟨before, outbound, shut⟩ := orderly.of_concat
    obtain ⟨log, run, delivered, received, closing⟩ := ih before
    rw [run_concat, along_concat, along_concat, ← delivered, ← received]
    generalize (ofConfig path config).run calls = g at run
    cases call with
    | send message =>
      obtain ⟨later, now, more, same, still⟩ := exists_run_send run message
      exact ⟨later, now, more, same.trans (List.append_nil _).symm, by simp [still, closing]⟩
    | receive =>
      obtain ⟨later, now, same, more, still⟩ := exists_run_receive run
      exact ⟨later, now, same.trans (List.append_nil _).symm, more, by simp [still, closing]⟩
    | beginClose =>
      obtain ⟨later, now, same, others, begun⟩ := exists_run_beginClose run
      exact ⟨later, now, same.trans (List.append_nil _).symm,
        others.trans (List.append_nil _).symm, by simp [begun]⟩
    | finishClose =>
      -- Someone has started to close the gate, and so it may be closed.
      have shut : g.isOpen = false := by
        rw [run.sound.opened, closing.2 (shut rfl)]
        rfl
      exact ⟨log, run.step (.finish shut), (List.append_nil _).symm, (List.append_nil _).symm,
        by simp [closing]⟩
    | _ => cases outbound

/-- When no call is under way, the writer holds nothing, so that what is taken has been returned. -/
theorem taken_of_sound {limit : Nat} (sound : Passage.Sound limit log { gate := g })
    (opened : g.isOpen) : log.taken = log.received :=
  (sound.held opened).trans (List.append_nil _)

/-- When no call is under way, what becomes of `message` shows from what is noted in `log`. -/
theorem send_of_sound {limit : Nat} (sound : Passage.Sound limit log { gate := g })
    (message : Message) : g.send message =
      if g.isOpen then
        if log.delivered.length = log.received.length + limit then (.busy, g)
        else (.delivered, { g with outbound := g.outbound ++ [message] })
      else (.gateClosed, g) := by
  rw [send_eq_stages]
  cases opened : g.isOpen with
  | true =>
    rw [← taken_of_sound sound opened]
    exact sound.place_eq message
  | false => rfl

/-- When no call is under way, whoever has started to close the gate has told all others to
stop. -/
theorem cancelled_of_sound {limit : Nat} (sound : Passage.Sound limit log { gate := g }) :
    g.cancelled = log.closing := by
  rw [sound.telling, Bool.false_or]
  exact sound.told

/-- When no call is under way, the writer of an open gate gets the oldest of the messages that are
`waiting`. -/
theorem receive_of_sound {limit : Nat} (sound : Passage.Sound limit log { gate := g })
    (opened : g.isOpen) {waiting : List Message} (split : log.delivered = log.received ++ waiting) :
    g.receive.1 = waiting.head?.elim .waiting .message := by
  have queued : g.outbound = waiting := by
    have queue := sound.queue
    rw [taken_of_sound sound opened, split] at queue
    exact (List.append_cancel_left queue).symm
  have untold : g.cancelled = false := by
    have closing := sound.opened.symm.trans opened
    rw [cancelled_of_sound sound]
    simpa using closing
  rw [receive, untold, queued, opened]
  cases waiting <;> rfl

/-- If the `calls` are `Orderly` and made one after another, they keep messages in order. -/
theorem inOrder_of_orderly (orderly : Orderly calls) (path : String) (config : GateConfig) :
    (ofConfig path config).InOrder (max config.outboundSize 1) calls := by
  obtain ⟨log, run, delivered, received, closing⟩ := exists_run orderly path config
  have sound := run.sound
  have opened : ((ofConfig path config).run calls).isOpen ↔ .beginClose ∉ calls := by
    rw [sound.opened, ← closing, Bool.not_eq_true', Bool.not_eq_true]
  refine ⟨?_, opened, fun message => ?_, fun message busy => ?_, fun message open_ free => ?_,
    fun waiting open_ split => ?_, fun begun => ⟨fun message => ?_, ?_⟩⟩
  · rw [← delivered, ← received]
    exact sound.inOrder.received
  · rw [← delivered, ← received, send_of_sound sound]
    split
    · rename_i open_
      split <;> rename_i full <;> simp [open_, full]
    · rename_i shut
      simp [shut]
  · rw [send_of_sound sound] at busy ⊢
    split at busy
    · rename_i open_
      split at busy
      · rename_i full
        rw [if_pos open_, if_pos full]
      · cases busy
    · cases busy
  · rw [send_of_sound sound, if_pos open_] at free ⊢
    split at free
    · exact absurd rfl free
    · rename_i full
      rw [if_neg full]
  · rw [← delivered, ← received] at split
    exact receive_of_sound sound open_ split
  · rw [send_eq_stages, if_neg fun open_ => opened.1 open_ begun]
  · rw [receive_eq_stages, cancelled_of_sound sound, closing.2 begun]
    rfl

end Gate

/-- Whatever `calls` are made one after another, and whatever stages of calls that overlap lead to
`p`, messages come in order, at most once, and not after the gate has started to close. What this
means in the first case is `Gate.InOrder`, and in the second `Passage.InOrder`. -/
theorem delivered_in_order (path : String) (config : GateConfig) :
    (∀ calls, Gate.Orderly calls →
      (ofConfig path config).InOrder (max config.outboundSize 1) calls) ∧
    ∀ log p, Passage.Run path config log p → p.InOrder (max config.outboundSize 1) log :=
  ⟨fun _ orderly => Gate.inOrder_of_orderly orderly path config,
    fun _ _ run => run.sound.inOrder⟩

/-- With a place for one message, a second one finds the gate busy, and a message that waits is not
returned after the gate has started to close. A sender that has found the gate open is answered
that its message is delivered, even if the gate has started to close since. The writer, which has
not been told to stop, takes this message and returns none. -/
theorem delivered_in_order_late :
    (((ofConfig "/subscribe" { outboundSize := 1 }).run [.send .updated]).send .updated).1 = .busy ∧
    ((ofConfig "/subscribe" { outboundSize := 1 }).run
      [.send .updated, .beginClose]).receive.1 = .ended ∧
    ∃ log p, Passage.Run "/subscribe" { outboundSize := 1 } log p ∧ log.closing ∧
      log.delivered = [.updated] ∧ log.taken = [.updated] ∧ log.received <+: log.delivered ∧
      Passage.Event.Fits 1 log (.returned none) := by
  obtain ⟨calls, stages⟩ := delivered_in_order "/subscribe" { outboundSize := 1 }
  have orderly {calls : List Call} (outbound : ∀ call ∈ calls, call.isOutbound)
      (unclosed : .finishClose ∉ calls) : Gate.Orderly calls :=
    ⟨outbound, fun _ _ split => absurd (split ▸ by simp) unclosed⟩
  have one := calls [.send .updated] (orderly (by decide) (by decide))
  have two := calls [.send .updated, .beginClose] (orderly (by decide) (by decide))
  have fresh : Passage.Run "/subscribe" { outboundSize := 1 } {} _ := .opened
  have begun := (fresh.step (.approach .updated rfl)).step .begin
  have placed := begun.step (.place (List.mem_cons_self ..))
  have taken := (placed.step (.look rfl rfl)).step (.take rfl rfl)
  have inOrder := stages _ _ taken
  exact ⟨(one.busy_iff .updated).2 ⟨by decide, by decide⟩, (two.closed (by decide)).2, _, _, taken,
    rfl, rfl, rfl, inOrder.received, inOrder.fits _ _ (.hand rfl)⟩

end GraphBroker
