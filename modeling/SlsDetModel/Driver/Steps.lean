import SlsDetModel.Driver.Driver

/-!
# What a step of the driver can do

Inversion of the two step functions with more than one outcome. `WaitStep` lists the ways a timed
wait of the caller ends, `WorkStep` the moves of the worker; every invariant of the driver is
proved by cases over these, and none unfolds the step functions again.
-/

namespace SlsDetDriver

variable {lib : Library} {d d' : SlsDetDriver}

/-- The wait the caller is in. -/
def AtStage (d : SlsDetDriver) (p : Packet) : Stage → Prop
  | .flush => d.caller = .flushing p
  | .send => d.caller = .sending p
  | .receive => d.caller = .receiving p

/-- The ways a timed wait of the caller ends. -/
inductive WaitStep (d : SlsDetDriver) : Bool → SlsDetDriver → Prop
  /-- It expires, at whatever stage the caller is in. -/
  | expire (p : Packet) (stage : Stage) (hc : d.AtStage p stage) :
      WaitStep d true (d.giveUp p stage)
  /-- `flush()` takes a stale reply. -/
  | flush (p q : Packet) (rest : BoundedQueue Packet maxMqCapacity) (hc : d.caller = .flushing p)
      (hq : d.replyQueue.items = q :: rest.items) :
      WaitStep d false { d with
        replyQueue := rest
        pending := d.pending - 1
        caller := flushLoop p (d.pending - 1)
        journal := { d.journal with
          received := d.journal.received ++ [q]
          flushed := d.journal.flushed ++ [q] } }
  /-- The request is sent. -/
  | send (p : Packet) (queue : BoundedQueue Packet maxMqCapacity) (hc : d.caller = .sending p)
      (hq : queue.items = d.requestQueue.items ++ [p]) :
      WaitStep d false { d with
        requestQueue := queue
        pending := d.pending + 1
        caller := .receiving p
        journal := { d.journal with sent := d.journal.sent ++ [p] } }
  /-- The final receive takes a reply. -/
  | receive (p q : Packet) (rest : BoundedQueue Packet maxMqCapacity) (hc : d.caller = .receiving p)
      (hq : d.replyQueue.items = q :: rest.items) :
      WaitStep d false { d with
        replyQueue := rest
        pending := d.pending - 1
        caller := .returned ⟨p.call, q.msg⟩
        journal := { d.journal with
          received := d.journal.received ++ [q]
          outcomes := d.journal.outcomes ++ [⟨p.call, p.msg, .answered q.msg⟩] } }

/-- A wait ends in one of the ways listed. The size check of the final receive never fires: every
send passes the size of a message. -/
theorem waitStep_of_wait {expired : Bool} (h : d.wait expired = some d') :
    WaitStep d expired d' := by
  unfold wait at h
  split at h
  case h_1 p hc =>
    cases expired with
    | true => exact Option.some.inj h ▸ .expire p .flush hc
    | false =>
      obtain ⟨⟨q, rest⟩, hq, rfl⟩ := Option.map_eq_some_iff.1 h
      exact .flush p q rest hc (BoundedQueue.receive?_eq_some_iff.1 hq)
  case h_2 p hc =>
    cases expired with
    | true => exact Option.some.inj h ▸ .expire p .send hc
    | false =>
      obtain ⟨queue, hq, rfl⟩ := Option.map_eq_some_iff.1 h
      exact .send p queue hc (BoundedQueue.send?_eq_some_iff.1 hq)
  case h_3 p hc =>
    cases expired with
    | true => exact Option.some.inj h ▸ .expire p .receive hc
    | false =>
      obtain ⟨⟨q, rest⟩, hq, rfl⟩ := Option.map_eq_some_iff.1 h
      exact .receive p q rest hc (BoundedQueue.receive?_eq_some_iff.1 hq)
  case h_4 => cases h

/-- The reply the worker makes for a request, and the state it leaves behind, once the lazy
`initialize()` has been tried: what `process()` says, or an error when there is no detector. -/
def respond (lib : Library) (c : Core) (m : SlsDetMessage) : SlsDetMessage × Core :=
  if c.det.isSome then c.process lib m else (.ofType .error, c)

/-- The moves of the worker. -/
inductive WorkStep (lib : Library) (d : SlsDetDriver) : SlsDetDriver → Prop
  /-- The loop test. -/
  | test (hw : d.worker = .test) :
      WorkStep lib d { d with worker := if d.running then .receiving else .exited }
  /-- A request is taken. -/
  | take (p : Packet) (rest : BoundedQueue Packet maxMqCapacity) (hw : d.worker = .receiving)
      (hq : d.requestQueue.items = p :: rest.items) :
      WorkStep lib d { d with
        requestQueue := rest
        worker := .holding p
        journal := { d.journal with taken := d.journal.taken ++ [p] } }
  /-- The lazy initialization. -/
  | prepare (p : Packet) (hw : d.worker = .holding p) :
      WorkStep lib d { d with core := d.core.initializeDet lib, worker := .ready p }
  /-- The request is answered. -/
  | answer (p : Packet) (hw : d.worker = .ready p) :
      WorkStep lib d (d.answer p (respond lib d.core p.msg).1 d.core.det.isSome
        (respond lib d.core p.msg).2)
  /-- The reply is sent. -/
  | reply (p : Packet) (queue : BoundedQueue Packet maxMqCapacity) (hw : d.worker = .replying p)
      (hq : queue.items = d.replyQueue.items ++ [p]) :
      WorkStep lib d { d with replyQueue := queue, worker := .test }

/-- The worker moves in one of the ways listed. As for the caller, no message has the wrong size. -/
theorem workStep_of_work (h : d.work lib = some d') : WorkStep lib d d' := by
  unfold work at h
  split at h
  case h_1 hw => exact Option.some.inj h ▸ .test hw
  case h_2 hw =>
    obtain ⟨⟨p, rest⟩, hq, rfl⟩ := Option.map_eq_some_iff.1 h
    exact .take p rest hw (BoundedQueue.receive?_eq_some_iff.1 hq)
  case h_3 p hw =>
    rw [if_neg (by simp [Packet.nbytes])] at h
    exact Option.some.inj h ▸ .prepare p hw
  case h_4 p hw =>
    have key : d.answer p (respond lib d.core p.msg).1 d.core.det.isSome
        (respond lib d.core p.msg).2 = d' := by
      refine Option.some.inj (Eq.trans ?_ h)
      rw [respond]
      split
      case isTrue hdet => rw [hdet]
      case isFalse hdet => rw [Bool.eq_false_iff.2 hdet]
    exact key ▸ .answer p hw
  case h_5 p hw =>
    obtain ⟨queue, hq, rfl⟩ := Option.map_eq_some_iff.1 h
    exact .reply p queue hw (BoundedQueue.send?_eq_some_iff.1 hq)
  case h_6 => cases h

/-- Entering `request()`: the call is numbered, and `flush()` makes its first loop test. -/
theorem request_eq_some_iff {m : SlsDetMessage} :
    d.request m = some d' ↔ d.caller = .idle ∧ d' = { d with
      caller := flushLoop ⟨d.journal.called.length, m⟩ d.pending
      journal := { d.journal with called := d.journal.called ++ [m] } } := by
  unfold request
  split
  case h_1 hc => exact ⟨fun h ↦ ⟨hc, (Option.some.inj h).symm⟩, fun h ↦ congrArg some h.2.symm⟩
  case h_2 hc => exact ⟨fun h ↦ (nomatch h), fun h ↦ (hc h.1).elim⟩

theorem finish_eq_some_iff :
    d.finish = some d' ↔ (∃ p, d.caller = .returned p) ∧ d' = { d with caller := .idle } := by
  unfold finish
  split
  case h_1 p hc =>
    exact ⟨fun h ↦ ⟨⟨p, hc⟩, (Option.some.inj h).symm⟩, fun h ↦ congrArg some h.2.symm⟩
  case h_2 hc => exact ⟨fun h ↦ (nomatch h), fun ⟨⟨p, hp⟩, _⟩ ↦ (hc p hp).elim⟩

theorem inspect_eq_some_iff {rep : SlsDetMessage} :
    d.inspect rep = some d' ↔ d.caller = .idle ∧ d' = { d with journal := { d.journal with
      inspected := d.journal.inspected ++
        [⟨d.journal.called.length - 1, rep, textOf d.core rep⟩] } } := by
  unfold inspect
  split
  case h_1 hc => exact ⟨fun h ↦ ⟨hc, (Option.some.inj h).symm⟩, fun h ↦ congrArg some h.2.symm⟩
  case h_2 hc => exact ⟨fun h ↦ (nomatch h), fun h ↦ (hc h.1).elim⟩

theorem destroy_eq_some_iff :
    d.destroy = some d' ↔
      d.caller = .idle ∧ d' = { d with running := false, caller := .stopping } := by
  unfold destroy
  split
  case h_1 hc => exact ⟨fun h ↦ ⟨hc, (Option.some.inj h).symm⟩, fun h ↦ congrArg some h.2.symm⟩
  case h_2 hc => exact ⟨fun h ↦ (nomatch h), fun h ↦ (hc h.1).elim⟩

theorem stopReply_eq_some_iff :
    d.stopReply = some d' ↔ d.caller = .stopping ∧ ∃ queue : BoundedQueue Packet maxMqCapacity,
      queue.items = d.replyQueue.items ++ [d.exitPacket] ∧
        d' = { d with replyQueue := queue, caller := .posting } := by
  unfold stopReply
  split
  case h_1 hc =>
    rw [Option.map_eq_some_iff]
    exact ⟨fun ⟨queue, hq, h⟩ ↦ ⟨hc, queue, BoundedQueue.send?_eq_some_iff.1 hq, h.symm⟩,
      fun ⟨_, queue, hq, h⟩ ↦ ⟨queue, BoundedQueue.send?_eq_some_iff.2 hq, h.symm⟩⟩
  case h_2 hc => exact ⟨fun h ↦ (nomatch h), fun h ↦ (hc h.1).elim⟩

theorem stopRequest_eq_some_iff :
    d.stopRequest = some d' ↔ d.caller = .posting ∧ ∃ queue : BoundedQueue Packet maxMqCapacity,
      queue.items = d.requestQueue.items ++ [d.exitPacket] ∧
        d' = { d with requestQueue := queue, caller := .stopped } := by
  unfold stopRequest
  split
  case h_1 hc =>
    rw [Option.map_eq_some_iff]
    exact ⟨fun ⟨queue, hq, h⟩ ↦ ⟨hc, queue, BoundedQueue.send?_eq_some_iff.1 hq, h.symm⟩,
      fun ⟨_, queue, hq, h⟩ ↦ ⟨queue, BoundedQueue.send?_eq_some_iff.2 hq, h.symm⟩⟩
  case h_2 hc => exact ⟨fun h ↦ (nomatch h), fun h ↦ (hc h.1).elim⟩

end SlsDetDriver
