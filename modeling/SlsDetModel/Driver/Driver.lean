import SlsDetModel.Concurrency.BoundedQueue
import SlsDetModel.Concurrency.LabelledMachine
import SlsDetModel.Driver.Handlers

/-!
# The driver: one caller, one worker, two queues

`SlsDetDriver` as a labelled machine. The **caller** is whichever thread is inside `request()`,
or inside the destructor; the **worker** is the thread in `run()`. They share the two message
queues, `_running` and, at teardown, the detector pointer; everything else belongs to one of them.

A step is what one thread does between two points where the other can be noticed. Each blocking
queue operation is one step, and so is each part of the worker's loop body that touches shared
state: the test of `_running`, the receive, the lazy `initialize()`, the call of `process()`, the
send of the reply.

* A timed wait either completes or expires, as its label says; an expired wait leaves the queue
  alone. A timed receive completes only when there is an item, a timed send only when there is
  room.
* An untimed operation is simply not enabled while it would block.

`initialize()`, `process()` and `shutdown()` are one step each, though they make several calls to
the library. Of the first two the caller cannot tell: it sees the reply only. But the detector
pointer has no lock, and nothing keeps `shutdown()` from overlapping with them, when the exit
handler calls it or a destructor that has waited long enough. What then happens is not among the
runs of this machine. Statements about the life of the detector are for the runs in which
`shutdown()` does not find the worker at work at all (`Undisturbed`).

`_pending` is private to the caller, so its updates go with the queue operation they follow.

## The journal

`Journal` records what the threads did: calls, sends, takes, answers, endings. Packets carry the
number of the call they belong to. Both are bookkeeping for the statements about the driver — no
step consults them, and erasing them leaves the behaviour as it is.
-/

/-- `sizeof(SlsDetMessage)`: two enumerations and an eight-byte union. -/
def messageSize : ℕ := 16

/-- The capacity of both queues (`MAX_MQ_CAPACITY`). -/
abbrev maxMqCapacity : ℕ := 4

/-- A queued message, with the number of the `request()` call it belongs to. -/
structure Packet where
  call : ℕ
  msg : SlsDetMessage
  deriving DecidableEq

/-- The size a receive reports. Every send of the driver passes `sizeof` of the message. -/
def Packet.nbytes (_ : Packet) : ℕ := messageSize

/-- The position of the worker in `run()`. -/
inductive Worker
  /-- At the loop test. -/
  | test
  /-- Past the test, in the untimed receive. -/
  | receiving
  /-- With a message, before the lazy `initialize()`. -/
  | holding (p : Packet)
  /-- Past the lazy `initialize()`. -/
  | ready (p : Packet)
  /-- In the untimed send of a reply. -/
  | replying (p : Packet)
  /-- Out of the loop. -/
  | exited
  deriving DecidableEq

/-- The position of the caller. -/
inductive Caller
  | idle
  /-- In the receive of `flush()`. -/
  | flushing (p : Packet)
  /-- In the timed send of `request()`. -/
  | sending (p : Packet)
  /-- In the final receive of `request()`. -/
  | receiving (p : Packet)
  /-- `request()` has returned this message. -/
  | returned (p : Packet)
  /-- In the destructor: `_running` is cleared, `stop()` is about to post Exit on `_reply`. -/
  | stopping
  /-- `stop()` is about to post Exit on `_request`. -/
  | posting
  /-- `stop()` has returned. -/
  | stopped
  deriving DecidableEq

/-- The wait of `request()` that expired. -/
inductive Stage
  | flush | send | receive
  deriving DecidableEq, Repr

/-- How a call ended: with the message of its final receive, or with Timeout. -/
inductive Ending
  | answered (rep : SlsDetMessage)
  | gaveUp (stage : Stage)
  deriving DecidableEq

/-- A finished call. -/
structure Outcome where
  call : ℕ
  req : SlsDetMessage
  ending : Ending
  deriving DecidableEq

/-- One iteration of the worker's loop body. -/
structure Exchange where
  call : ℕ
  req : SlsDetMessage
  rep : SlsDetMessage
  /-- `process()` was called; otherwise there was no detector and the reply is an error. -/
  processed : Bool
  /-- The text the reply pointed to when it was made. -/
  text : Option Text
  deriving DecidableEq

/-- A look at the text behind a string reply. -/
structure Inspection where
  call : ℕ
  rep : SlsDetMessage
  /-- The text found; `none` when the slot no longer held the version pointed to. -/
  seen : Option Text
  deriving DecidableEq

/-- What the threads did so far, oldest first. -/
structure Journal where
  called : List SlsDetMessage := []
  sent : List Packet := []
  taken : List Packet := []
  answered : List Exchange := []
  received : List Packet := []
  flushed : List Packet := []
  outcomes : List Outcome := []
  inspected : List Inspection := []

/-- A detector driver. -/
structure SlsDetDriver where
  running : Bool := true
  pending : ℕ := 0
  core : Core
  requestQueue : BoundedQueue Packet maxMqCapacity := .empty
  replyQueue : BoundedQueue Packet maxMqCapacity := .empty
  worker : Worker := .test
  caller : Caller := .idle
  journal : Journal := {}

namespace SlsDetDriver

/-- The constructor. -/
def new (hostName : Text) (id : Int) : SlsDetDriver where
  core := { id := id, hostname := hostName }

/-- The text a message points to: what `asString()` and `dump()` read. -/
def textOf (c : Core) (m : SlsDetMessage) : Option Text :=
  match m.data with
  | .string pgp => c.cache.deref pgp
  | _ => none

/-! ### The caller -/

/-- Where `flush()` goes on, by its loop test on `_pending`. -/
def flushLoop (p : Packet) (pending : ℕ) : Caller := if pending > 0 then .flushing p else .sending p

/-- Give up with Timeout. -/
def giveUp (d : SlsDetDriver) (p : Packet) (stage : Stage) : SlsDetDriver :=
  { d with
    caller := .returned ⟨p.call, .ofType .timeout⟩
    journal := { d.journal with
      outcomes := d.journal.outcomes ++ [⟨p.call, p.msg, .gaveUp stage⟩] } }

/-- Enter `request()`. -/
def request (d : SlsDetDriver) (m : SlsDetMessage) : Option SlsDetDriver :=
  match d.caller with
  | .idle => some { d with
      caller := flushLoop ⟨d.journal.called.length, m⟩ d.pending
      journal := { d.journal with called := d.journal.called ++ [m] } }
  | _ => none

/-- A receive of `flush()` completed. -/
def flush (d : SlsDetDriver) (p : Packet) : Option SlsDetDriver :=
  d.replyQueue.receive?.map fun (q, rest) ↦ { d with
    replyQueue := rest
    pending := d.pending - 1
    caller := flushLoop p (d.pending - 1)
    journal := { d.journal with
      received := d.journal.received ++ [q]
      flushed := d.journal.flushed ++ [q] } }

/-- The send of `request()` completed. -/
def send (d : SlsDetDriver) (p : Packet) : Option SlsDetDriver :=
  (d.requestQueue.send? p).map fun queue ↦ { d with
    requestQueue := queue
    pending := d.pending + 1
    caller := .receiving p
    journal := { d.journal with sent := d.journal.sent ++ [p] } }

/-- The final receive of `request()` completed; a message of the wrong size would be an error. -/
def receive (d : SlsDetDriver) (p : Packet) : Option SlsDetDriver :=
  d.replyQueue.receive?.map fun (q, rest) ↦
    let ret := if q.nbytes ≠ messageSize then SlsDetMessage.ofType .error else q.msg
    { d with
      replyQueue := rest
      pending := d.pending - 1
      caller := .returned ⟨p.call, ret⟩
      journal := { d.journal with
        received := d.journal.received ++ [q]
        outcomes := d.journal.outcomes ++ [⟨p.call, p.msg, .answered ret⟩] } }

/-- The wait the caller is in ends: it expires, or it completes. -/
def wait (d : SlsDetDriver) (expired : Bool) : Option SlsDetDriver :=
  match d.caller with
  | .flushing p => if expired then some (d.giveUp p .flush) else d.flush p
  | .sending p => if expired then some (d.giveUp p .send) else d.send p
  | .receiving p => if expired then some (d.giveUp p .receive) else d.receive p
  | _ => none

/-- The caller takes the message `request()` returned. -/
def finish (d : SlsDetDriver) : Option SlsDetDriver :=
  match d.caller with
  | .returned _ => some { d with caller := .idle }
  | _ => none

/-- The caller looks at the text behind a message it was returned: `dump()` and `asString()`. -/
def inspect (d : SlsDetDriver) (rep : SlsDetMessage) : Option SlsDetDriver :=
  match d.caller with
  | .idle => some { d with journal := { d.journal with
      inspected := d.journal.inspected ++
        [⟨d.journal.called.length - 1, rep, textOf d.core rep⟩] } }
  | _ => none

/-! ### The destructor and `shutdown` -/

/-- The Exit message of `stop()`. It belongs to no call and is numbered after the last one. -/
def exitPacket (d : SlsDetDriver) : Packet := ⟨d.journal.called.length, .ofType .exit⟩

/-- The destructor clears `_running`. -/
def destroy (d : SlsDetDriver) : Option SlsDetDriver :=
  match d.caller with
  | .idle => some { d with running := false, caller := .stopping }
  | _ => none

/-- `stop()` posts Exit on `_reply`. -/
def stopReply (d : SlsDetDriver) : Option SlsDetDriver :=
  match d.caller with
  | .stopping => (d.replyQueue.send? d.exitPacket).map fun queue ↦
      { d with replyQueue := queue, caller := .posting }
  | _ => none

/-- `stop()` posts Exit on `_request`. -/
def stopRequest (d : SlsDetDriver) : Option SlsDetDriver :=
  match d.caller with
  | .posting => (d.requestQueue.send? d.exitPacket).map fun queue ↦
      { d with requestQueue := queue, caller := .stopped }
  | _ => none

/-- `shutdown()`, called by the destructor when the worker is gone (or late), and by the exit
handler of the port. -/
def shutdown (d : SlsDetDriver) : SlsDetDriver := { d with core := d.core.shutdown }

/-! ### The worker -/

/-- Send an answer for the request `p`, and record it. -/
def answer (d : SlsDetDriver) (p : Packet) (rep : SlsDetMessage) (processed : Bool) (c : Core) :
    SlsDetDriver :=
  { d with
    core := c
    worker := .replying ⟨p.call, rep⟩
    journal := { d.journal with
      answered := d.journal.answered ++ [⟨p.call, p.msg, rep, processed, textOf c rep⟩] } }

/-- One step of `run()`. -/
def work (lib : Library) (d : SlsDetDriver) : Option SlsDetDriver :=
  match d.worker with
  | .test => some { d with worker := if d.running then .receiving else .exited }
  | .receiving => d.requestQueue.receive?.map fun (p, rest) ↦ { d with
      requestQueue := rest
      worker := .holding p
      journal := { d.journal with taken := d.journal.taken ++ [p] } }
  | .holding p =>
    if p.nbytes ≠ messageSize then some (d.answer p (.ofType .error) false d.core)
    else some { d with core := d.core.initializeDet lib, worker := .ready p }
  | .ready p =>
    if d.core.det.isSome then
      let (rep, c) := d.core.process lib p.msg
      some (d.answer p rep true c)
    else some (d.answer p (.ofType .error) false d.core)
  | .replying p => (d.replyQueue.send? p).map fun queue ↦
      { d with replyQueue := queue, worker := .test }
  | .exited => none

/-! ### The machine -/

/-- Who moves, and how a timed wait ends. -/
inductive Label
  | request (m : SlsDetMessage)
  | wait (expired : Bool)
  | finish
  | inspect (rep : SlsDetMessage)
  | work
  | destroy
  | stopReply
  | stopRequest
  | shutdown
  deriving DecidableEq

/-- One driver with its caller and its worker, in front of the detector `lib`. -/
def machine (lib : Library) : LabelledMachine SlsDetDriver Label where
  step d
    | .request m => d.request m
    | .wait expired => d.wait expired
    | .finish => d.finish
    | .inspect rep => d.inspect rep
    | .work => d.work lib
    | .destroy => d.destroy
    | .stopReply => d.stopReply
    | .stopRequest => d.stopRequest
    | .shutdown => some d.shutdown

end SlsDetDriver
