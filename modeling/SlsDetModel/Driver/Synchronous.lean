import SlsDetModel.Driver.Correlation
import SlsDetModel.Driver.Replies

/-!
# The driver as a synchronous service

Seen from the caller, the worker and its queues are a service that answers at once: whatever the
worker is going to do with the packets in flight is determined the moment they are sent. `sync`
computes that future — the state the worker will leave and the replies still to come — and forgets
where the worker is.

`Sync.step` is the driver with such a service. `sync_step` says that the faithful driver refines
it: a step of the worker is no step at all, and a step of the caller is the same step. So the
schedule of the worker can be observed by nobody, and what a call returns is a function of the
calls and of the waits that expired.

`Requested` is the contract of `request()` in these terms: if no wait expires, the reply and the
state left behind are those of one iteration of the worker's loop (`serve`) on this very message,
and nothing remains in flight.
-/

namespace SlsDetDriver

variable {lib : Library} {d d' : SlsDetDriver}

/-! ### The future of the packets in flight -/

/-- One iteration of the worker's loop: the lazy initialization, and the answer. -/
def serve (lib : Library) (c : Core) (m : SlsDetMessage) : SlsDetMessage × Core :=
  respond lib (c.initializeDet lib) m

/-- What becomes of the packet the worker is busy with. -/
def finishBusy (lib : Library) (c : Core) : Worker → Core × List Packet
  | .holding p => ((serve lib c p.msg).2, [⟨p.call, (serve lib c p.msg).1⟩])
  | .ready p => ((respond lib c p.msg).2, [⟨p.call, (respond lib c p.msg).1⟩])
  | .replying p => (c, [p])
  | _ => (c, [])

/-- What becomes of the queued requests. -/
def serveAll (lib : Library) : Core → List Packet → Core × List Packet
  | c, [] => (c, [])
  | c, p :: ps =>
    ((serveAll lib (serve lib c p.msg).2 ps).1,
      ⟨p.call, (serve lib c p.msg).1⟩ :: (serveAll lib (serve lib c p.msg).2 ps).2)

theorem serveAll_append (lib : Library) (c : Core) (ps qs : List Packet) :
    serveAll lib c (ps ++ qs) = ((serveAll lib (serveAll lib c ps).1 qs).1,
      (serveAll lib c ps).2 ++ (serveAll lib (serveAll lib c ps).1 qs).2) := by
  induction ps generalizing c with
  | nil => rfl
  | cons p ps ih =>
    rw [List.cons_append, serveAll, ih]
    rfl

/-- The state the worker will leave, and the replies still to come. -/
def settle (lib : Library) (d : SlsDetDriver) : Core × List Packet :=
  ((serveAll lib (finishBusy lib d.core d.worker).1 d.requestQueue.items).1,
    d.replyQueue.items ++ (finishBusy lib d.core d.worker).2 ++
      (serveAll lib (finishBusy lib d.core d.worker).1 d.requestQueue.items).2)

/-- **The worker does what was settled.** -/
theorem settle_work (h : WorkStep lib d d') : settle lib d' = settle lib d := by
  cases h with
  | test hw =>
    rw [settle, settle, hw]
    split <;> rfl
  | take p rest hw hq =>
    rw [settle, settle, hw, hq]
    simp [finishBusy, serveAll]
  | prepare p hw =>
    rw [settle, settle, hw]
    rfl
  | answer p hw =>
    rw [settle, settle, hw]
    rfl
  | reply p queue hw hq =>
    rw [settle, settle, hw, hq]
    simp [finishBusy]

/-! ### The synchronous driver -/

/-- A driver whose worker has no schedule. -/
structure Sync where
  /-- The state the worker leaves. -/
  core : Core
  /-- The replies not yet received. -/
  replies : List Packet
  pending : ℕ
  caller : Caller
  called : List SlsDetMessage
  sent : List Packet
  outcomes : List Outcome

/-- The driver, its worker forgotten. -/
def sync (lib : Library) (d : SlsDetDriver) : Sync where
  core := (settle lib d).1
  replies := (settle lib d).2
  pending := d.pending
  caller := d.caller
  called := d.journal.called
  sent := d.journal.sent
  outcomes := d.journal.outcomes

namespace Sync

/-- Give up with Timeout. -/
def giveUp (s : Sync) (p : Packet) (stage : Stage) : Sync :=
  { s with
    caller := .returned ⟨p.call, .ofType .timeout⟩
    outcomes := s.outcomes ++ [⟨p.call, p.msg, .gaveUp stage⟩] }

/-- The wait the caller is in ends. A request that is sent is answered at once. -/
def wait (lib : Library) (s : Sync) (expired : Bool) : Option Sync :=
  match s.caller with
  | .flushing p =>
    if expired then some (s.giveUp p .flush)
    else match s.replies with
      | [] => none
      | _ :: rest => some { s with
          replies := rest, pending := s.pending - 1, caller := flushLoop p (s.pending - 1) }
  | .sending p =>
    if expired then some (s.giveUp p .send)
    else some { s with
      core := (serve lib s.core p.msg).2
      replies := s.replies ++ [⟨p.call, (serve lib s.core p.msg).1⟩]
      pending := s.pending + 1
      caller := .receiving p
      sent := s.sent ++ [p] }
  | .receiving p =>
    if expired then some (s.giveUp p .receive)
    else match s.replies with
      | [] => none
      | q :: rest => some { s with
          replies := rest
          pending := s.pending - 1
          caller := .returned ⟨p.call, q.msg⟩
          outcomes := s.outcomes ++ [⟨p.call, p.msg, .answered q.msg⟩] }
  | _ => none

/-- The synchronous driver's steps: the caller's, and nothing for the worker. -/
def step (lib : Library) (s : Sync) : Label → Option Sync
  | .request m =>
    match s.caller with
    | .idle => some { s with
        caller := flushLoop ⟨s.called.length, m⟩ s.pending, called := s.called ++ [m] }
    | _ => none
  | .wait expired => s.wait lib expired
  | .finish =>
    match s.caller with
    | .returned _ => some { s with caller := .idle }
    | _ => none
  | .inspect _ =>
    match s.caller with
    | .idle => some s
    | _ => none
  | .work => some s
  | _ => none

end Sync

/-- The machine of the synchronous driver. -/
def syncMachine (lib : Library) : LabelledMachine Sync Label where
  step := Sync.step lib

theorem sync_work (h : WorkStep lib d d') : sync lib d' = sync lib d := by
  obtain ⟨hcaller, hpending, -, hcalled, hsent, -, -, houtcomes, -⟩ := frame_work h
  rw [sync, sync, settle_work h, hcaller, hpending, hcalled, hsent, houtcomes]

/-- What is settled, after a reply was received. -/
theorem settle_receive {q : Packet} {rest : BoundedQueue Packet maxMqCapacity}
    (hq : d.replyQueue.items = q :: rest.items) :
    (settle lib d).2 = q :: (rest.items ++ (finishBusy lib d.core d.worker).2 ++
      (serveAll lib (finishBusy lib d.core d.worker).1 d.requestQueue.items).2) := by
  rw [settle, hq]
  rfl

theorem sync_wait {expired : Bool} (h : WaitStep d expired d') :
    (sync lib d).wait lib expired = some (sync lib d') := by
  cases h with
  | expire p stage hc =>
    have hcaller : (sync lib d).caller = d.caller := rfl
    rw [Sync.wait, hcaller]
    cases stage <;> rw [show d.caller = _ from hc] <;> rfl
  | flush p q rest hc hq =>
    have hcaller : (sync lib d).caller = .flushing p := hc
    have hreplies : (sync lib d).replies = _ := settle_receive hq
    rw [Sync.wait, hcaller]
    dsimp only
    rw [if_neg (by decide), hreplies]
    rfl
  | send p queue hc hq =>
    have hcaller : (sync lib d).caller = .sending p := hc
    rw [Sync.wait, hcaller]
    dsimp only
    rw [if_neg (by decide)]
    refine congrArg some ?_
    simp only [sync, settle, hq, serveAll_append, serveAll, List.append_assoc]
  | receive p q rest hc hq =>
    have hcaller : (sync lib d).caller = .receiving p := hc
    have hreplies : (sync lib d).replies = _ := settle_receive hq
    rw [Sync.wait, hcaller]
    dsimp only
    rw [if_neg (by decide), hreplies]
    rfl

/-- **The driver refines the synchronous driver**, step by step. -/
theorem sync_step {l : Label} (hl : l.IsTraffic) (h : (machine lib).step d l = some d') :
    (syncMachine lib).step (sync lib d) l = some (sync lib d') := by
  cases l with
  | request m =>
    obtain ⟨hc, rfl⟩ := request_eq_some_iff.1 h
    have hcaller : (sync lib d).caller = .idle := hc
    show Sync.step lib (sync lib d) (.request m) = _
    rw [Sync.step, hcaller]
    rfl
  | wait expired => exact sync_wait (waitStep_of_wait h)
  | finish =>
    obtain ⟨⟨p, hc⟩, rfl⟩ := finish_eq_some_iff.1 h
    have hcaller : (sync lib d).caller = .returned p := hc
    show Sync.step lib (sync lib d) .finish = _
    rw [Sync.step, hcaller]
    rfl
  | inspect rep =>
    obtain ⟨hc, rfl⟩ := inspect_eq_some_iff.1 h
    have hcaller : (sync lib d).caller = .idle := hc
    show Sync.step lib (sync lib d) (.inspect rep) = _
    rw [Sync.step, hcaller]
    rfl
  | work => exact congrArg some (sync_work (workStep_of_work h)).symm
  | _ => simp [Label.IsTraffic] at hl

/-! ### When nothing is in flight -/

/-- The replies to come belong to the packets in flight. -/
theorem call_settle (lib : Library) (d : SlsDetDriver) :
    (settle lib d).2.map Packet.call = d.inflight := by
  have hall : ∀ ps c, (serveAll lib c ps).2.map Packet.call = ps.map Packet.call := by
    intro ps
    induction ps with
    | nil => exact fun c ↦ rfl
    | cons p ps ih => exact fun c ↦ congrArg (p.call :: ·) (ih _)
  have hbusy : (finishBusy lib d.core d.worker).2.map Packet.call =
      (busy d.worker).map Packet.call := by
    cases d.worker <;> rfl
  rw [settle, inflight, List.map_append, List.map_append, List.map_append, List.map_append, hall,
    hbusy]

/-- `_pending` counts the replies still to come. -/
theorem Conserved.pending_sync (h : d.Conserved) :
    (sync lib d).pending = (sync lib d).replies.length := by
  have hlen : (settle lib d).2.length = d.inflight.length := by
    rw [← call_settle lib d, List.length_map]
  exact h.pending.trans hlen.symm

/-- **A settled driver is at rest**: with `_pending` zero, both queues are empty, the worker is at
its loop test or in its receive, and the state is what it seems. -/
theorem Conserved.at_rest (h : d.Conserved) (hzero : d.pending = 0) :
    d.requestQueue.items = [] ∧ d.replyQueue.items = [] ∧
      (d.worker = .test ∨ d.worker = .receiving ∨ d.worker = .exited) ∧
      (sync lib d).core = d.core ∧ (sync lib d).replies = [] := by
  have hnil : d.inflight = [] := List.length_eq_zero_iff.1 (h.pending.symm.trans hzero)
  have hcalls : (sync lib d).replies.map Packet.call = [] := (call_settle lib d).trans hnil
  have hreplies : (sync lib d).replies = [] := List.map_eq_nil_iff.1 hcalls
  rw [inflight, List.map_eq_nil_iff, List.append_eq_nil_iff, List.append_eq_nil_iff] at hnil
  obtain ⟨⟨hrep, hbusy⟩, hreq⟩ := hnil
  refine ⟨hreq, hrep, ?_, ?_, hreplies⟩
  · rcases hw : d.worker with - | - | p | p | p | -
    case test => exact Or.inl rfl
    case receiving => exact Or.inr (Or.inl rfl)
    case exited => exact Or.inr (Or.inr rfl)
    all_goals rw [hw] at hbusy; cases hbusy
  · show (settle lib d).1 = d.core
    rw [settle, hreq]
    cases hw : d.worker <;> first | rfl | (rw [hw] at hbusy; cases hbusy)

end SlsDetDriver
