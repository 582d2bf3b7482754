import SlsDetModel.Driver.Correlation

/-!
# The queues never fill

The untimed sends of `reply()` and of `stop()` would block for good on a full queue, with nobody
left to empty it. They never meet one. In normal operation at most one packet is in flight
(`Conserved`); `stop()` adds an Exit message to either queue, and the worker answers the one it
takes as it answers anything. So there are never more than three packets in flight, of which at
most two are requests, against a capacity of four.

The other half is that the worker leaves. Once `_running` is cleared it makes at most one more
round: `roundsLeft` counts its remaining steps, and when Exit has been posted every one of them is
enabled until the worker is out of the loop.
-/

namespace SlsDetDriver

variable {lib : Library} {d d' : SlsDetDriver}

/-! ### Packets in flight during teardown -/

/-- The destructor is at work: how many packets may be in flight and in the request queue. -/
def Stopping (d : SlsDetDriver) : Prop :=
  d.running = false ∧ d.pending ≤ 1 ∧
    match d.caller with
    | .stopping => d.inflight.length ≤ 1 ∧ d.requestQueue.items.length ≤ 1
    | .posting => d.inflight.length ≤ 2 ∧ d.requestQueue.items.length ≤ 1
    | .stopped => d.inflight.length ≤ 3 ∧ d.requestQueue.items.length ≤ 2 ∧
        (d.worker = .receiving → d.requestQueue.items ≠ [])
    | _ => False

/-- Every packet in flight is somewhere. -/
theorem length_inflight (d : SlsDetDriver) : d.inflight.length =
    d.replyQueue.items.length + (busy d.worker).length + d.requestQueue.items.length := by
  simp only [inflight, List.length_map, List.length_append]

/-- The worker never adds to the request queue. -/
theorem length_requestQueue_work (h : WorkStep lib d d') :
    d'.requestQueue.items.length ≤ d.requestQueue.items.length := by
  cases h with
  | take p rest hw hq =>
    show rest.items.length ≤ _
    rw [hq, List.length_cons]
    omega
  | test hw => exact Nat.le_refl _
  | prepare p hw => exact Nat.le_refl _
  | answer p hw => exact Nat.le_refl _
  | reply p queue hw hq => exact Nat.le_refl _

/-- A worker that finds `_running` cleared does not go back to the request queue. -/
theorem worker_ne_receiving (h : WorkStep lib d d') (hr : d.running = false) :
    d'.worker ≠ .receiving := by
  cases h with
  | test hw =>
    rw [hr]
    exact fun hn ↦ (nomatch hn)
  | take p rest hw hq => exact fun hn ↦ (nomatch hn)
  | prepare p hw => exact fun hn ↦ (nomatch hn)
  | answer p hw => exact fun hn ↦ (nomatch hn)
  | reply p queue hw hq => exact fun hn ↦ (nomatch hn)

theorem Stopping.work (h : d.Stopping) (hs : WorkStep lib d d') : d'.Stopping := by
  obtain ⟨hrun, hpend, hcount⟩ := h
  obtain ⟨hcaller, hpending, hrunning, -⟩ := frame_work hs
  have hreq := length_requestQueue_work hs
  refine ⟨by rw [hrunning, hrun], by rw [hpending]; exact hpend, ?_⟩
  rw [hcaller, inflight_work hs]
  split at hcount
  case h_1 => exact ⟨hcount.1, hreq.trans hcount.2⟩
  case h_2 => exact ⟨hcount.1, hreq.trans hcount.2⟩
  case h_3 =>
    exact ⟨hcount.1, hreq.trans hcount.2.1, fun hw ↦ (worker_ne_receiving hs hrun hw).elim⟩
  case h_4 => exact hcount.elim

/-- Normal operation, or the destructor at work. -/
def Accounted (d : SlsDetDriver) : Prop := d.Conserved ∧ d.running = true ∨ d.Stopping

/-- Once the destructor is at work the caller makes no further request. -/
theorem Stopping.caller_eq (h : d.Stopping) :
    d.caller = .stopping ∨ d.caller = .posting ∨ d.caller = .stopped := by
  obtain ⟨-, -, hcount⟩ := h
  split at hcount
  case h_1 hc => exact Or.inl hc
  case h_2 hc => exact Or.inr (Or.inl hc)
  case h_3 hc => exact Or.inr (Or.inr hc)
  case h_4 => exact hcount.elim

/-- The packets in flight bound both queues. -/
theorem length_queues_le (d : SlsDetDriver) : d.requestQueue.items.length ≤ d.inflight.length ∧
    d.replyQueue.items.length ≤ d.inflight.length := by
  rw [length_inflight]
  omega

/-- `destroy` finds at most one packet in flight. -/
theorem Conserved.destroy (h : d.Conserved) (hs : d.destroy = some d') : d'.Stopping := by
  obtain ⟨-, rfl⟩ := destroy_eq_some_iff.1 hs
  have hone := h.length_le_one
  refine ⟨rfl, ?_, hone, (length_queues_le d).1.trans hone⟩
  show d.pending ≤ 1
  rw [h.pending]
  exact hone

/-- `stop()` adds one message to `_reply`. -/
theorem Stopping.stopReply (h : d.Stopping) (hs : d.stopReply = some d') : d'.Stopping := by
  obtain ⟨hc, queue, hq, rfl⟩ := stopReply_eq_some_iff.1 hs
  obtain ⟨hr, hpend, hcount⟩ := h
  rw [hc] at hcount
  refine ⟨hr, hpend, ?_, hcount.2⟩
  have hone := hcount.1
  rw [length_inflight] at hone ⊢
  show queue.items.length + (busy d.worker).length + d.requestQueue.items.length ≤ 2
  rw [hq, List.length_append, List.length_singleton]
  omega

/-- `stop()` adds one message to `_request`. -/
theorem Stopping.stopRequest (h : d.Stopping) (hs : d.stopRequest = some d') : d'.Stopping := by
  obtain ⟨hc, queue, hq, rfl⟩ := stopRequest_eq_some_iff.1 hs
  obtain ⟨hr, hpend, hcount⟩ := h
  rw [hc] at hcount
  obtain ⟨htwo, hreq⟩ := hcount
  have hlen : queue.items.length = d.requestQueue.items.length + 1 := by
    rw [hq, List.length_append, List.length_singleton]
  refine ⟨hr, hpend, ?_, ?_, fun _ ↦ ?_⟩
  · rw [length_inflight] at htwo ⊢
    show d.replyQueue.items.length + (busy d.worker).length + queue.items.length ≤ 3
    omega
  · show queue.items.length ≤ 2
    omega
  · show queue.items ≠ []
    rw [hq]
    exact List.append_ne_nil_of_right_ne_nil _ (List.cons_ne_nil _ _)

/-- Once the destructor is at work it stays at work, and adds no more than its two messages. -/
theorem Stopping.step {l : Label} (h : d.Stopping) (hs : (machine lib).step d l = some d') :
    d'.Stopping := by
  have hcaller := h.caller_eq
  cases l with
  | work => exact h.work (workStep_of_work hs)
  | stopReply => exact h.stopReply hs
  | stopRequest => exact h.stopRequest hs
  | shutdown =>
    obtain rfl := Option.some.inj hs
    exact h
  -- the others need a caller that is not in the destructor
  | request m =>
    rw [(request_eq_some_iff.1 hs).1] at hcaller
    simp at hcaller
  | wait expired =>
    cases waitStep_of_wait hs with
    | expire p stage hc => cases stage <;> simp [show d.caller = _ from hc] at hcaller
    | flush p q rest hc => simp [hc] at hcaller
    | send p queue hc => simp [hc] at hcaller
    | receive p q rest hc => simp [hc] at hcaller
  | finish =>
    obtain ⟨⟨p, hc⟩, -⟩ := finish_eq_some_iff.1 hs
    simp [hc] at hcaller
  | inspect rep =>
    rw [(inspect_eq_some_iff.1 hs).1] at hcaller
    simp at hcaller
  | destroy =>
    rw [(destroy_eq_some_iff.1 hs).1] at hcaller
    simp at hcaller

/-- **Every step keeps the account**, whoever makes it. -/
theorem Accounted.step {l : Label} (h : d.Accounted) (hs : (machine lib).step d l = some d') :
    d'.Accounted := by
  rcases h with ⟨hcons, hr⟩ | hstop
  · by_cases hl : l.IsTraffic
    · exact Or.inl ⟨hcons.step hl hs, (running_traffic hl hs).trans hr⟩
    have hph := hcons.phase
    rw [Phase] at hph
    cases l with
    | destroy => exact Or.inr (hcons.destroy hs)
    | stopReply =>
      rw [(stopReply_eq_some_iff.1 hs).1] at hph
      exact hph.elim
    | stopRequest =>
      rw [(stopRequest_eq_some_iff.1 hs).1] at hph
      exact hph.elim
    | shutdown =>
      obtain rfl := Option.some.inj hs
      exact Or.inl ⟨⟨hcons.pending, hcons.phase⟩, hr⟩
    | _ => exact (hl rfl).elim
  · exact Or.inr (hstop.step hs)

theorem accounted_of_run {hostName : Text} {id : Int} {ls : List Label}
    (hrun : (machine lib).run (new hostName id) ls = some d) : d.Accounted :=
  LabelledMachine.Reaches.invariant (fun h hs ↦ h.step hs)
    (Or.inl ⟨(correlated_new hostName id).conserved, rfl⟩) ⟨ls, hrun⟩

/-! ### What the account says -/

/-- The numbers of the account, for every position of the caller. -/
theorem Accounted.bounds (h : d.Accounted) :
    d.pending ≤ 1 ∧ d.requestQueue.items.length ≤ 2 ∧ d.inflight.length ≤ 3 := by
  rcases h with ⟨hcons, -⟩ | ⟨-, hpend, hcount⟩
  · have hone := hcons.length_le_one
    have hreq := (length_queues_le d).1
    refine ⟨?_, by omega, by omega⟩
    rw [hcons.pending]
    exact hone
  · refine ⟨hpend, ?_⟩
    split at hcount
    case h_1 => omega
    case h_2 => omega
    case h_3 => omega
    case h_4 => exact hcount.elim

/-- A pending reply is there wherever the caller counts one down. -/
theorem Accounted.pending_pos {p : Packet} (h : d.Accounted)
    (hc : d.caller = .flushing p ∨ d.caller = .receiving p) : d.pending = 1 := by
  rcases h with ⟨hcons, -⟩ | hstop
  · have hph := hcons.phase
    rw [hcons.pending]
    rcases hc with hc | hc <;> rw [Phase, hc] at hph
    · exact hph
    · rw [show d.inflight = [p.call] from hph, List.length_singleton]
  · have hcaller := hstop.caller_eq
    rcases hc with hc | hc <;> rw [hc] at hcaller <;> simp at hcaller

/-- A send to a queue with room is enabled. -/
theorem exists_send {q : BoundedQueue Packet maxMqCapacity} (p : Packet)
    (h : q.items.length < maxMqCapacity) : ∃ q', q.send? p = some q' :=
  BoundedQueue.exists_send?_eq_some_iff.2 h

/-- A move the thread concerned can make now. -/
def Enabled (lib : Library) (d : SlsDetDriver) (l : Label) : Prop :=
  ((machine lib).step d l).isSome

/-- **The sends of `reply()` never block.** -/
theorem Accounted.reply_enabled {p : Packet} (h : d.Accounted) (hw : d.worker = .replying p) :
    d.Enabled lib .work := by
  have hthree := h.bounds.2.2
  rw [length_inflight, hw] at hthree
  have hlen : d.replyQueue.items.length < maxMqCapacity := by
    change _ + 1 + _ ≤ 3 at hthree
    show _ < 4
    omega
  obtain ⟨q, hq⟩ := exists_send p hlen
  show (d.work lib).isSome
  rw [work, hw]
  dsimp only
  rw [hq]
  rfl

/-- **The sends of `stop()` never block**, nor would the timed send of `request()`. -/
theorem Accounted.post_enabled (h : d.Accounted) :
    (d.caller = .stopping → d.Enabled lib .stopReply) ∧
    (d.caller = .posting → d.Enabled lib .stopRequest) ∧
    (∀ p, d.caller = .sending p → d.Enabled lib (.wait false)) := by
  have hbounds := h.bounds
  have hqueues := length_queues_le d
  have hreply : d.replyQueue.items.length < maxMqCapacity := by
    show _ < 4
    omega
  have hrequest : d.requestQueue.items.length < maxMqCapacity := by
    show _ < 4
    omega
  refine ⟨fun hc ↦ ?_, fun hc ↦ ?_, fun p hc ↦ ?_⟩
  · obtain ⟨q, hq⟩ := exists_send d.exitPacket hreply
    exact Option.isSome_iff_exists.2
      ⟨_, stopReply_eq_some_iff.2 ⟨hc, q, BoundedQueue.send?_eq_some_iff.1 hq, rfl⟩⟩
  · obtain ⟨q, hq⟩ := exists_send d.exitPacket hrequest
    exact Option.isSome_iff_exists.2
      ⟨_, stopRequest_eq_some_iff.2 ⟨hc, q, BoundedQueue.send?_eq_some_iff.1 hq, rfl⟩⟩
  · obtain ⟨q, hq⟩ := exists_send p hrequest
    show (d.wait false).isSome
    rw [wait, hc]
    dsimp only
    rw [if_neg (by decide), send, hq]
    exact rfl

/-! ### The worker leaves -/

/-- How many steps the worker still makes once `_running` is cleared. -/
def roundsLeft : Worker → ℕ
  | .receiving => 5
  | .holding _ => 4
  | .ready _ => 3
  | .replying _ => 2
  | .test => 1
  | .exited => 0

/-- How many messages it still takes. -/
def takesLeft : Worker → ℕ
  | .receiving => 1
  | _ => 0

theorem roundsLeft_le (w : Worker) : roundsLeft w ≤ 5 := by
  cases w <;> simp [roundsLeft]

theorem takesLeft_le (w : Worker) : takesLeft w ≤ 1 := by
  cases w <;> simp [takesLeft]

/-- With `_running` cleared, every step of the worker is one step nearer to the end of the loop,
and a message taken is the last one. -/
theorem leaving_work (h : WorkStep lib d d') (hr : d.running = false) :
    roundsLeft d'.worker + 1 = roundsLeft d.worker ∧
      d'.journal.taken.length + takesLeft d'.worker ≤
        d.journal.taken.length + takesLeft d.worker := by
  cases h with
  | test hw =>
    rw [hr, hw]
    exact ⟨rfl, Nat.le_refl _⟩
  | take p rest hw hq =>
    rw [hw]
    refine ⟨rfl, ?_⟩
    show (d.journal.taken ++ [p]).length + 0 ≤ _ + 1
    rw [List.length_append, List.length_singleton]
  | prepare p hw =>
    rw [hw]
    exact ⟨rfl, Nat.le_refl _⟩
  | answer p hw =>
    rw [hw]
    exact ⟨rfl, Nat.le_refl _⟩
  | reply p queue hw hq =>
    rw [hw]
    exact ⟨rfl, Nat.le_refl _⟩

/-- The steps of the others leave the worker where it is, take nothing, and never set `_running`. -/
theorem frame_caller {l : Label} (hl : l ≠ .work) (hs : (machine lib).step d l = some d') :
    d'.worker = d.worker ∧ d'.journal.taken = d.journal.taken ∧
      (d.running = false → d'.running = false) := by
  cases l with
  | request m =>
    obtain ⟨-, rfl⟩ := request_eq_some_iff.1 hs
    exact ⟨rfl, rfl, id⟩
  | wait expired => cases waitStep_of_wait hs <;> exact ⟨rfl, rfl, id⟩
  | finish =>
    obtain ⟨-, rfl⟩ := finish_eq_some_iff.1 hs
    exact ⟨rfl, rfl, id⟩
  | inspect rep =>
    obtain ⟨-, rfl⟩ := inspect_eq_some_iff.1 hs
    exact ⟨rfl, rfl, id⟩
  | work => exact (hl rfl).elim
  | destroy =>
    obtain ⟨-, rfl⟩ := destroy_eq_some_iff.1 hs
    exact ⟨rfl, rfl, fun _ ↦ rfl⟩
  | stopReply =>
    obtain ⟨-, queue, -, rfl⟩ := stopReply_eq_some_iff.1 hs
    exact ⟨rfl, rfl, id⟩
  | stopRequest =>
    obtain ⟨-, queue, -, rfl⟩ := stopRequest_eq_some_iff.1 hs
    exact ⟨rfl, rfl, id⟩
  | shutdown =>
    obtain rfl := Option.some.inj hs
    exact ⟨rfl, rfl, id⟩

/-- One step of any kind, with `_running` cleared. -/
theorem leaving_step {l : Label} (hr : d.running = false)
    (hs : (machine lib).step d l = some d') : d'.running = false ∧
      roundsLeft d'.worker + (if (l == .work) = true then 1 else 0) ≤ roundsLeft d.worker ∧
      d'.journal.taken.length + takesLeft d'.worker ≤
        d.journal.taken.length + takesLeft d.worker := by
  by_cases hl : l = .work
  · subst hl
    have hw := workStep_of_work hs
    obtain ⟨hrounds, htaken⟩ := leaving_work hw hr
    refine ⟨by rw [(frame_work hw).2.2.1, hr], ?_, htaken⟩
    rw [if_pos (by decide)]
    omega
  · obtain ⟨hw, ht, hr'⟩ := frame_caller hl hs
    rw [hw, ht, if_neg (by simpa using hl)]
    exact ⟨hr' hr, Nat.le_refl _, Nat.le_refl _⟩

/-- **The worker makes at most one more round** once `_running` is cleared: five steps, one
message. -/
theorem leaving_run {ls : List Label} (hr : d.running = false)
    (hrun : (machine lib).run d ls = some d') :
    ls.count .work + roundsLeft d'.worker ≤ roundsLeft d.worker ∧
      d'.journal.taken.length ≤ d.journal.taken.length + 1 := by
  constructor
  · refine LabelledMachine.run_measure (P := fun u ↦ u.running = false)
      (μ := fun u ↦ roundsLeft u.worker) (p := fun l ↦ l == .work) ?_ hr hrun
    intro u l v hu hstep
    obtain ⟨hv, hrounds, -⟩ := leaving_step hu hstep
    exact ⟨hv, hrounds⟩
  · have hend : d'.running = false ∧ d'.journal.taken.length + takesLeft d'.worker ≤
        d.journal.taken.length + takesLeft d.worker := by
      refine LabelledMachine.Reaches.invariant (P := fun u ↦ u.running = false ∧
        u.journal.taken.length + takesLeft u.worker ≤
          d.journal.taken.length + takesLeft d.worker) ?_ ⟨hr, Nat.le_refl _⟩ ⟨ls, hrun⟩
      rintro u l v ⟨hu, hle⟩ hstep
      obtain ⟨hv, -, htaken⟩ := leaving_step hu hstep
      exact ⟨hv, htaken.trans hle⟩
    have htakes := takesLeft_le d.worker
    omega

/-- The worker can go on unless it is out of the loop, or waits for a request and there is none. -/
theorem Accounted.work_enabled (h : d.Accounted) (hw : d.worker ≠ .exited)
    (hreq : d.worker = .receiving → d.requestQueue.items ≠ []) : d.Enabled lib .work := by
  rcases hw' : d.worker with - | - | p | p | p | -
  case replying => exact h.reply_enabled hw'
  case exited => exact (hw hw').elim
  all_goals
    show (d.work lib).isSome
    rw [work, hw']
  case test => rfl
  case receiving =>
    rcases hq : d.requestQueue.receive? with - | ⟨p, rest⟩
    · exact (hreq hw' (BoundedQueue.receive?_eq_none_iff.1 hq)).elim
    · exact rfl
  case holding =>
    dsimp only
    rw [if_neg (by simp [Packet.nbytes])]
    rfl
  case ready =>
    dsimp only
    split <;> rfl

/-- When Exit has been posted, the worker can always go on until it is out of the loop. -/
theorem Accounted.work_enabled_of_stopped (h : d.Accounted) (hc : d.caller = .stopped)
    (hw : d.worker ≠ .exited) : d.Enabled lib .work := by
  refine h.work_enabled hw fun hw' ↦ ?_
  have hstop : d.Stopping := by
    rcases h with ⟨hcons, -⟩ | hstop
    · have hph := hcons.phase
      rw [Phase, hc] at hph
      exact hph.elim
    · exact hstop
  obtain ⟨-, -, hcount⟩ := hstop
  rw [hc] at hcount
  exact hcount.2.2 hw'

/-- **The queues never fill and nobody blocks.** Whatever is called, whichever waits expire, however
caller and worker are interleaved, and wherever between two calls the destructor sets in:

* `_pending` is at most one, and one wherever it is counted down;
* there are at most two messages in `_request` and three in `_reply`, below the capacity;
* the sends of `reply()` and `stop()` find room at once, and so does the timed send of `request()`;
* from a state with `_running` cleared the worker makes at most five more steps and takes at most
  one more message, and once Exit is posted it can go on until it is out of the loop. -/
theorem queues_never_fill {hostName : Text} {id : Int} {ls : List Label}
    (hrun : (machine lib).run (new hostName id) ls = some d) :
    (d.pending ≤ 1 ∧ ∀ p, d.caller = .flushing p ∨ d.caller = .receiving p → d.pending = 1) ∧
    (d.requestQueue.items.length ≤ 2 ∧ d.replyQueue.items.length ≤ 3 ∧ 3 < maxMqCapacity) ∧
    ((∀ p, d.worker = .replying p → d.Enabled lib .work) ∧
      (d.caller = .stopping → d.Enabled lib .stopReply) ∧
      (d.caller = .posting → d.Enabled lib .stopRequest) ∧
      (∀ p, d.caller = .sending p → d.Enabled lib (.wait false))) ∧
    (d.running = false → ∀ ls' d', (machine lib).run d ls' = some d' →
      ls'.count .work ≤ 5 ∧ d'.journal.taken.length ≤ d.journal.taken.length + 1) ∧
    (d.caller = .stopped → d.worker ≠ .exited → d.Enabled lib .work) := by
  have h := accounted_of_run hrun
  obtain ⟨hpend, hreq, hthree⟩ := h.bounds
  refine ⟨⟨hpend, fun p hc ↦ h.pending_pos hc⟩,
    ⟨hreq, (length_queues_le d).2.trans hthree, by decide⟩,
    ⟨fun p hw ↦ h.reply_enabled hw, h.post_enabled⟩, fun hr ls' d' hrun' ↦ ?_,
    fun hc hw ↦ h.work_enabled_of_stopped hc hw⟩
  obtain ⟨hcount, htaken⟩ := leaving_run hr hrun'
  have hfive := roundsLeft_le d.worker
  exact ⟨by omega, htaken⟩

/-- A late request, then the destructor, with the worker in the middle of its loop. -/
def teardownRun : List Label :=
  [.work, .request (.ofType .checkOnline), .wait false, .wait true, .finish, .work, .destroy,
    .stopReply, .stopRequest]

/-- In this run two replies' worth of messages is on the way, and the worker leaves after the
request it holds. -/
theorem queues_never_fill_teardown : ∃ d, (machine healthy).run (new [] 0) teardownRun = some d ∧
    d.requestQueue.items.length ≤ 2 ∧ d.replyQueue.items.length ≤ 3 := by
  have hsome : ((machine healthy).run (new [] 0) teardownRun).isSome := by decide +kernel
  obtain ⟨d, hrun⟩ := Option.isSome_iff_exists.1 hsome
  obtain ⟨-, ⟨hreq, hrep, -⟩, -⟩ := queues_never_fill hrun
  exact ⟨d, hrun, hreq, hrep⟩

end SlsDetDriver
