import SlsDetModel.Driver.Steps

/-!
# Replies belong to their requests

The protocol between `request()` and `run()` puts no sequence number on a message. What makes a
reply the right one is a conservation law: the packets **in flight** — replies queued, the one the
worker is busy with, requests queued, in that order — form one virtual queue. Every step of the
worker leaves it as it is (`inflight_work`); the caller appends to it at the back when it sends and
removes from the front when it receives. So `_pending` is its length, it never exceeds one between
calls, and it is empty when a request is sent.

`Correlated` is the invariant, in three parts.

* `Conserved` — the law itself, with what each position of the caller says about the flight.
* `Fifo` — the journal's lists are consecutive cuts of one another: what was sent is what was taken
  and what is still queued, and so on down to the replies received.
* `Numbered` — calls are numbered in order, each ends once, each sends at most once.

`reply_correlation` reads the guarantees off the three.
-/

/-- Looking up an index that is there is not changed by appending. -/
theorem List.getElem?_append_of_eq_some {α : Type*} {l : List α} {i : ℕ} {a : α}
    (h : l[i]? = some a) (l' : List α) : (l ++ l')[i]? = some a := by
  rw [List.getElem?_append_left (List.getElem?_eq_some_iff.1 h).1, h]

/-- With distinct keys, one entry has a given key. -/
theorem List.filter_key_eq_singleton {α β : Type*} [DecidableEq β] {f : α → β} {l : List α}
    (hl : (l.map f).Nodup) {a : α} (ha : a ∈ l) : (l.filter fun b ↦ f b = f a) = [a] := by
  induction l with
  | nil => exact absurd ha List.not_mem_nil
  | cons b l ih =>
    rw [List.map_cons, List.nodup_cons] at hl
    rcases List.mem_cons.1 ha with rfl | ha'
    · rw [List.filter_cons_of_pos (by simp)]
      have hnone : (l.filter fun c ↦ f c = f a) = [] := by
        refine List.filter_eq_nil_iff.2 fun c hc heq ↦ hl.1 ?_
        exact List.mem_map.2 ⟨c, hc, by simpa using heq⟩
      rw [hnone]
    · have hne : f b ≠ f a := fun heq ↦ hl.1 (List.mem_map.2 ⟨a, ha', heq.symm⟩)
      rw [List.filter_cons_of_neg (by simpa using hne)]
      exact ih hl.2 ha'

/-- The request of an exchange. -/
def Exchange.request (e : Exchange) : Packet := ⟨e.call, e.req⟩

/-- The reply of an exchange. -/
def Exchange.reply (e : Exchange) : Packet := ⟨e.call, e.rep⟩

namespace SlsDetDriver

variable {lib : Library} {d d' : SlsDetDriver}

/-! ### Packets in flight -/

/-- The packet the worker is busy with. -/
def busy : Worker → List Packet
  | .holding p => [p]
  | .ready p => [p]
  | .replying p => [p]
  | _ => []

/-- The calls in flight, the one whose reply comes next first. -/
def inflight (d : SlsDetDriver) : List ℕ :=
  (d.replyQueue.items ++ busy d.worker ++ d.requestQueue.items).map Packet.call

/-- **Conservation.** The worker moves packets along and neither makes nor loses one. -/
theorem inflight_work (h : WorkStep lib d d') : d'.inflight = d.inflight := by
  cases h with
  | test hw =>
    rw [inflight, inflight, hw]
    split <;> rfl
  | take p rest hw hq => rw [inflight, inflight, hw, hq]; simp [busy]
  | prepare p hw => rw [inflight, inflight, hw]; rfl
  | answer p hw => rw [inflight, inflight, hw]; simp [busy, answer]
  | reply p queue hw hq => rw [inflight, inflight, hw, hq]; simp [busy]

/-- The worker leaves the caller's variables and the caller's part of the journal alone. -/
theorem frame_work (h : WorkStep lib d d') :
    d'.caller = d.caller ∧ d'.pending = d.pending ∧ d'.running = d.running ∧
      d'.journal.called = d.journal.called ∧ d'.journal.sent = d.journal.sent ∧
      d'.journal.received = d.journal.received ∧ d'.journal.flushed = d.journal.flushed ∧
      d'.journal.outcomes = d.journal.outcomes ∧ d'.journal.inspected = d.journal.inspected := by
  cases h <;> exact ⟨rfl, rfl, rfl, rfl, rfl, rfl, rfl, rfl, rfl⟩

/-! ### The conservation law -/

/-- What the position of the caller says about the packets in flight. -/
def Phase (d : SlsDetDriver) : Prop :=
  match d.caller with
  | .idle => d.inflight.length ≤ 1
  | .returned _ => d.inflight.length ≤ 1
  | .flushing _ => d.inflight.length = 1
  | .sending _ => d.inflight = []
  | .receiving p => d.inflight = [p.call]
  | _ => False

/-- `_pending` counts the packets in flight, and there are as many as the caller's position says. -/
structure Conserved (d : SlsDetDriver) : Prop where
  pending : d.pending = d.inflight.length
  phase : d.Phase

theorem Conserved.length_le_one (h : d.Conserved) : d.inflight.length ≤ 1 := by
  have hp := h.phase
  unfold Phase at hp
  split at hp
  case h_1 => exact hp
  case h_2 => exact hp
  case h_3 => exact hp.le
  case h_4 => simp [hp]
  case h_5 => simp [hp]
  case h_6 => exact hp.elim

/-- The loop test of `flush()` sends the caller where the number of packets in flight says. -/
theorem phase_flushLoop {p : Packet} {n : ℕ} (hc : d.caller = flushLoop p n)
    (hn : n = d.inflight.length) (hle : d.inflight.length ≤ 1) : d.Phase := by
  unfold Phase
  rw [hc, flushLoop]
  by_cases hpos : n > 0
  · rw [if_pos hpos]
    show d.inflight.length = 1
    omega
  · rw [if_neg hpos]
    exact List.length_eq_zero_iff.1 (by omega)

theorem Conserved.request {m : SlsDetMessage} (h : d.Conserved) (hs : d.request m = some d') :
    d'.Conserved := by
  obtain ⟨-, rfl⟩ := request_eq_some_iff.1 hs
  exact ⟨h.pending, phase_flushLoop rfl h.pending h.length_le_one⟩

theorem Conserved.finish (h : d.Conserved) (hs : d.finish = some d') : d'.Conserved := by
  obtain ⟨-, rfl⟩ := finish_eq_some_iff.1 hs
  exact ⟨h.pending, h.length_le_one⟩

theorem Conserved.work (h : d.Conserved) (hs : WorkStep lib d d') : d'.Conserved := by
  obtain ⟨hcaller, hpending, -⟩ := frame_work hs
  refine ⟨by rw [hpending, inflight_work hs, h.pending], ?_⟩
  have hp := h.phase
  unfold Phase at hp ⊢
  rwa [hcaller, inflight_work hs]

/-- Receiving a reply removes the first packet in flight. -/
theorem inflight_of_receive {q : Packet} {rest : BoundedQueue Packet maxMqCapacity}
    (hq : d.replyQueue.items = q :: rest.items) :
    d.inflight =
      q.call :: (rest.items ++ busy d.worker ++ d.requestQueue.items).map Packet.call := by
  rw [inflight, hq]
  rfl

theorem Conserved.wait {expired : Bool} (h : d.Conserved) (hs : WaitStep d expired d') :
    d'.Conserved := by
  cases hs with
  | expire p stage hc => exact ⟨h.pending, h.length_le_one⟩
  | flush p q rest hc hq =>
    have hin := inflight_of_receive hq
    have hpend := h.pending
    rw [hin, List.length_cons] at hpend
    have hle := h.length_le_one
    rw [hin, List.length_cons] at hle
    refine ⟨?_, phase_flushLoop rfl ?_ ?_⟩
    · show d.pending - 1 = _
      rw [hpend]; rfl
    · rw [hpend]; rfl
    · exact Nat.le_of_succ_le hle
  | send p queue hc hq =>
    have hph := h.phase
    rw [Phase, hc] at hph
    have hnil :
        (d.replyQueue.items ++ busy d.worker ++ d.requestQueue.items).map Packet.call = [] :=
      hph
    have hin : (d.replyQueue.items ++ busy d.worker ++ queue.items).map Packet.call = [p.call] := by
      rw [hq, ← List.append_assoc, List.map_append, hnil]
      rfl
    refine ⟨?_, hin⟩
    show d.pending + 1 = (List.map _ _).length
    rw [hin, h.pending, hph]
    rfl
  | receive p q rest hc hq =>
    have hin := inflight_of_receive hq
    have hph := h.phase
    rw [Phase, hc] at hph
    have hph' : d.inflight = [p.call] := hph
    rw [hin] at hph'
    have hrest := (List.cons.inj hph').2
    refine ⟨?_, ?_⟩
    · show d.pending - 1 = (List.map _ _).length
      rw [hrest, h.pending, hph]
      rfl
    · show (List.map _ _).length ≤ 1
      rw [hrest]
      exact Nat.zero_le 1

/-- **Only the answer to this very call can be there** for the final receive to take. -/
theorem Conserved.call_eq_of_receive {p q : Packet} {rest : BoundedQueue Packet maxMqCapacity}
    (h : d.Conserved) (hc : d.caller = .receiving p) (hq : d.replyQueue.items = q :: rest.items) :
    q.call = p.call := by
  have hph := h.phase
  rw [Phase, hc] at hph
  have hph' : d.inflight = [p.call] := hph
  rw [inflight_of_receive hq] at hph'
  exact (List.cons.inj hph').1

/-! ### First in, first out -/

/-- The request the worker has taken and not answered yet. -/
def unanswered : Worker → List Packet
  | .holding p => [p]
  | .ready p => [p]
  | _ => []

/-- The reply the worker has made and not sent yet. -/
def unsent : Worker → List Packet
  | .replying p => [p]
  | _ => []

/-- The journal's lists are consecutive cuts of one another. -/
structure Fifo (d : SlsDetDriver) : Prop where
  sent : d.journal.sent = d.journal.taken ++ d.requestQueue.items
  taken : d.journal.taken = d.journal.answered.map Exchange.request ++ unanswered d.worker
  answered : d.journal.answered.map Exchange.reply =
    d.journal.received ++ d.replyQueue.items ++ unsent d.worker
  processed : ∀ e ∈ d.journal.answered, e.processed = true ∨ e.rep = .ofType .error

theorem Fifo.work (h : d.Fifo) (hs : WorkStep lib d d') : d'.Fifo := by
  obtain ⟨hsent, htaken, hanswered, hproc⟩ := h
  cases hs with
  | test hw =>
    rw [hw] at htaken hanswered
    refine ⟨hsent, ?_, ?_, hproc⟩
    · show d.journal.taken = _
      rw [htaken]
      split <;> rfl
    · show d.journal.answered.map _ = _
      rw [hanswered]
      split <;> rfl
  | take p rest hw hq =>
    rw [hw] at htaken hanswered
    refine ⟨?_, ?_, hanswered, hproc⟩
    · show d.journal.sent = d.journal.taken ++ [p] ++ rest.items
      rw [hsent, hq, List.append_assoc]
      rfl
    · show d.journal.taken ++ [p] = _
      rw [htaken, List.append_assoc]
      rfl
  | prepare p hw =>
    rw [hw] at htaken hanswered
    exact ⟨hsent, htaken, hanswered, hproc⟩
  | answer p hw =>
    rw [hw] at htaken hanswered
    refine ⟨hsent, ?_, ?_, ?_⟩
    · show d.journal.taken = (d.journal.answered ++ [_]).map _ ++ []
      rw [htaken, List.map_append, List.append_nil]
      rfl
    · show (d.journal.answered ++ [_]).map _ = _
      rw [List.map_append, hanswered]
      show _ ++ [] ++ _ = _
      rw [List.append_nil]
      rfl
    · intro e he
      rcases List.mem_append.1 he with he | he
      · exact hproc e he
      · rcases List.mem_singleton.1 he with rfl
        rcases hdet : d.core.det.isSome with - | -
        · exact Or.inr (by rw [respond, if_neg (by simp [hdet])])
        · exact Or.inl rfl
  | reply p queue hw hq =>
    rw [hw] at htaken hanswered
    refine ⟨hsent, htaken, ?_, hproc⟩
    show d.journal.answered.map _ = d.journal.received ++ queue.items ++ []
    rw [hanswered, hq, List.append_nil, List.append_assoc]
    rfl

theorem Fifo.wait {expired : Bool} (h : d.Fifo) (hs : WaitStep d expired d') : d'.Fifo := by
  obtain ⟨hsent, htaken, hanswered, hproc⟩ := h
  cases hs with
  | expire p stage hc => exact ⟨hsent, htaken, hanswered, hproc⟩
  | flush p q rest hc hq =>
    refine ⟨hsent, htaken, ?_, hproc⟩
    show d.journal.answered.map _ = d.journal.received ++ [q] ++ rest.items ++ _
    rw [hanswered, hq, List.append_assoc d.journal.received [q]]
    rfl
  | send p queue hc hq =>
    refine ⟨?_, htaken, hanswered, hproc⟩
    show d.journal.sent ++ [p] = d.journal.taken ++ queue.items
    rw [hsent, hq, List.append_assoc]
  | receive p q rest hc hq =>
    refine ⟨hsent, htaken, ?_, hproc⟩
    show d.journal.answered.map _ = d.journal.received ++ [q] ++ rest.items ++ _
    rw [hanswered, hq, List.append_assoc d.journal.received [q]]
    rfl

/-! ### The numbering of calls -/

/-- The call in progress. -/
def inCall : Caller → Option Packet
  | .flushing p => some p
  | .sending p => some p
  | .receiving p => some p
  | _ => none

/-- The call in progress, while its message has not been sent. -/
def beforeSend : Caller → Option Packet
  | .flushing p => some p
  | .sending p => some p
  | _ => none

@[simp] theorem inCall_flushLoop (p : Packet) (n : ℕ) : inCall (flushLoop p n) = some p := by
  rw [flushLoop]
  split <;> rfl

@[simp] theorem beforeSend_flushLoop (p : Packet) (n : ℕ) :
    beforeSend (flushLoop p n) = some p := by
  rw [flushLoop]
  split <;> rfl

theorem AtStage.inCall_eq {p : Packet} {stage : Stage} (h : d.AtStage p stage) :
    inCall d.caller = some p := by
  cases stage <;> exact (show d.caller = _ from h) ▸ rfl

/-- How many calls have ended, when `c` is the position of the caller and `n` calls were made. -/
def endedAt (c : Caller) (n : ℕ) : ℕ := ((inCall c).map Packet.call).getD n

/-- Calls below this number may have been sent. -/
def sendableAt (c : Caller) (n : ℕ) : ℕ := ((beforeSend c).map Packet.call).getD n

/-- The call in progress is the last one made. -/
def Current (d : SlsDetDriver) (p : Packet) : Prop :=
  p.call + 1 = d.journal.called.length ∧ d.journal.called[p.call]? = some p.msg

/-- What the ending of a call says about its message. -/
def OutcomeFits (d : SlsDetDriver) (o : Outcome) : Prop :=
  match o.ending with
  | .answered rep => (⟨o.call, rep⟩ : Packet) ∈ d.journal.received
  | .gaveUp .receive => True
  | .gaveUp _ => ∀ p ∈ d.journal.sent, p.call ≠ o.call

/-- Calls are numbered in order; each ends at most once and sends at most once. -/
structure Numbered (d : SlsDetDriver) : Prop where
  current : ∀ p, inCall d.caller = some p → d.Current p
  bounded : ∀ p ∈ d.journal.sent, p.call < sendableAt d.caller d.journal.called.length
  ordered : (d.journal.sent.map Packet.call).Pairwise (· < ·)
  called : ∀ p ∈ d.journal.sent, d.journal.called[p.call]? = some p.msg
  endings : d.journal.outcomes.map Outcome.call =
    List.range (endedAt d.caller d.journal.called.length)
  asked : ∀ o ∈ d.journal.outcomes, d.journal.called[o.call]? = some o.req
  fits : ∀ o ∈ d.journal.outcomes, d.OutcomeFits o

/-- No outcome recorded so far belongs to a call that has not ended. -/
theorem Numbered.call_lt_ended (h : d.Numbered) {o : Outcome} (ho : o ∈ d.journal.outcomes) :
    o.call < endedAt d.caller d.journal.called.length := by
  have hmem : o.call ∈ d.journal.outcomes.map Outcome.call := List.mem_map_of_mem ho
  rw [h.endings] at hmem
  exact List.mem_range.1 hmem

/-- Receiving one more reply unsettles no outcome. -/
theorem outcomeFits_mono {o : Outcome} (h : d.OutcomeFits o)
    (hsent : d'.journal.sent = d.journal.sent)
    (hreceived : d.journal.received ⊆ d'.journal.received) : d'.OutcomeFits o := by
  unfold OutcomeFits at h ⊢
  split at h
  · exact hreceived h
  · trivial
  · rwa [hsent]

/-- Sending a message unsettles no outcome of another call. -/
theorem outcomeFits_send {o : Outcome} {p : Packet} (h : d.OutcomeFits o)
    (hsent : d'.journal.sent = d.journal.sent ++ [p])
    (hreceived : d'.journal.received = d.journal.received) (hne : o.call ≠ p.call) :
    d'.OutcomeFits o := by
  unfold OutcomeFits at h ⊢
  split at h
  · rwa [hreceived]
  · trivial
  · rw [hsent]
    intro r hr
    rcases List.mem_append.1 hr with hr | hr
    · exact h r hr
    · rw [List.mem_singleton.1 hr]
      exact hne.symm

theorem Numbered.work (h : d.Numbered) (hs : WorkStep lib d d') : d'.Numbered := by
  obtain ⟨hcaller, -, -, hcalled, hsent, hreceived, -, houtcomes, -⟩ := frame_work hs
  constructor
  case current =>
    rw [hcaller]
    intro p hp
    rw [Current, hcalled]
    exact h.current p hp
  case bounded =>
    rw [hsent, hcaller, hcalled]
    exact h.bounded
  case ordered =>
    rw [hsent]
    exact h.ordered
  case called =>
    rw [hsent, hcalled]
    exact h.called
  case endings =>
    rw [houtcomes, hcaller, hcalled]
    exact h.endings
  case asked =>
    rw [houtcomes, hcalled]
    exact h.asked
  case fits =>
    rw [houtcomes]
    exact fun o ho ↦ outcomeFits_mono (h.fits o ho) hsent (hreceived ▸ List.Subset.refl _)

theorem Numbered.request {m : SlsDetMessage} (h : d.Numbered) (hs : d.request m = some d') :
    d'.Numbered := by
  obtain ⟨hc, rfl⟩ := request_eq_some_iff.1 hs
  constructor
  case current =>
    intro p hp
    change inCall (flushLoop _ _) = _ at hp
    rw [inCall_flushLoop, Option.some.injEq] at hp
    subst hp
    refine ⟨?_, ?_⟩
    · show d.journal.called.length + 1 = (d.journal.called ++ [m]).length
      rw [List.length_append, List.length_singleton]
    · show (d.journal.called ++ [m])[d.journal.called.length]? = some m
      rw [List.getElem?_append_right (Nat.le_refl _), Nat.sub_self]
      rfl
  case bounded =>
    intro p hp
    have hlt := h.bounded p hp
    rw [hc] at hlt
    show p.call < sendableAt (flushLoop _ _) _
    rw [sendableAt, beforeSend_flushLoop]
    exact hlt
  case ordered => exact h.ordered
  case called => exact fun p hp ↦ List.getElem?_append_of_eq_some (h.called p hp) _
  case endings =>
    have hend := h.endings
    rw [hc] at hend
    show _ = List.range (endedAt (flushLoop _ _) _)
    rw [endedAt, inCall_flushLoop]
    exact hend
  case asked => exact fun o ho ↦ List.getElem?_append_of_eq_some (h.asked o ho) _
  case fits => exact h.fits

theorem Numbered.finish (h : d.Numbered) (hs : d.finish = some d') : d'.Numbered := by
  obtain ⟨⟨r, hc⟩, rfl⟩ := finish_eq_some_iff.1 hs
  have hbounded := h.bounded
  have hendings := h.endings
  rw [hc] at hbounded hendings
  exact ⟨fun p hp ↦ (nomatch hp), hbounded, h.ordered, h.called, hendings, h.asked, h.fits⟩

/-- **Ending a call.** Its outcome is the next one in the numbering, and everything else stays. -/
theorem Numbered.end_call {p : Packet} {r : Packet} {o : Outcome} (h : d.Numbered)
    (hin : inCall d.caller = some p) (ho : o = ⟨p.call, p.msg, o.ending⟩)
    (hcaller : d'.caller = .returned r) (hcalled : d'.journal.called = d.journal.called)
    (hsent : d'.journal.sent = d.journal.sent)
    (hreceived : d.journal.received ⊆ d'.journal.received)
    (houtcomes : d'.journal.outcomes = d.journal.outcomes ++ [o]) (hfit : d'.OutcomeFits o) :
    d'.Numbered := by
  have hcur := h.current p hin
  constructor
  case current =>
    rw [hcaller]
    exact fun q hq ↦ (nomatch hq)
  case bounded =>
    rw [hsent, hcaller, hcalled]
    intro q hq
    show q.call < d.journal.called.length
    obtain ⟨hlt, -⟩ := List.getElem?_eq_some_iff.1 (h.called q hq)
    exact hlt
  case ordered =>
    rw [hsent]
    exact h.ordered
  case called =>
    rw [hsent, hcalled]
    exact h.called
  case endings =>
    rw [houtcomes, List.map_append, h.endings, hcaller, hcalled, endedAt, hin, List.map_singleton]
    show List.range p.call ++ [o.call] = List.range d.journal.called.length
    rw [← hcur.1, List.range_succ, ho]
  case asked =>
    rw [houtcomes, hcalled]
    intro q hq
    rcases List.mem_append.1 hq with hq | hq
    · exact h.asked q hq
    · rw [List.mem_singleton.1 hq, ho]
      exact hcur.2
  case fits =>
    rw [houtcomes]
    intro q hq
    rcases List.mem_append.1 hq with hq | hq
    · exact outcomeFits_mono (h.fits q hq) hsent hreceived
    · rw [List.mem_singleton.1 hq]
      exact hfit

/-- A pass of the loop of `flush()` leaves the call where it is in the numbering. -/
theorem Numbered.flush {p : Packet} {n : ℕ} (h : d.Numbered) (hc : d.caller = .flushing p)
    (hcaller : d'.caller = flushLoop p n) (hcalled : d'.journal.called = d.journal.called)
    (hsent : d'.journal.sent = d.journal.sent)
    (hreceived : d.journal.received ⊆ d'.journal.received)
    (houtcomes : d'.journal.outcomes = d.journal.outcomes) : d'.Numbered := by
  have hbounded := h.bounded
  have hendings := h.endings
  rw [hc] at hbounded hendings
  constructor
  case current =>
    rw [hcaller, inCall_flushLoop]
    intro r hr
    rw [Current, hcalled, ← Option.some.inj hr]
    exact h.current p (hc ▸ rfl)
  case bounded =>
    rw [hsent, hcalled, hcaller, sendableAt, beforeSend_flushLoop]
    exact hbounded
  case ordered =>
    rw [hsent]
    exact h.ordered
  case called =>
    rw [hsent, hcalled]
    exact h.called
  case endings =>
    rw [houtcomes, hcalled, hcaller, endedAt, inCall_flushLoop]
    exact hendings
  case asked =>
    rw [houtcomes, hcalled]
    exact h.asked
  case fits =>
    rw [houtcomes]
    exact fun o ho ↦ outcomeFits_mono (h.fits o ho) hsent hreceived

/-- **Sending the message of a call.** It is the first of its call and the last one sent. -/
theorem Numbered.send {p : Packet} (h : d.Numbered) (hc : d.caller = .sending p)
    (hcaller : d'.caller = .receiving p) (hcalled : d'.journal.called = d.journal.called)
    (hsent : d'.journal.sent = d.journal.sent ++ [p])
    (hreceived : d'.journal.received = d.journal.received)
    (houtcomes : d'.journal.outcomes = d.journal.outcomes) : d'.Numbered := by
  have hcur := h.current p (hc ▸ rfl)
  have hbounded : ∀ r ∈ d.journal.sent, r.call < p.call := by
    have hb := h.bounded
    rwa [hc] at hb
  have hendings := h.endings
  rw [hc] at hendings
  constructor
  case current =>
    rw [hcaller]
    intro r hr
    rw [Current, hcalled, ← Option.some.inj hr]
    exact hcur
  case bounded =>
    rw [hsent, hcaller, hcalled]
    intro r hr
    show r.call < d.journal.called.length
    have hlen := hcur.1
    rcases List.mem_append.1 hr with hr | hr
    · have hlt := hbounded r hr
      omega
    · rw [List.mem_singleton.1 hr]
      omega
  case ordered =>
    rw [hsent, List.map_append, List.pairwise_append]
    refine ⟨h.ordered, List.pairwise_singleton _ _, fun a ha b hb ↦ ?_⟩
    obtain ⟨r, hr, rfl⟩ := List.mem_map.1 ha
    rw [List.mem_singleton.1 hb]
    exact hbounded r hr
  case called =>
    rw [hsent, hcalled]
    intro r hr
    rcases List.mem_append.1 hr with hr | hr
    · exact h.called r hr
    · rw [List.mem_singleton.1 hr]
      exact hcur.2
  case endings =>
    rw [houtcomes, hcalled, hcaller]
    exact hendings
  case asked =>
    rw [houtcomes, hcalled]
    exact h.asked
  case fits =>
    rw [houtcomes]
    intro o ho
    -- every recorded outcome is of an earlier call
    have hlt := h.call_lt_ended ho
    rw [hc] at hlt
    exact outcomeFits_send (h.fits o ho) hsent hreceived (Nat.ne_of_lt hlt)

theorem Numbered.wait {expired : Bool} (h : d.Numbered) (hcons : d.Conserved)
    (hs : WaitStep d expired d') : d'.Numbered := by
  cases hs with
  | expire p stage hc =>
    refine h.end_call (o := ⟨p.call, p.msg, .gaveUp stage⟩) hc.inCall_eq rfl rfl rfl rfl
      (List.Subset.refl _) rfl ?_
    -- before its send a call has left nothing in the queue
    have hunsent : beforeSend d.caller = some p → ∀ q ∈ d.journal.sent, q.call ≠ p.call := by
      intro hb q hq
      have hlt := h.bounded q hq
      rw [sendableAt, hb] at hlt
      exact Nat.ne_of_lt hlt
    cases stage with
    | flush => exact hunsent ((show d.caller = .flushing p from hc) ▸ rfl)
    | send => exact hunsent ((show d.caller = .sending p from hc) ▸ rfl)
    | receive => trivial
  | flush p q rest hc hq =>
    exact h.flush hc rfl rfl rfl (List.subset_append_left _ _) rfl
  | send p queue hc hq => exact h.send hc rfl rfl rfl rfl rfl
  | receive p q rest hc hq =>
    refine h.end_call (o := ⟨p.call, p.msg, .answered q.msg⟩) (hc ▸ rfl) rfl rfl rfl rfl
      (List.subset_append_left _ _) rfl ?_
    show (⟨p.call, q.msg⟩ : Packet) ∈ d.journal.received ++ [q]
    rw [← hcons.call_eq_of_receive hc hq]
    exact List.mem_append_right _ (List.mem_singleton.2 rfl)

/-! ### The invariant of the protocol -/

/-- The labels of normal operation: everything but `stop()` and `shutdown()`. -/
def Label.IsTraffic : Label → Bool
  | .request _ => true
  | .wait _ => true
  | .finish => true
  | .inspect _ => true
  | .work => true
  | _ => false

/-- The invariant of normal operation. -/
structure Correlated (d : SlsDetDriver) : Prop where
  conserved : d.Conserved
  fifo : d.Fifo
  numbered : d.Numbered

theorem correlated_new (hostName : Text) (id : Int) : (new hostName id).Correlated where
  conserved := ⟨rfl, Nat.zero_le 1⟩
  fifo := ⟨rfl, rfl, rfl, fun _ he ↦ (List.not_mem_nil he).elim⟩
  numbered := ⟨fun _ hp ↦ (nomatch hp), fun _ hp ↦ (List.not_mem_nil hp).elim, List.Pairwise.nil,
    fun _ hp ↦ (List.not_mem_nil hp).elim, rfl, fun _ ho ↦ (List.not_mem_nil ho).elim,
    fun _ ho ↦ (List.not_mem_nil ho).elim⟩

/-- Normal operation leaves `_running` alone. -/
theorem running_traffic {l : Label} (hl : l.IsTraffic) (hs : (machine lib).step d l = some d') :
    d'.running = d.running := by
  cases l with
  | request m =>
    obtain ⟨-, rfl⟩ := request_eq_some_iff.1 hs
    rfl
  | wait expired => cases waitStep_of_wait hs <;> rfl
  | finish =>
    obtain ⟨-, rfl⟩ := finish_eq_some_iff.1 hs
    rfl
  | inspect rep =>
    obtain ⟨-, rfl⟩ := inspect_eq_some_iff.1 hs
    rfl
  | work =>
    obtain ⟨-, -, hrunning, -⟩ := frame_work (workStep_of_work hs)
    exact hrunning
  | _ => simp [Label.IsTraffic] at hl

/-- Normal operation neither makes nor loses a packet. -/
theorem Conserved.step {l : Label} (h : d.Conserved) (hl : l.IsTraffic)
    (hs : (machine lib).step d l = some d') : d'.Conserved := by
  cases l with
  | request m => exact h.request hs
  | wait expired => exact h.wait (waitStep_of_wait hs)
  | finish => exact h.finish hs
  | inspect rep =>
    obtain ⟨-, rfl⟩ := inspect_eq_some_iff.1 hs
    exact ⟨h.pending, h.phase⟩
  | work => exact h.work (workStep_of_work hs)
  | _ => simp [Label.IsTraffic] at hl

/-- **One step of normal operation keeps the invariant.** -/
theorem Correlated.step {l : Label} (h : d.Correlated) (hl : l.IsTraffic)
    (hs : (machine lib).step d l = some d') : d'.Correlated := by
  obtain ⟨hcons, hfifo, hnum⟩ := h
  have hcons' := hcons.step hl hs
  cases l with
  | request m =>
    refine ⟨hcons', ?_, hnum.request hs⟩
    obtain ⟨-, rfl⟩ := request_eq_some_iff.1 hs
    exact ⟨hfifo.sent, hfifo.taken, hfifo.answered, hfifo.processed⟩
  | wait expired =>
    have hw := waitStep_of_wait hs
    exact ⟨hcons', hfifo.wait hw, hnum.wait hcons hw⟩
  | finish =>
    refine ⟨hcons', ?_, hnum.finish hs⟩
    obtain ⟨-, rfl⟩ := finish_eq_some_iff.1 hs
    exact ⟨hfifo.sent, hfifo.taken, hfifo.answered, hfifo.processed⟩
  | inspect rep =>
    obtain ⟨-, rfl⟩ := inspect_eq_some_iff.1 hs
    exact ⟨hcons', ⟨hfifo.sent, hfifo.taken, hfifo.answered, hfifo.processed⟩,
      ⟨hnum.current, hnum.bounded, hnum.ordered, hnum.called, hnum.endings, hnum.asked, hnum.fits⟩⟩
  | work =>
    have hw := workStep_of_work hs
    exact ⟨hcons', hfifo.work hw, hnum.work hw⟩
  | _ => simp [Label.IsTraffic] at hl

/-- The invariant holds throughout normal operation. -/
theorem correlated_of_run {hostName : Text} {id : Int} {ls : List Label}
    (hls : ∀ l ∈ ls, l.IsTraffic) (hrun : (machine lib).run (new hostName id) ls = some d) :
    d.Correlated :=
  LabelledMachine.run_invariant (L := fun l ↦ l.IsTraffic = true) (fun h hl hs ↦ h.step hl hs)
    (correlated_new hostName id) hls hrun

/-! ### Reply correlation -/

/-- The worker takes requests in the order in which they were sent. -/
theorem Correlated.taken_sublist_sent (h : d.Correlated) :
    d.journal.taken.Sublist d.journal.sent := by
  rw [h.fifo.sent]
  exact List.sublist_append_left _ _

theorem Correlated.taken_ordered (h : d.Correlated) :
    (d.journal.taken.map Packet.call).Pairwise (· < ·) :=
  h.numbered.ordered.sublist (h.taken_sublist_sent.map _)

/-- No call is answered twice. -/
theorem Correlated.answered_nodup (h : d.Correlated) :
    (d.journal.answered.map Exchange.call).Nodup := by
  have hsub : (d.journal.answered.map Exchange.call).Sublist (d.journal.taken.map Packet.call) := by
    rw [h.fifo.taken, List.map_append, List.map_map]
    exact List.sublist_append_left _ _
  exact (h.taken_ordered.sublist hsub).imp Nat.ne_of_lt

/-- An exchange answers the message of its call. -/
theorem Correlated.req_of_answered (h : d.Correlated) {e : Exchange}
    (he : e ∈ d.journal.answered) : d.journal.called[e.call]? = some e.req := by
  have htaken : e.request ∈ d.journal.taken := by
    rw [h.fifo.taken]
    exact List.mem_append_left _ (List.mem_map_of_mem he)
  exact h.numbered.called _ (h.taken_sublist_sent.subset htaken)

/-- **An answered call was handled exactly once**, and what it returned is what the worker replied
to its own message. -/
theorem Correlated.exists_exchange (h : d.Correlated) {o : Outcome} {rep : SlsDetMessage}
    (ho : o ∈ d.journal.outcomes) (hrep : o.ending = .answered rep) :
    ∃ e, (d.journal.answered.filter fun e ↦ e.call = o.call) = [e] ∧ e.req = o.req ∧ e.rep = rep ∧
      (e.processed = true ∨ rep = .ofType .error) := by
  have hfit := h.numbered.fits o ho
  rw [OutcomeFits, hrep] at hfit
  have hmem : (⟨o.call, rep⟩ : Packet) ∈ d.journal.answered.map Exchange.reply := by
    rw [h.fifo.answered, List.append_assoc]
    exact List.mem_append_left _ hfit
  obtain ⟨e, he, heq⟩ := List.mem_map.1 hmem
  have hcall : e.call = o.call := congrArg Packet.call heq
  have hreply : e.rep = rep := congrArg Packet.msg heq
  refine ⟨e, ?_, ?_, hreply, ?_⟩
  · rw [← hcall]
    exact List.filter_key_eq_singleton h.answered_nodup he
  · have hreq := h.req_of_answered he
    rw [hcall, h.numbered.asked o ho] at hreq
    exact (Option.some.inj hreq).symm
  · rw [← hreply]
    exact h.fifo.processed e he

/-- **Reply correlation.** In normal operation, whatever is called, whichever waits expire and
however caller and worker are interleaved:

* a message that a call took from `_reply` in its final receive is the one the worker sent for
  this very message in this very call, and the worker handled that message exactly once — by
  `process()`, unless it had no detector to process it on and replied with an error;
* the worker takes messages in call order, each at most once, and as they were handed to the call;
* the message of a call that gave up while flushing, or while sending, is never taken. -/
theorem reply_correlation {hostName : Text} {id : Int} {ls : List Label}
    (hls : ∀ l ∈ ls, l.IsTraffic) (hrun : (machine lib).run (new hostName id) ls = some d) :
    (∀ o ∈ d.journal.outcomes, ∀ rep, o.ending = .answered rep →
      ∃ e, (d.journal.answered.filter fun e ↦ e.call = o.call) = [e] ∧ e.req = o.req ∧
        e.rep = rep ∧ (e.processed = true ∨ rep = .ofType .error)) ∧
    (d.journal.taken.map Packet.call).Pairwise (· < ·) ∧
    (∀ p ∈ d.journal.taken, d.journal.called[p.call]? = some p.msg) ∧
    (∀ o ∈ d.journal.outcomes, o.ending = .gaveUp .flush ∨ o.ending = .gaveUp .send →
      ∀ p ∈ d.journal.taken, p.call ≠ o.call) := by
  have h := correlated_of_run hls hrun
  refine ⟨fun o ho rep hrep ↦ h.exists_exchange ho hrep, h.taken_ordered, fun p hp ↦ ?_, ?_⟩
  · exact h.numbered.called p (h.taken_sublist_sent.subset hp)
  · intro o ho hend p hp
    have hfit := h.numbered.fits o ho
    have hsent := h.taken_sublist_sent.subset hp
    rcases hend with hend | hend <;> rw [OutcomeFits, hend] at hfit <;> exact hfit p hsent

/-- A detector that answers every call with a one and raises no error. -/
def healthy : Library where
  answer _ _ := { ret := 1 }

/-- A first call whose reply comes too late, and a second one that flushes it. -/
def lateRun : List Label :=
  [.request (.ofType .checkOnline), .wait false, .wait true, .finish,
    .request (.ofType .readRunStatus), .work, .work, .work, .work, .work, .wait false, .wait false,
    .work, .work, .work, .work, .work, .wait false]

/-- What the caller saw in this run: the late reply flushed, and the ending of each call. -/
theorem run_lateRun : ((machine healthy).run (new [] 0) lateRun).map
    (fun d ↦ (d.journal.flushed, d.journal.outcomes)) = some ([⟨0, .ofType .ok⟩],
      [⟨0, .ofType .checkOnline, .gaveUp .receive⟩,
        ⟨1, .ofType .readRunStatus, .answered ⟨.ok, .int32 1⟩⟩]) := by
  decide +kernel

/-- After the late reply to call 0 was flushed, call 1 returns the run status. -/
theorem reply_correlation_late : ∃ d, (machine healthy).run (new [] 0) lateRun = some d ∧
    d.journal.flushed = [⟨0, .ofType .ok⟩] ∧
    ∃ e, (d.journal.answered.filter fun e ↦ e.call = 1) = [e] ∧ e.req = .ofType .readRunStatus ∧
      e.rep = ⟨.ok, .int32 1⟩ := by
  have htraffic : ∀ l ∈ lateRun, l.IsTraffic := by decide
  obtain ⟨d, hrun, hd⟩ := Option.map_eq_some_iff.1 run_lateRun
  obtain ⟨hflushed, houtcomes⟩ := Prod.mk.inj hd
  have hmem : ⟨1, .ofType .readRunStatus, .answered ⟨.ok, .int32 1⟩⟩ ∈ d.journal.outcomes := by
    rw [houtcomes]
    exact List.mem_cons_of_mem _ List.mem_cons_self
  obtain ⟨e, he, hreq, hrep, -⟩ := (reply_correlation htraffic hrun).1 _ hmem _ rfl
  exact ⟨d, hrun, hflushed, e, he, hreq, hrep⟩

end SlsDetDriver
