import SlsDetModel.Driver.Capacity
import SlsDetModel.Driver.Strings

/-!
# A call comes to its end

While a call of `request()` is under way and no wait expires, one of the two threads can always go
on: the caller if there is room or a reply for it, the worker otherwise. And every step either of
them takes uses up something of `stepsLeft`. So a call cannot run into a deadlock, and it cannot go
on forever; `Operating.returns` is what follows for one call.
-/

namespace SlsDetDriver

variable {lib : Library} {d d' : SlsDetDriver}

/-- How much is left of what the worker is doing. -/
def workLeft : Worker → ℕ
  | .holding _ => 5
  | .ready _ => 4
  | .replying _ => 3
  | .test => 1
  | _ => 0

/-- How much is left of the call. -/
def waitsLeft : Caller → ℕ
  | .flushing _ => 9
  | .sending _ => 8
  | .receiving _ => 1
  | _ => 0

/-- A bound on the steps until the call in progress returns. A request that is sent is six of them:
to be taken, served in three, and received. -/
def stepsLeft (d : SlsDetDriver) : ℕ :=
  waitsLeft d.caller + workLeft d.worker + 6 * d.requestQueue.items.length +
    d.replyQueue.items.length

/-- **A step of the worker is one step less.** -/
theorem stepsLeft_work (h : WorkStep lib d d') : d'.stepsLeft < d.stepsLeft := by
  cases h with
  | test hw =>
    rw [stepsLeft, stepsLeft, hw]
    split <;> simp [workLeft]
  | take p rest hw hq =>
    rw [stepsLeft, stepsLeft, hw, hq]
    simp only [workLeft, List.length_cons]
    omega
  | prepare p hw =>
    rw [stepsLeft, stepsLeft, hw]
    simp [workLeft]
  | answer p hw =>
    rw [stepsLeft, stepsLeft, hw]
    simp [workLeft, answer]
  | reply p queue hw hq =>
    rw [stepsLeft, stepsLeft, hw, hq]
    simp only [workLeft, List.length_append, List.length_singleton]
    omega

/-- The loop test of `flush()` goes on to no more than there was. -/
theorem waitsLeft_flushLoop (p : Packet) (n : ℕ) : waitsLeft (flushLoop p n) ≤ 9 := by
  rw [flushLoop]
  split <;> simp [waitsLeft]

/-- **A completed wait of the caller is one step less.** -/
theorem stepsLeft_wait (h : WaitStep d false d') : d'.stepsLeft < d.stepsLeft := by
  cases h with
  | flush p q rest hc hq =>
    have hle := waitsLeft_flushLoop p (d.pending - 1)
    rw [stepsLeft, stepsLeft, hc, hq]
    simp only [waitsLeft, List.length_cons] at hle ⊢
    omega
  | send p queue hc hq =>
    rw [stepsLeft, stepsLeft, hc, hq]
    simp only [waitsLeft, List.length_append, List.length_singleton]
    omega
  | receive p q rest hc hq =>
    rw [stepsLeft, stepsLeft, hc, hq]
    simp only [waitsLeft, List.length_cons]
    omega

/-- So is a wait that expires: the call gives up. -/
theorem stepsLeft_expire (h : WaitStep d true d') : d'.stepsLeft < d.stepsLeft := by
  cases h with
  | expire p stage hc =>
    cases stage
    all_goals
      rw [AtStage] at hc
      rw [stepsLeft, stepsLeft, hc]
      simp [giveUp, waitsLeft]

/-- A call adds no more than nine steps to what is left to do. -/
theorem stepsLeft_request {m : SlsDetMessage} (h : d.request m = some d') :
    d'.stepsLeft ≤ d.stepsLeft + 9 := by
  obtain ⟨-, rfl⟩ := request_eq_some_iff.1 h
  have hle := waitsLeft_flushLoop ⟨d.journal.called.length, m⟩ d.pending
  rw [stepsLeft, stepsLeft]
  dsimp only
  omega

/-- Between two calls there are no more than seven steps left: the worker is at its loop test, and
an abandoned request is queued. -/
theorem Operating.stepsLeft_le (h : d.Operating) (hc : d.caller = .idle) : d.stepsLeft ≤ 7 := by
  have hone := h.correlated.conserved.length_le_one
  rw [length_inflight] at hone
  rw [stepsLeft, hc]
  rcases hw : d.worker with - | - | p | p | p | - <;> rw [hw] at hone <;>
    simp only [waitsLeft, workLeft, busy, List.length_nil, List.length_singleton] at hone ⊢ <;>
    omega

/-- A receive completes when there is a reply. -/
theorem enabled_wait_of_reply {p : Packet} (hc : d.caller = .flushing p ∨ d.caller = .receiving p)
    (hq : d.replyQueue.items ≠ []) : d.Enabled lib (.wait false) := by
  show (d.wait false).isSome
  rcases hrec : d.replyQueue.receive? with - | ⟨q, rest⟩
  · exact (hq (BoundedQueue.receive?_eq_none_iff.1 hrec)).elim
  · rcases hc with hc | hc <;> rw [wait, hc] <;> dsimp only <;> rw [if_neg (by decide)]
    · rw [flush, hrec]
      rfl
    · rw [receive, hrec]
      rfl

/-- **No deadlock.** While a call is under way, the worker or the caller can go on. -/
theorem Operating.enabled (h : d.Operating) (hc : inCall d.caller ≠ none) :
    d.Enabled lib .work ∨ d.Enabled lib (.wait false) := by
  have hacc : d.Accounted := Or.inl ⟨h.correlated.conserved, h.running⟩
  have hphase := h.correlated.conserved.phase
  -- with one packet in flight and no reply queued, the worker has it, or it is queued for him
  have hwait : ∀ p, d.caller = .flushing p ∨ d.caller = .receiving p → d.inflight ≠ [] →
      d.Enabled lib .work ∨ d.Enabled lib (.wait false) := by
    intro p hp hne
    by_cases hreply : d.replyQueue.items = []
    · refine Or.inl (hacc.work_enabled h.working fun hw hreq ↦ hne ?_)
      rw [inflight, hreply, hw, hreq]
      rfl
    · exact Or.inr (enabled_wait_of_reply hp hreply)
  rw [Phase] at hphase
  rcases hcaller : d.caller with - | p | p | p | p | - | - | -
  case flushing =>
    rw [hcaller] at hphase
    exact hwait p (Or.inl hcaller) fun hnil ↦ by simp [hnil] at hphase
  case sending => exact Or.inr (hacc.post_enabled.2.2 p hcaller)
  case receiving =>
    rw [hcaller] at hphase
    exact hwait p (Or.inr hcaller) fun hnil ↦ by simp [hnil] at hphase
  all_goals exact (hc (by rw [hcaller]; rfl)).elim

/-- The steps in which no wait expires. -/
def Label.OnTime (l : Label) : Prop := l = .work ∨ l = .wait false

/-- **A call returns**, if no wait expires. -/
theorem Operating.returns (h : d.Operating) (hc : inCall d.caller ≠ none) :
    ∃ ls, (∀ l ∈ ls, l.OnTime) ∧ ∃ d' p, (machine lib).run d ls = some d' ∧
      d'.caller = .returned p := by
  induction hn : d.stepsLeft using Nat.strongRecOn generalizing d with
  | ind n ih =>
    -- one step, after which the call has returned or is still under way
    have hstep : ∃ l d₁, l.OnTime ∧ d.Prompt l ∧ (machine lib).step d l = some d₁ ∧
        d₁.stepsLeft < n ∧ (inCall d₁.caller ≠ none ∨ ∃ p, d₁.caller = .returned p) := by
      rcases h.enabled hc with hen | hen <;> obtain ⟨d₁, hd₁⟩ := Option.isSome_iff_exists.1 hen
      · have hwork := workStep_of_work hd₁
        refine ⟨.work, d₁, Or.inl rfl, d.prompt_work, hd₁, hn ▸ stepsLeft_work hwork, Or.inl ?_⟩
        rw [(frame_work hwork).1]
        exact hc
      · have hwait := waitStep_of_wait hd₁
        refine ⟨.wait false, d₁, Or.inr rfl, d.prompt_wait false, hd₁,
          hn ▸ stepsLeft_wait hwait, ?_⟩
        cases hwait with
        | flush p q rest hc' hq =>
          refine Or.inl ?_
          rw [inCall_flushLoop]
          exact fun hnone ↦ (nomatch hnone)
        | send p queue hc' hq => exact Or.inl fun hnone ↦ (nomatch hnone)
        | receive p q rest hc' hq => exact Or.inr ⟨_, rfl⟩
    obtain ⟨l, d₁, hl, hprompt, hd₁, hlt, hnext⟩ := hstep
    rcases hnext with hcall | ⟨p, hp⟩
    · obtain ⟨ls, hls, d₂, p, hrun, hp⟩ := ih _ hlt (h.step hprompt hd₁) hcall rfl
      refine ⟨l :: ls, fun l' hl' ↦ ?_, d₂, p, (machine lib).run_cons_eq_some.2 ⟨d₁, hd₁, hrun⟩, hp⟩
      rcases List.mem_cons.1 hl' with rfl | hl'
      · exact hl
      · exact hls l' hl'
    · exact ⟨[l], fun l' hl' ↦ List.mem_singleton.1 hl' ▸ hl, d₁, p,
        (machine lib).run_cons_eq_some.2 ⟨d₁, hd₁, rfl⟩, hp⟩

end SlsDetDriver
