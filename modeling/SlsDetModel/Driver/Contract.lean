import SlsDetModel.Driver.Synchronous

/-!
# What `request()` promises

A call of `request()` from an idle driver ends in one of two ways. Either every wait completes: then
the stale replies were flushed, and the call returns what one iteration of the worker's loop replies
to this very message, with nothing left in flight. Or a wait expires, and the call returns Timeout.
Then it depends on the wait what is left: as long as the message has not been sent, nothing has
happened but that stale replies were flushed; once it was sent, the worker carries it out all the
same, and its reply is what is stale now.

`Reached` says how far a call has come at each of its waits, relative to the state in which it was
made. `InCall` follows it through the waits of the synchronous driver, and `Requested` is what
remains of it at the end.
-/

namespace SlsDetDriver

variable {lib : Library} {late : Bool} {m : SlsDetMessage} {s₀ s s' : Sync}

/-- A call of `request(m)` made in `s₀` has come as far as the wait of the stage. -/
def Reached (lib : Library) (s₀ : Sync) (m : SlsDetMessage) (s : Sync) : Stage → Prop
  | .flush => s.core = s₀.core ∧ s.sent = s₀.sent ∧ s.replies <:+ s₀.replies ∧ 0 < s.pending ∧
      s.pending = s.replies.length
  | .send => s.core = s₀.core ∧ s.sent = s₀.sent ∧ s.replies = [] ∧ s.pending = 0
  | .receive => s.core = (serve lib s₀.core m).2 ∧ s.sent = s₀.sent ++ [⟨s₀.called.length, m⟩] ∧
      s.replies = [⟨s₀.called.length, (serve lib s₀.core m).1⟩] ∧ s.pending = 1

/-- How a call of `request(m)` made in `s₀` ended, in `s`, with the message it returned. Only where
expiries are admitted (`late`) can it have given up, and then it leaves what it had reached. -/
inductive Ended (lib : Library) (late : Bool) (s₀ : Sync) (m : SlsDetMessage) (s : Sync) :
    SlsDetMessage → Prop
  | answered (hcore : s.core = (serve lib s₀.core m).2) (hreplies : s.replies = [])
      (hpending : s.pending = 0) (houtcomes : s.outcomes =
        s₀.outcomes ++ [⟨s₀.called.length, m, .answered (serve lib s₀.core m).1⟩])
      (hsent : s.sent = s₀.sent ++ [⟨s₀.called.length, m⟩]) :
      Ended lib late s₀ m s (serve lib s₀.core m).1
  | gaveUp (stage : Stage) (hlate : late = true) (houtcomes : s.outcomes =
        s₀.outcomes ++ [⟨s₀.called.length, m, .gaveUp stage⟩])
      (hreached : Reached lib s₀ m s stage) : Ended lib late s₀ m s (.ofType .timeout)

/-- How far the call is. -/
def Progress (lib : Library) (late : Bool) (s₀ : Sync) (m : SlsDetMessage) (s : Sync) : Prop :=
  match s.caller with
  | .flushing p => p = ⟨s₀.called.length, m⟩ ∧ s.outcomes = s₀.outcomes ∧ Reached lib s₀ m s .flush
  | .sending p => p = ⟨s₀.called.length, m⟩ ∧ s.outcomes = s₀.outcomes ∧ Reached lib s₀ m s .send
  | .receiving p => p = ⟨s₀.called.length, m⟩ ∧ s.outcomes = s₀.outcomes ∧
      Reached lib s₀ m s .receive
  | .returned p => Ended lib late s₀ m s p.msg
  | _ => False

/-- A call of `request(m)` made in `s₀` is under way. -/
structure InCall (lib : Library) (late : Bool) (s₀ : Sync) (m : SlsDetMessage) (s : Sync) :
    Prop where
  called : s.called = s₀.called ++ [m]
  progress : Progress lib late s₀ m s

/-- **The contract of `request(m)`**, called in `s₀`: it returns `rep`, and leaves `s`. -/
structure Requested (lib : Library) (late : Bool) (s₀ : Sync) (m rep : SlsDetMessage) (s : Sync) :
    Prop where
  idle : s.caller = .idle
  called : s.called = s₀.called ++ [m]
  ended : Ended lib late s₀ m s rep

/-- The loop test of `flush()`. -/
theorem progress_flushLoop {p : Packet} (hp : p = ⟨s₀.called.length, m⟩)
    (hc : s.caller = flushLoop p s.pending) (hout : s.outcomes = s₀.outcomes)
    (hcore : s.core = s₀.core) (hsent : s.sent = s₀.sent) (hsuffix : s.replies <:+ s₀.replies)
    (hpend : s.pending = s.replies.length) : Progress lib late s₀ m s := by
  rw [Progress, hc, flushLoop]
  by_cases hpos : s.pending > 0
  · rw [if_pos hpos]
    exact ⟨hp, hout, hcore, hsent, hsuffix, hpos, hpend⟩
  · rw [if_neg hpos]
    have hzero : s.pending = 0 := by omega
    exact ⟨hp, hout, hcore, hsent, List.length_eq_zero_iff.1 (hpend.symm.trans hzero), hzero⟩

theorem inCall_request (hpend : s₀.pending = s₀.replies.length)
    (h : s₀.step lib (.request m) = some s) : InCall lib late s₀ m s := by
  rw [Sync.step] at h
  split at h
  case h_1 =>
    obtain rfl := Option.some.inj h
    exact ⟨rfl, progress_flushLoop rfl rfl rfl rfl rfl List.suffix_rfl hpend⟩
  case h_2 => cases h

/-- A wait expires: the call gives up, and leaves what it had reached. -/
theorem inCall_giveUp {stage : Stage} (hcalled : s.called = s₀.called ++ [m])
    (hlate : late = true) (hout : s.outcomes = s₀.outcomes) (hreached : Reached lib s₀ m s stage) :
    InCall lib late s₀ m (s.giveUp ⟨s₀.called.length, m⟩ stage) := by
  refine ⟨hcalled, .gaveUp stage hlate ?_ ?_⟩
  · show s.outcomes ++ [_] = _
    rw [hout]
  · cases stage <;> exact hreached

/-- **One wait of the caller**, completed or expired, takes the call further. -/
theorem InCall.wait {expired : Bool} (h : InCall lib late s₀ m s)
    (hlate : expired = true → late = true) (hs : s.wait lib expired = some s') :
    InCall lib late s₀ m s' := by
  obtain ⟨hcalled, hprog⟩ := h
  rw [Sync.wait] at hs
  rw [Progress] at hprog
  rcases hc : s.caller with - | p | p | p | p | - | - | - <;> rw [hc] at hs hprog
  case flushing =>
    obtain ⟨rfl, hout, hreached⟩ := hprog
    dsimp only at hs
    split at hs
    case isTrue hexp =>
      obtain rfl := Option.some.inj hs
      exact inCall_giveUp hcalled (hlate hexp) hout hreached
    case isFalse =>
      obtain ⟨hcore, hsent, hsuffix, -, hpend⟩ := hreached
      rcases hr : s.replies with - | ⟨q, rest⟩ <;> rw [hr] at hs
      · cases hs
      · obtain rfl := Option.some.inj hs
        rw [hr] at hsuffix hpend
        refine ⟨hcalled, progress_flushLoop rfl rfl hout hcore hsent
          ((List.suffix_cons q rest).trans hsuffix) ?_⟩
        show s.pending - 1 = rest.length
        rw [hpend, List.length_cons, Nat.add_sub_cancel]
  case sending =>
    obtain ⟨rfl, hout, hreached⟩ := hprog
    dsimp only at hs
    split at hs
    case isTrue hexp =>
      obtain rfl := Option.some.inj hs
      exact inCall_giveUp hcalled (hlate hexp) hout hreached
    case isFalse =>
      obtain ⟨hcore, hsent, hreplies, hpend⟩ := hreached
      obtain rfl := Option.some.inj hs
      refine ⟨hcalled, rfl, hout, ?_, ?_, ?_, ?_⟩
      · show (serve lib s.core m).2 = _
        rw [hcore]
      · show s.sent ++ [_] = _
        rw [hsent]
      · show s.replies ++ [_] = _
        rw [hreplies, hcore]
        rfl
      · show s.pending + 1 = 1
        rw [hpend]
  case receiving =>
    obtain ⟨rfl, hout, hreached⟩ := hprog
    dsimp only at hs
    split at hs
    case isTrue hexp =>
      obtain rfl := Option.some.inj hs
      exact inCall_giveUp hcalled (hlate hexp) hout hreached
    case isFalse =>
      obtain ⟨hcore, hsent, hreplies, hpend⟩ := hreached
      rw [hreplies] at hs
      obtain rfl := Option.some.inj hs
      refine ⟨hcalled, .answered hcore rfl ?_ ?_ hsent⟩
      · show s.pending - 1 = 0
        rw [hpend]
      · show s.outcomes ++ [_] = _
        rw [hout]
  all_goals cases hs

/-- A call under way has returned, or the caller is in one of its waits. -/
theorem InCall.returned_or (h : InCall lib late s₀ m s) :
    (∃ p, s.caller = .returned p) ∨ inCall s.caller ≠ none := by
  have hprog := h.progress
  rw [Progress] at hprog
  rcases hc : s.caller with - | p | p | p | p | - | - | -
  case returned => exact Or.inl ⟨p, rfl⟩
  case flushing => exact Or.inr fun hnone ↦ (nomatch hnone)
  case sending => exact Or.inr fun hnone ↦ (nomatch hnone)
  case receiving => exact Or.inr fun hnone ↦ (nomatch hnone)
  all_goals rw [hc] at hprog; exact hprog.elim

/-- The caller takes the message the call returned. -/
theorem InCall.finish {p : Packet} (h : InCall lib late s₀ m s) (hc : s.caller = .returned p) :
    Requested lib late s₀ m p.msg { s with caller := .idle } := by
  obtain ⟨hcalled, hprog⟩ := h
  rw [Progress, hc] at hprog
  refine ⟨rfl, hcalled, ?_⟩
  dsimp only at hprog
  generalize p.msg = rep at hprog ⊢
  cases hprog with
  | answered hcore hreplies hpending houtcomes hsent =>
    exact .answered hcore hreplies hpending houtcomes hsent
  | gaveUp stage hlate houtcomes hreached =>
    refine .gaveUp stage hlate houtcomes ?_
    cases stage <;> exact hreached

/-- Unless waits may expire, the call was answered. -/
theorem Requested.answered {rep : SlsDetMessage} (h : Requested lib false s₀ m rep s) :
    rep = (serve lib s₀.core m).1 ∧ s.core = (serve lib s₀.core m).2 ∧ s.replies = [] ∧
      s.pending = 0 := by
  cases h.ended with
  | answered hcore hreplies hpending => exact ⟨rfl, hcore, hreplies, hpending⟩
  | gaveUp _ hlate => cases hlate

/-- A string was returned by the last call, if it was returned at all. -/
theorem Requested.timely {rep : SlsDetMessage} (h : Requested lib late s₀ m rep s)
    (hstr : rep.dtype = .string) :
    ∃ o, s.outcomes.getLast? = some o ∧ o.ending = .answered rep := by
  cases h.ended with
  | answered _ _ _ houtcomes => exact ⟨_, by rw [houtcomes, List.getLast?_concat], rfl⟩
  | gaveUp => cases hstr

/-! ### What a reply says about the driver -/

/-- Nothing is left over from earlier requests: no reply is outstanding, and the detector object is
there with a clear error mask. -/
structure Sync.Clean (s : Sync) : Prop where
  pending : s.pending = 0
  det : s.core.det.isSome
  errorMask : s.core.errorMask = 0

/-- With a detector there is nothing to initialize. -/
theorem serve_of_isSome {c : Core} (h : c.det.isSome) (m : SlsDetMessage) :
    serve lib c m = c.process lib m := by
  rw [serve, Core.initializeDet_of_isSome h, respond, if_pos h]

/-- **Ok cleans the slate**, whatever there was before. -/
theorem Requested.clean_of_ok {rep : SlsDetMessage} (h : Requested lib late s₀ m rep s)
    (hok : rep.mtype = .ok) : s.Clean := by
  cases h.ended with
  | gaveUp => cases hok
  | answered hcore _ hpending =>
    rw [serve, respond] at hok hcore
    split at hok
    case isFalse => cases hok
    case isTrue hdet =>
      rw [if_pos hdet] at hcore
      have hsound : Core.Sound lib (m.ownCall lib.rounding) _
          ((s₀.core.initializeDet lib).process lib m) :=
        Core.sound_process hdet
      refine ⟨hpending, ?_, ?_⟩
      · rw [hcore]
        exact hsound.det
      · rw [hcore]
        exact hsound.clean (Or.inl hok)

/-- **Ok, Failed and Invalid keep it clean.** -/
theorem Sync.Clean.requested {rep : SlsDetMessage} (hs : s₀.Clean)
    (h : Requested lib late s₀ m rep s)
    (hm : rep.mtype = .ok ∨ rep.mtype = .failed ∨ rep.mtype = .invalid) : s.Clean := by
  cases h.ended with
  | gaveUp => simp at hm
  | answered hcore _ hpending =>
    rw [serve_of_isSome hs.det] at hm hcore
    have hsound : Core.Sound lib (m.ownCall lib.rounding) s₀.core (s₀.core.process lib m) :=
      Core.sound_process hs.det
    refine ⟨hpending, hcore ▸ hsound.det, ?_⟩
    rw [hcore]
    rcases hm with hm | hm | hm
    · exact hsound.clean (Or.inl hm)
    · exact hsound.clean (Or.inr hm)
    · rw [hsound.invalid hm]
      exact hs.errorMask

/-- **With a clean slate errors are the fault of the request's own call.** -/
theorem Sync.Clean.blame {rep : SlsDetMessage} {o : Outcome} (hs : s₀.Clean)
    (h : Requested lib late s₀ m rep s) (ho : o ∈ s.outcomes.drop s₀.outcomes.length)
    {rep' : SlsDetMessage} (hrep : o.ending = .answered rep')
    (hm : rep'.mtype = .error ∨ rep'.mtype = .failed) :
    s.pending = 0 ∧ ∃ q rest, o.req.ownCall lib.rounding = some q ∧
      s.core.calls = s₀.core.calls ++ q :: rest ∧ q.Faults (lib s₀.core.calls q) := by
  cases h.ended with
  | gaveUp _ _ houtcomes =>
    rw [houtcomes, List.drop_left, List.mem_singleton] at ho
    rw [ho] at hrep
    cases hrep
  | answered hcore _ hpending houtcomes =>
    rw [houtcomes, List.drop_left, List.mem_singleton] at ho
    rw [ho] at hrep ⊢
    obtain rfl := Ending.answered.inj hrep
    rw [serve_of_isSome hs.det] at hm hcore
    rw [hcore]
    exact ⟨hpending, (Core.sound_process hs.det).blame hs.errorMask hm⟩

end SlsDetDriver
