import SlsDetModel.Driver.Correlation
import SlsDetModel.Driver.Replies

/-!
# String replies and the slot they point into

A string reply carries a pointer into the worker's one-slot cache, and the next string the worker
caches frees what it points to. Nothing checks the pointer when the caller follows it. That it is
followed in time rests on three facts, which `Legible` keeps:

* the slot holds the text of the worker's **last** answer, whenever that was a string;
* while the caller has an answer in hand, nothing is in flight, so the worker's last answer is the
  one the caller received last;
* an answered call was not flushed, for no reply is received twice.

The condition is that the caller looks only at what its last call returned (`Timely`). Everything it
then sees (`Faithful`) is the text computed for that very call.
-/

namespace SlsDetDriver

variable {lib : Library} {d d' : SlsDetDriver}

/-- If this message is a string, it is what the last call returned. -/
def Timely (d : SlsDetDriver) (rep : SlsDetMessage) : Prop :=
  rep.dtype = .string → ∃ o, d.journal.outcomes.getLast? = some o ∧ o.ending = .answered rep

/-- Normal operation in which the caller looks only at what was just returned. -/
def Prompt (d : SlsDetDriver) (l : Label) : Prop :=
  l.IsTraffic ∧ ∀ rep, l = .inspect rep → d.Timely rep

theorem prompt_request (d : SlsDetDriver) (m : SlsDetMessage) : d.Prompt (.request m) :=
  ⟨rfl, fun _ h ↦ (nomatch h)⟩

theorem prompt_wait (d : SlsDetDriver) (expired : Bool) : d.Prompt (.wait expired) :=
  ⟨rfl, fun _ h ↦ (nomatch h)⟩

theorem prompt_finish (d : SlsDetDriver) : d.Prompt .finish := ⟨rfl, fun _ h ↦ (nomatch h)⟩

theorem prompt_work (d : SlsDetDriver) : d.Prompt .work := ⟨rfl, fun _ h ↦ (nomatch h)⟩

theorem prompt_inspect {d : SlsDetDriver} {rep : SlsDetMessage} (h : d.Timely rep) :
    d.Prompt (.inspect rep) := by
  refine ⟨rfl, fun rep' heq ↦ ?_⟩
  obtain rfl := Label.inspect.inj heq
  exact h

/-- A look that found the text the worker computed for the very call it was about. -/
def Faithful (d : SlsDetDriver) (i : Inspection) : Prop :=
  ∃ e ∈ d.journal.answered, e.call = i.call ∧ e.rep = i.rep ∧ e.text = i.seen ∧ i.seen.isSome ∧
    ⟨i.call, e.req, .answered i.rep⟩ ∈ d.journal.outcomes

/-- The invariant behind string replies. -/
structure Legible (d : SlsDetDriver) : Prop where
  /-- The slot holds the text of the last answer. -/
  latest : ∀ e, d.journal.answered.getLast? = some e → textOf d.core e.rep = e.text
  texts : ∀ e ∈ d.journal.answered, e.rep.dtype = .string → e.text.isSome
  /-- With an answer in hand, nothing is in flight. -/
  settled : inCall d.caller = none → ∀ o rep, d.journal.outcomes.getLast? = some o →
    o.ending = .answered rep → d.pending = 0 ∧ d.journal.received.getLast? = some ⟨o.call, rep⟩
  flushed : d.journal.flushed ⊆ d.journal.received
  /-- What was flushed was not returned. -/
  discarded : ∀ p ∈ d.journal.flushed, ∀ o ∈ d.journal.outcomes, o.call = p.call →
    ∀ rep, o.ending ≠ .answered rep
  inspected : ∀ i ∈ d.journal.inspected, i.rep.dtype = .string → d.Faithful i

theorem legible_new (hostName : Text) (id : Int) : (new hostName id).Legible where
  latest := fun _ h ↦ (nomatch h)
  texts := fun _ h ↦ (List.not_mem_nil h).elim
  settled := fun _ _ _ h ↦ (nomatch h)
  flushed := List.Subset.refl _
  discarded := fun _ h ↦ (List.not_mem_nil h).elim
  inspected := fun _ h ↦ (List.not_mem_nil h).elim

/-- A look stays faithful while the journal grows. -/
theorem Faithful.mono {i : Inspection} (h : d.Faithful i)
    (hanswered : d.journal.answered ⊆ d'.journal.answered)
    (houtcomes : d.journal.outcomes ⊆ d'.journal.outcomes) : d'.Faithful i := by
  obtain ⟨e, he, hcall, hrep, hseen, hsome, ho⟩ := h
  exact ⟨e, hanswered he, hcall, hrep, hseen, hsome, houtcomes ho⟩

/-! ### The steps -/

/-- The text behind a reply depends on the cache only. -/
theorem textOf_congr {c c' : Core} (h : c'.cache = c.cache) (m : SlsDetMessage) :
    textOf c' m = textOf c m := by
  rw [textOf, textOf, h]

/-- A string reply of the worker points to a text. -/
theorem isSome_textOf_respond (lib : Library) (c : Core) (m : SlsDetMessage)
    (h : (respond lib c m).1.dtype = .string) :
    (textOf (respond lib c m).2 (respond lib c m).1).isSome := by
  rw [respond] at h ⊢
  split at h
  case isFalse => simp at h
  case isTrue hdet =>
    have hsound : Core.Sound lib (m.ownCall lib.rounding) c (c.process lib m) :=
      Core.sound_process hdet
    rw [if_pos hdet, textOf]
    split
    case h_1 pgp hpgp =>
      obtain ⟨t, ht⟩ := hsound.text pgp hpgp
      rw [ht]
      rfl
    case h_2 hne =>
      rw [SlsDetMessage.dtype] at h
      split at h <;> first | (cases h; done) | exact (hne _ ‹_›).elim

theorem Legible.work (h : d.Legible) (hs : WorkStep lib d d') : d'.Legible := by
  obtain ⟨hcaller, hpending, -, -, -, hreceived, hflushed, houtcomes, hinspected⟩ := frame_work hs
  have hanswered : d.journal.answered ⊆ d'.journal.answered := by
    cases hs
    case answer => exact List.subset_append_left _ _
    all_goals exact List.Subset.refl _
  constructor
  case latest =>
    cases hs with
    | prepare p hw =>
      intro e he
      rw [← h.latest e he]
      exact textOf_congr (Core.cache_initializeDet lib d.core) e.rep
    | answer p hw =>
      intro e he
      change (d.journal.answered ++ [_]).getLast? = some e at he
      rw [List.getLast?_concat] at he
      obtain rfl := Option.some.inj he
      rfl
    | _ => exact h.latest
  case texts =>
    cases hs with
    | answer p hw =>
      intro e he
      rcases List.mem_append.1 he with he | he
      · exact h.texts e he
      · rw [List.mem_singleton.1 he]
        exact isSome_textOf_respond lib d.core p.msg
    | _ => exact h.texts
  case settled =>
    rw [hcaller, houtcomes, hpending, hreceived]
    exact h.settled
  case flushed =>
    rw [hflushed, hreceived]
    exact h.flushed
  case discarded =>
    rw [hflushed, houtcomes]
    exact h.discarded
  case inspected =>
    rw [hinspected]
    exact fun i hi hstr ↦ (h.inspected i hi hstr).mono hanswered (houtcomes ▸ List.Subset.refl _)

/-- No reply is received twice. -/
theorem Correlated.received_nodup (h : d.Correlated) :
    (d.journal.received.map Packet.call).Nodup := by
  have hsub : (d.journal.received.map Packet.call).Sublist
      (d.journal.answered.map Exchange.call) := by
    have heq : d.journal.answered.map Exchange.call =
        (d.journal.answered.map Exchange.reply).map Packet.call := by
      rw [List.map_map]
      rfl
    rw [heq, h.fifo.answered, List.append_assoc, List.map_append]
    exact List.sublist_append_left _ _
  exact h.answered_nodup.sublist hsub

/-- A reply received now belongs to none of the calls received before. -/
theorem Correlated.call_ne_of_received {q : Packet} {received : List Packet} (h : d.Correlated)
    (hd : d.journal.received = received ++ [q]) {p : Packet} (hp : p ∈ received) :
    p.call ≠ q.call := by
  have hnodup := h.received_nodup
  rw [hd, List.map_append, List.map_singleton, List.nodup_append] at hnodup
  exact hnodup.2.2 p.call (List.mem_map_of_mem hp) q.call (List.mem_singleton.2 rfl)

theorem Legible.wait {expired : Bool} (h : d.Legible) (hd : d.Correlated) (hd' : d'.Correlated)
    (hs : WaitStep d expired d') : d'.Legible := by
  cases hs with
  | expire p stage hc =>
    refine ⟨h.latest, h.texts, fun _ o rep ho hrep ↦ ?_, h.flushed, fun q hq o ho hcall rep ↦ ?_,
      fun i hi hstr ↦ (h.inspected i hi hstr).mono (List.Subset.refl _)
        (List.subset_append_left _ _)⟩
    · change (d.journal.outcomes ++ [_]).getLast? = some o at ho
      rw [List.getLast?_concat] at ho
      obtain rfl := Option.some.inj ho
      cases hrep
    · rcases List.mem_append.1 ho with ho | ho
      · exact h.discarded q hq o ho hcall rep
      · rw [List.mem_singleton.1 ho]
        intro heq
        cases heq
  | flush p q rest hc hq =>
    refine ⟨h.latest, h.texts, fun hnone ↦ ?_, List.append_subset.2
      ⟨List.Subset.trans h.flushed (List.subset_append_left _ _), List.subset_append_right _ _⟩,
      fun r hr o ho hcall rep hrep ↦ ?_,
      fun i hi hstr ↦ (h.inspected i hi hstr).mono (List.Subset.refl _) (List.Subset.refl _)⟩
    · change inCall (flushLoop _ _) = none at hnone
      rw [inCall_flushLoop] at hnone
      cases hnone
    · rcases List.mem_append.1 hr with hr | hr
      · exact h.discarded r hr o ho hcall rep hrep
      · rw [List.mem_singleton.1 hr] at hcall
        -- had the call been answered, its reply would have been received before
        have hfit := hd.numbered.fits o ho
        rw [OutcomeFits, hrep] at hfit
        exact hd'.call_ne_of_received rfl hfit hcall
  | send p queue hc hq =>
    have hcalling : inCall (.receiving p) ≠ none := Option.some_ne_none p
    exact ⟨h.latest, h.texts, fun hnone ↦ (hcalling hnone).elim, h.flushed, h.discarded,
      fun i hi hstr ↦ (h.inspected i hi hstr).mono (List.Subset.refl _) (List.Subset.refl _)⟩
  | receive p q rest hc hq =>
    have hcall := hd.conserved.call_eq_of_receive hc hq
    have hpending : d.pending = 1 := by
      have hphase := hd.conserved.phase
      rw [Phase, hc] at hphase
      rw [hd.conserved.pending, hphase, List.length_singleton]
    refine ⟨h.latest, h.texts, fun _ o rep ho hrep ↦ ?_,
      List.Subset.trans h.flushed (List.subset_append_left _ _), fun r hr o ho hoc rep hrep ↦ ?_,
      fun i hi hstr ↦ (h.inspected i hi hstr).mono (List.Subset.refl _)
        (List.subset_append_left _ _)⟩
    · change (d.journal.outcomes ++ [_]).getLast? = some o at ho
      rw [List.getLast?_concat] at ho
      obtain rfl := Option.some.inj ho
      obtain rfl := Ending.answered.inj hrep
      refine ⟨by rw [hpending], ?_⟩
      show (d.journal.received ++ [q]).getLast? = _
      rw [List.getLast?_concat, ← hcall]
    · rcases List.mem_append.1 ho with ho | ho
      · exact h.discarded r hr o ho hoc rep hrep
      · rw [List.mem_singleton.1 ho] at hoc
        have hne := hd'.call_ne_of_received rfl (h.flushed hr)
        exact hne (hoc.symm.trans hcall.symm)

/-- With an answer in hand, the last exchange is the one that made it. -/
theorem Legible.exists_last (h : d.Legible) (hd : d.Correlated) (hc : inCall d.caller = none)
    {o : Outcome} {rep : SlsDetMessage} (ho : d.journal.outcomes.getLast? = some o)
    (hrep : o.ending = .answered rep) :
    ∃ e, d.journal.answered.getLast? = some e ∧ e.call = o.call ∧ e.rep = rep := by
  obtain ⟨hzero, hlast⟩ := h.settled hc o rep ho hrep
  have hnil : d.inflight = [] := List.length_eq_zero_iff.1 (hd.conserved.pending.symm.trans hzero)
  rw [inflight, List.map_eq_nil_iff, List.append_eq_nil_iff, List.append_eq_nil_iff] at hnil
  obtain ⟨⟨hreplies, hbusy⟩, -⟩ := hnil
  have hunsent : unsent d.worker = [] := by
    rcases hw : d.worker with - | - | p | p | p | - <;>
      first | rfl | (rw [hw] at hbusy; cases hbusy)
  have hanswered := hd.fifo.answered
  rw [hreplies, hunsent, List.append_nil, List.append_nil] at hanswered
  rw [← hanswered, List.getLast?_map, Option.map_eq_some_iff] at hlast
  obtain ⟨e, he, heq⟩ := hlast
  exact ⟨e, he, congrArg Packet.call heq, congrArg Packet.msg heq⟩

theorem Legible.inspect {rep : SlsDetMessage} (h : d.Legible) (hd : d.Correlated)
    (htimely : d.Timely rep) (hs : d.inspect rep = some d') : d'.Legible := by
  obtain ⟨hc, rfl⟩ := inspect_eq_some_iff.1 hs
  refine ⟨h.latest, h.texts, h.settled, h.flushed, h.discarded, fun i hi hstr ↦ ?_⟩
  rcases List.mem_append.1 hi with hi | hi
  · exact (h.inspected i hi hstr).mono (List.Subset.refl _) (List.Subset.refl _)
  rw [List.mem_singleton.1 hi] at hstr ⊢
  obtain ⟨o, ho, hrep⟩ := htimely hstr
  have hnone : inCall d.caller = none := by rw [hc]; rfl
  obtain ⟨e, he, hcall, rfl⟩ := h.exists_last hd hnone ho hrep
  have hmem := List.mem_of_getLast? he
  have homem := List.mem_of_getLast? ho
  -- the idle caller's last outcome is that of its last call
  have hlast : o.call = d.journal.called.length - 1 := by
    have hends := hd.numbered.endings
    rw [endedAt, hnone] at hends
    have hends' : d.journal.outcomes.map Outcome.call = List.range d.journal.called.length := hends
    have hget : (d.journal.outcomes.map Outcome.call).getLast? = some o.call := by
      rw [List.getLast?_map, ho]
      rfl
    rw [hends', List.getLast?_range] at hget
    split at hget
    · cases hget
    · exact (Option.some.inj hget).symm
  have hreq : e.req = o.req := by
    have hasked := hd.numbered.asked o homem
    rw [← hcall, hd.req_of_answered hmem] at hasked
    exact Option.some.inj hasked
  refine ⟨e, hmem, hcall.trans hlast, rfl, (h.latest e he).symm, ?_, ?_⟩
  · show (textOf d.core e.rep).isSome
    rw [h.latest e he]
    exact h.texts e hmem hstr
  · show (⟨d.journal.called.length - 1, e.req, .answered e.rep⟩ : Outcome) ∈ d.journal.outcomes
    rw [← hlast, hreq, ← hrep]
    exact homem

/-! ### Operating drivers -/

/-- The invariant of a driver in normal operation, whose caller looks only at what was just
returned. -/
structure Operating (d : SlsDetDriver) : Prop where
  correlated : d.Correlated
  legible : d.Legible
  running : d.running = true
  working : d.worker ≠ .exited

theorem operating_new (hostName : Text) (id : Int) : (new hostName id).Operating where
  correlated := correlated_new hostName id
  legible := legible_new hostName id
  running := rfl
  working := fun h ↦ (nomatch h)

/-- The worker does not leave its loop while it is to run. -/
theorem worker_ne_exited (h : WorkStep lib d d') (hr : d.running = true) :
    d'.worker ≠ .exited := by
  cases h with
  | test hw =>
    rw [hr]
    exact fun h ↦ (nomatch h)
  | _ => exact fun h ↦ (nomatch h)

/-- **One step of prompt operation keeps the invariant.** -/
theorem Operating.step {l : Label} (h : d.Operating) (hl : d.Prompt l)
    (hs : (machine lib).step d l = some d') : d'.Operating := by
  have hd' := h.correlated.step hl.1 hs
  have hr' := (running_traffic hl.1 hs).trans h.running
  obtain ⟨hd, hleg, hr, hw⟩ := h
  cases l with
  | request m =>
    obtain ⟨hc, rfl⟩ := request_eq_some_iff.1 hs
    refine ⟨hd', ⟨hleg.latest, hleg.texts, fun hnone ↦ ?_, hleg.flushed, hleg.discarded,
      fun i hi hstr ↦ (hleg.inspected i hi hstr).mono (List.Subset.refl _) (List.Subset.refl _)⟩,
      hr', hw⟩
    change inCall (flushLoop _ _) = none at hnone
    rw [inCall_flushLoop] at hnone
    cases hnone
  | wait expired =>
    have hstep := waitStep_of_wait hs
    refine ⟨hd', hleg.wait hd hd' hstep, hr', ?_⟩
    cases hstep <;> exact hw
  | finish =>
    obtain ⟨⟨p, hc⟩, rfl⟩ := finish_eq_some_iff.1 hs
    refine ⟨hd', ⟨hleg.latest, hleg.texts, fun _ ↦ hleg.settled ?_, hleg.flushed, hleg.discarded,
      fun i hi hstr ↦ (hleg.inspected i hi hstr).mono (List.Subset.refl _) (List.Subset.refl _)⟩,
      hr', hw⟩
    rw [hc]
    rfl
  | inspect rep =>
    have hleg' := hleg.inspect hd (hl.2 rep rfl) hs
    obtain ⟨-, rfl⟩ := inspect_eq_some_iff.1 hs
    exact ⟨hd', hleg', hr', hw⟩
  | work =>
    have hstep := workStep_of_work hs
    exact ⟨hd', hleg.work hstep, hr', worker_ne_exited hstep hr⟩
  | _ => exact (nomatch hl.1)

end SlsDetDriver
