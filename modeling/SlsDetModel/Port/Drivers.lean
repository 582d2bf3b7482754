import SlsDetModel.Driver.Lifetime
import SlsDetModel.Port.Configure
import SlsDetModel.Port.Termination

/-!
# The drivers of a port

What the port does to a driver is what its own machine can do. `driven_of_run` projects a run of the
port to each of its addresses: the driver there was constructed with the host name and the number of
the address, and has moved since as `SlsDetDriver.machine` says, through requests and their replies
alone. So whatever holds of every run of a driver holds of the drivers of a port.

`memory_keeps_apart` is what follows for the detector library, whose shared memory is addressed by
number: no two drivers of a port ever touch the same.
-/

namespace SlsDet

open Delimited

variable {lib : ℕ → Library} {cfg : SlsDetConfig} {enums : EnumBuffers} {s t : SlsDet} {a b : ℕ}
  {d e : SlsDetDriver} {k : PortSystem} {ls : List PortLabel}

/-- Every driver is at an address that exists, and in a state to which requests and their replies
have led it from its construction there. -/
def Driven (lib : ℕ → Library) (cfg : SlsDetConfig) (s : SlsDet) : Prop :=
  ∀ a d, s.dets a = some d → a < size cfg ∧ ∃ ls : List SlsDetDriver.Label,
    (∀ l ∈ ls, l.IsTraffic = true) ∧ (SlsDetDriver.machine (lib a)).run
      (SlsDetDriver.new (cfg.hostnames.getD a []) (cfg.id + a)) ls = some d

/-- A driver that was just constructed is in the first of these states. -/
theorem Driven.grows (h : Driven lib cfg s) (hst : Grows cfg s t) : Driven lib cfg t := by
  intro a d hd
  rcases hst a with heq | ⟨-, hlt, hnew⟩
  · exact h a d (heq.symm.trans hd)
  · obtain rfl := Option.some.inj (hnew.symm.trans hd)
    exact ⟨hlt, [], fun l hl ↦ (List.not_mem_nil hl).elim, rfl⟩

/-- **A step of one driver** leads it to the next. -/
theorem Driven.stepDet (h : Driven lib cfg s) {l : SlsDetDriver.Label} (hl : l.IsTraffic = true)
    (hs : stepDet lib s a l = some t) : Driven lib cfg t := by
  obtain ⟨d, d', hd, hstep, rfl⟩ := stepDet_eq_some_iff.1 hs
  intro b e he
  rcases dets_setDet he with ⟨rfl, rfl⟩ | ⟨-, he⟩
  · obtain ⟨hlt, ls, hls, hrun⟩ := h b d hd
    refine ⟨hlt, ls ++ [l], fun l' hl' ↦ ?_, ?_⟩
    · rcases List.mem_append.1 hl' with hl' | hl'
      · exact hls l' hl'
      · rwa [List.mem_singleton.1 hl']
    · exact (SlsDetDriver.machine (lib b)).run_append_eq_some.2
        ⟨d, hrun, (SlsDetDriver.machine (lib b)).run_cons_eq_some.2 ⟨e, hstep, rfl⟩⟩
  · exact h b e he

/-- **Every driver of a run of the port is in a run of its own.** -/
theorem driven_of_run (hrun : (system lib cfg).run (start cfg enums) ls = some k) :
    Driven lib cfg k.shared := by
  have hstart : Client.Keeping (fun i : DetRequest ↦ i.addr < size cfg) (Grows cfg)
      (Driven lib cfg) (start cfg enums) := ⟨fun _ _ h ↦ (nomatch h), fun _ _ _ h ↦ (nomatch h)⟩
  refine (hstart.run (fun c s ↦ (spends_perform c s).frames) (fun h hst ↦ h.grows hst) ?_ ?_ ?_
    hrun).1
  · rintro i s t h - hs
    cases i with
    | request a m => exact h.stepDet rfl hs
    | inspect a rep =>
      obtain ⟨-, -, rfl⟩ := Option.map_eq_some_iff.1 hs
      exact h
  · rintro e s t h hs
    cases e with
    | wait a expired => exact h.stepDet rfl hs
    | work a => exact h.stepDet rfl hs
  · rintro i s r t h hs
    cases i with
    | request a m =>
      obtain ⟨-, -, -, -, -, hfinish⟩ := leave_request_eq_some_iff.1 hs
      exact h.stepDet rfl hfinish
    | inspect a rep =>
      obtain ⟨-, -, -, hlook⟩ := leave_inspect_eq_some_iff.1 hs
      exact h.stepDet rfl hlook

/-- So it keeps to the protocol of the library, with its own number and host name. -/
theorem Driven.follows (h : Driven lib cfg s) (hd : s.dets a = some d) :
    d.core.Follows false (lib a) (cfg.id + a) (cfg.hostnames.getD a []) := by
  obtain ⟨-, ls, -, hrun⟩ := h a d hd
  exact SlsDetDriver.follows_of_run hrun

/-- **Detectors keep apart.** Of a port that was configured with a list of host names and a number,
in every run and at every moment of it, the driver at `a` serves the `a`-th host of the list; its
calls of the library keep to the protocol, with the shared memory number `a` from that number on;
and no memory is claimed or freed by the drivers of two addresses. -/
theorem memory_keeps_apart {asyn : Asyn} {hostName : Text} {id : Int}
    (hcfg : slsDetConfigure asyn hostName id = some cfg)
    (hrun : (system lib cfg).run (start cfg enums) ls = some k)
    (hd : k.shared.dets a = some d) :
    (∃ host st, (segments '+' hostName)[a]? = some host ∧
      Lives false (lib a) (id + a) host d.core.calls st ∧ st.Fits false d.core.det.isSome) ∧
    ∀ b e, k.shared.dets b = some e → a ≠ b → ∀ i,
      .new i ∈ d.core.calls ∨ .freeSharedMemory i ∈ d.core.calls →
      .new i ∉ e.core.calls ∧ .freeSharedMemory i ∉ e.core.calls := by
  have hdriven := driven_of_run hrun
  obtain rfl : { hostnames := segments '+' hostName, id := id, asyn := asyn } = cfg := by
    rw [slsDetConfigure, splitHostnames_eq_segments] at hcfg
    exact Option.some.inj hcfg
  have hown : ∀ {b e i}, k.shared.dets b = some e →
      .new i ∈ e.core.calls ∨ .freeSharedMemory i ∈ e.core.calls → i = id + b := by
    intro b e i he hi
    obtain ⟨-, -, st, hlives, -⟩ := hdriven.follows he
    rcases hi with hi | hi
    · exact (hlives.own _ hi).1 i (Or.inl rfl)
    · exact (hlives.own _ hi).1 i (Or.inr rfl)
  constructor
  · obtain ⟨-, -, st, hlives, hst⟩ := hdriven.follows hd
    obtain ⟨hlt, -⟩ := hdriven a d hd
    refine ⟨_, st, List.getElem?_eq_getElem hlt, ?_, hst⟩
    have hname : (segments '+' hostName).getD a [] = (segments '+' hostName)[a] := by
      rw [List.getD_eq_getElem?_getD, List.getElem?_eq_getElem hlt, Option.getD_some]
    rw [← hname]
    exact hlives
  · intro b e he hne i hi
    have hia := hown hd hi
    have hother : ¬(.new i ∈ e.core.calls ∨ .freeSharedMemory i ∈ e.core.calls) := by
      intro hi'
      have hib := hown he hi'
      omega
    exact ⟨fun h ↦ hother (Or.inl h), fun h ↦ hother (Or.inr h)⟩

/-- Two hosts, both connected: the first has claimed the memory numbered 7, the second has not. -/
theorem memory_keeps_apart_both : ∃ k d e, (system (fun _ ↦ SlsDetDriver.healthy)
      ⟨[['a'], ['b']], 7, .plain⟩).run (start ⟨[['a'], ['b']], 7, .plain⟩ blank)
      (online 0 ++ online 1) = some k ∧
    k.shared.dets 0 = some d ∧ k.shared.dets 1 = some e ∧ .new 7 ∈ d.core.calls ∧
    .new 7 ∉ e.core.calls := by
  have hcfg : slsDetConfigure .plain ['a', '+', 'b'] 7 = some ⟨[['a'], ['b']], 7, .plain⟩ := by
    have hhosts : segments '+' ['a', '+', 'b'] = [['a'], ['b']] := by decide
    rw [slsDetConfigure, splitHostnames_eq_segments, hhosts]
    rfl
  have hmap : ((system (fun _ ↦ SlsDetDriver.healthy) ⟨[['a'], ['b']], 7, .plain⟩).run
      (start ⟨[['a'], ['b']], 7, .plain⟩ blank) (online 0 ++ online 1)).map (fun k ↦
        ((k.shared.dets 0).map fun d ↦ decide (.new 7 ∈ d.core.calls),
          (k.shared.dets 1).isSome)) = some (some true, true) := by
    decide +kernel
  obtain ⟨k, hrun, hk⟩ := Option.map_eq_some_iff.1 hmap
  obtain ⟨hfirst, hsecond⟩ := Prod.mk.inj hk
  obtain ⟨d, hd, hnew⟩ := Option.map_eq_some_iff.1 hfirst
  obtain ⟨e, he⟩ := Option.isSome_iff_exists.1 hsecond
  have hclaimed := of_decide_eq_true hnew
  exact ⟨k, d, e, hrun, hd, he, hclaimed,
    ((memory_keeps_apart hcfg hrun hd).2 1 e he (by decide) 7 (Or.inl hclaimed)).1⟩

end SlsDet
