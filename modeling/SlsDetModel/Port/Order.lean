import SlsDetModel.Driver.Order
import SlsDetModel.Port.Drivers
import SlsDetModel.Port.Serial

/-!
# Commands, in order and at most once

The detector sees commands: the library calls that its driver makes for requests. What the clients
see are calls, and some of them time out; the driver then has the request still, and may carry it
out while the clients go on. `commands_in_order` says what is certain all the same. The commands
that a detector is given are those of the calls made at its address, in the order of the calls,
where some may be missing; none is given that was not asked for, none twice, and none after a later
one.

What is missing was never sent. `exactly_once` says that the workers, left alone between two calls,
soon have nothing left to do, and that each of them then has carried out whatever was sent to it,
once.
-/

namespace SlsDet

variable {lib : ℕ → Library} {late : Bool} {cfg : SlsDetConfig} {enums : EnumBuffers}
  {c : PortCall} {x x' : SyncSlsDet} {y z : SlsDetDriver.Sync} {r : Result} {a b : ℕ}
  {m : SlsDetMessage} {d : SlsDetDriver} {k : PortSystem} {ls : List PortLabel}

/-- The command of a call: the question for the detector, the query or the setter. -/
def PortCall.command (c : PortCall) (fl : Rounding) : Option LibCall :=
  match c.op with
  | .connect _ => some .checkOnline
  | .disconnect => none
  | .writeInt32 v => (c.setter fl (.int32 v)).map Prod.snd
  | .writeFloat64 v => (c.setter fl (.float64 v)).map Prod.snd
  | _ => c.query.map Prod.snd

/-- The command of a call at the address `a` of `n`. -/
def PortCall.commandAt (fl : Rounding) (n a : ℕ) (c : PortCall) : Option LibCall :=
  if getAddress n c.user = some a then c.command fl else none

/-- A write has the command of its message. -/
theorem PortCall.command_of_write (h : c.write = some m) (lib : Library) :
    c.command lib.rounding = m.ownCall lib.rounding := by
  obtain ⟨p, v, q, -, hv, hsetter, hown, -⟩ := PortCall.setter_of_write h lib
  rw [hown, PortCall.command]
  rcases c with ⟨u, op⟩
  cases op <;> first | (cases hv; done) | obtain rfl := Option.some.inj hv
  all_goals exact congrArg (Option.map Prod.snd) hsetter

/-- So has a read. -/
theorem PortCall.command_of_read {t : MessageType} (h : c.read = some t) (lib : Library) :
    c.command lib.rounding = (SlsDetMessage.ofType t).ownCall lib.rounding := by
  obtain ⟨p, q, hq, -, hcall, -⟩ := PortCall.query_of_read h
  rw [(SlsDetDriver.ownCall_of_readCall hcall).1, PortCall.command]
  rcases c with ⟨u, op⟩
  cases op <;> first | exact congrArg (Option.map Prod.snd) hq | cases h

/-- The commands of the messages that the driver of an address was called with. -/
def asked (fl : Rounding) (x : SyncSlsDet) (a : ℕ) : List LibCall :=
  (((x.dets a).map SlsDetDriver.Sync.called).getD []).filterMap (SlsDetMessage.ownCall fl)

theorem asked_of_dets (fl : Rounding) (h : x.dets a = some y) :
    asked fl x a = y.called.filterMap (SlsDetMessage.ownCall fl) := by
  rw [asked, h]
  rfl

/-- A driver that was just created has not been asked. -/
theorem asked_construct (fl : Rounding) (cfg : SlsDetConfig) (x : SyncSlsDet) (a b : ℕ) :
    asked fl (x.construct cfg a) b = asked fl x b := by
  rcases hdet : x.dets a with - | y
  · rw [asked, asked, SyncSlsDet.dets_construct_of_none hdet]
    split
    case isTrue hb => rw [hb, hdet]; rfl
    case isFalse => rfl
  · rw [SyncSlsDet.construct_of_isSome (by rw [hdet]; rfl)]

/-- The driver of an address was called for the command of the call. -/
theorem asked_of_requested {rep : SlsDetMessage} (ha : getAddress (size cfg) c.user = some a)
    (hown : c.command (lib a).rounding = m.ownCall (lib a).rounding) (hdet : x.dets a = some y)
    (hreq : SlsDetDriver.Requested (lib a) late y m rep z) (hdets : x'.dets = (x.setDet a z).dets)
    (b : ℕ) : asked (lib b).rounding x' b =
      asked (lib b).rounding x b ++ (c.commandAt (lib b).rounding (size cfg) b).toList := by
  by_cases hb : b = a
  · subst hb
    have hafter : x'.dets b = some z := by rw [hdets, x.dets_setDet_same]
    rw [asked_of_dets _ hafter, asked_of_dets _ hdet, hreq.called, List.filterMap_append,
      PortCall.commandAt, if_pos ha, hown]
    rcases hcall : m.ownCall (lib b).rounding with - | q <;> simp [hcall]
  · have hne : getAddress (size cfg) c.user ≠ some b := fun h ↦
      hb (Option.some.inj (h.symm.trans ha))
    rw [asked, asked, hdets, x.dets_setDet_of_ne hb, PortCall.commandAt, if_neg hne]
    exact (List.append_nil _).symm

/-- **A call leaves the drivers alone**, or asks the one of its address for the command of the
call. -/
theorem Performed.requests (h : Performed lib late cfg c x r x') : x'.dets = x.dets ∨
    ∃ a m rep y z, getAddress (size cfg) c.user = some a ∧
      c.command (lib a).rounding = m.ownCall (lib a).rounding ∧
      (x.construct cfg a).dets a = some y ∧ SlsDetDriver.Requested (lib a) late y m rep z ∧
      x'.dets = ((x.construct cfg a).setDet a z).dets := by
  cases h with
  | noAddress | disabled | unmade | already | offline | readBase | unsent | writeBase
  | disconnected => exact Or.inl rfl
  | enabled => exact Or.inl (by split <;> rfl)
  | @checked a made y rep z ha hop hen hmade hdet hconn hreq =>
    refine Or.inr ⟨a, _, rep, y, z, ha, ?_, hdet, hreq, by split <;> rfl⟩
    rw [PortCall.command, hop]
    rfl
  | @read a t y rep z v status x' ha hread hconn hdet hreq hv htake =>
    obtain ⟨p, hr, hp⟩ := PortCall.reason_of_read hread
    have hmade : x.construct cfg a = x := SyncSlsDet.construct_of_isSome (by rw [hdet]; rfl)
    refine Or.inr ⟨a, _, rep, y, z, ha, PortCall.command_of_read hread (lib a), ?_, hreq, ?_⟩
    · rw [hmade, hdet]
    · rw [hmade]
      rcases SyncSlsDet.takeRead_cases hr hp htake with ⟨-, hdets, -⟩ | ⟨-, rfl⟩
      · exact hdets
      · rfl
  | @write a m p v y rep z status x' ha hwrite hr hp hv hconn hdet hreq htake =>
    have hmade : x.construct cfg a = x := SyncSlsDet.construct_of_isSome (by rw [hdet]; rfl)
    refine Or.inr ⟨a, m, rep, y, z, ha, PortCall.command_of_write hwrite (lib a), ?_, hreq, ?_⟩
    · rw [hmade, hdet]
    · rw [hmade]
      rcases SyncSlsDet.takeWrite_cases htake with ⟨-, rfl⟩ | ⟨-, rfl⟩ <;> rfl

/-- **A call asks for its own command**, at its own address, or for none. -/
theorem Performed.asked (h : Performed lib late cfg c x r x') (b : ℕ) :
    (SlsDet.asked (lib b).rounding x' b).Sublist (SlsDet.asked (lib b).rounding x b ++
      (c.commandAt (lib b).rounding (size cfg) b).toList) := by
  rcases h.requests with hdets | ⟨a, m, rep, y, z, ha, hown, hdet, hreq, hdets⟩
  · rw [SlsDet.asked, hdets]
    exact List.sublist_append_left _ _
  · rw [← asked_construct _ cfg x a b, asked_of_requested ha hown hdet hreq hdets]

/-- **Commands are given in order, and at most once.** Take any run of the port, with whatever
calls, however they interleave with the workers of the drivers, and whichever waits expire. Between
two calls, the commands that the detector of an address has been given since the beginning are
commands of the calls made there, in the order of the calls, and one for each call at most. -/
theorem commands_in_order (hrun : (system lib cfg).run (start cfg enums) ls = some k)
    (hidle : k.thread = .idle) (hd : k.shared.dets a = some d) :
    d.core.commands.Sublist
      ((Client.calls ls).filterMap (PortCall.commandAt (lib a).rounding (size cfg) a)) := by
  obtain ⟨x, hh, hend⟩ := history_of_run (C := fun _ ↦ True) (fun _ _ ↦ trivial)
    (fun e _ ↦ inTime_true e) hrun
  obtain ⟨-, rfl⟩ := hend hidle
  obtain ⟨-, ls', hls', hrun'⟩ := driven_of_run hrun a d hd
  have hdriver := SlsDetDriver.commands_sublist_called hls' hrun'
  have hstart : (SlsDet.asked (lib a).rounding (sync lib (new cfg enums)) a).Sublist [] := .refl _
  have hasked : (SlsDet.asked (lib a).rounding (sync lib k.shared) a).Sublist
      ((k.results.map Prod.fst).filterMap
        (PortCall.commandAt (lib a).rounding (size cfg) a)) := by
    refine hh.tracks (R := fun g x ↦ (SlsDet.asked (lib a).rounding x a).Sublist g)
      (K := fun h ↦ (h.map Prod.fst).filterMap
        (PortCall.commandAt (lib a).rounding (size cfg) a))
      (fun g c _ ↦ g ++ (c.commandAt (lib a).rounding (size cfg) a).toList) (fun h c r ↦ ?_)
      hstart ?_
    · rw [List.map_append, List.filterMap_append]
      rcases hc : c.commandAt (lib a).rounding (size cfg) a with - | q <;> simp [hc]
    · rintro g c x r x' hpast ⟨-, hperf⟩
      exact (hperf.asked a).trans (hpast.append (.refl _))
  rw [asked_of_dets _ (sync_dets hd)] at hasked
  have htaken : k.results.map Prod.fst ++ k.current.toList = Client.calls ls :=
    Client.taken_run hrun
  rw [← htaken]
  exact hdriver.trans (hasked.trans ((List.sublist_append_left _ _).filterMap _))

/-- The run status is read at the one address of a small port, once it is connected. -/
theorem commands_in_order_runStatus : ∃ k d,
    (system (fun _ ↦ SlsDetDriver.healthy) (bench 1)).run (start (bench 1) blank)
      (online 0 ++ on .runStatus 0 .readInt32 :: (exchange 0 ++ [.resume 0])) = some k ∧
    k.shared.dets 0 = some d ∧
    (SlsDetDriver.core d).commands.Sublist [.checkOnline, .getRunStatus] := by
  have hmap : ((system (fun _ ↦ SlsDetDriver.healthy) (bench 1)).run (start (bench 1) blank)
      (online 0 ++ on .runStatus 0 .readInt32 :: (exchange 0 ++ [.resume 0]))).map
      (fun k ↦ (k.isIdle, (k.shared.dets 0).isSome)) = some (true, true) := by
    decide +kernel
  obtain ⟨k, hrun, hk⟩ := Option.map_eq_some_iff.1 hmap
  obtain ⟨hidle, hdet⟩ := Prod.mk.inj hk
  obtain ⟨d, hd⟩ := Option.isSome_iff_exists.1 hdet
  exact ⟨k, d, hrun, hd, commands_in_order hrun (Client.thread_of_isIdle hidle) hd⟩

/-- **What was sent is carried out exactly once.** Take any run of the port to a state between two
calls, and let the workers go on from there. They make no more than `7 * n` moves, for `n`
addresses, and no call returns anything meanwhile. When none of them can go on, every request that a
call made has its outcome; and those carried out are the ones that had been sent, each of them once
and in their order, whether the call waited for the answer or gave it up. -/
theorem exactly_once {k' : PortSystem} {ls' : List PortLabel}
    (hrun : (system lib cfg).run (start cfg enums) ls = some k) (hidle : k.thread = .idle)
    (hls' : ∀ l ∈ ls', Client.Inside (Move.InTime true) l)
    (hrun' : (system lib cfg).run k ls' = some k') :
    ls'.length ≤ 7 * size cfg ∧ k'.results = k.results ∧
      ((∀ a, (system lib cfg).step k' (.env (.work a)) = none) → ∀ a d,
        k'.shared.dets a = some d →
        d.journal.outcomes.map Outcome.req = d.journal.called ∧
          d.journal.answered.map Exchange.request =
            (d.journal.outcomes.filter Outcome.wasSent).map Outcome.request) := by
  have hready : ∀ {ls k}, (system lib cfg).run (start cfg enums) ls = some k → k.thread = .idle →
      k.shared.Ready := by
    intro ls k hrun hidle
    have hholds := (runs_of_run hrun).holds
    rwa [Client.Holds, hidle] at hholds
  obtain ⟨hidle', hres⟩ := Client.idle_run hidle hls' hrun'
  have hwithin : Client.Within (fun i : DetRequest ↦ i.addr < size cfg) (Grows cfg)
      (InRange (size cfg)) (left (size cfg)) 9 (7 * size cfg) k := by
    refine ⟨inRange_of_run hrun, ?_⟩
    rw [hidle, Nat.mul_comm]
    exact left_le (hready hrun hidle) (size cfg)
  refine ⟨hwithin.length_le (meter lib cfg) hls' hrun', hres, fun hstuck a d hd ↦ ?_⟩
  have hall : (system lib cfg).run (start cfg enums) (ls ++ ls') = some k' :=
    (system lib cfg).run_append_eq_some.2 ⟨k, hrun, hrun'⟩
  obtain ⟨-, ls₀, hls₀, hrun₀⟩ := driven_of_run hall a d hd
  have hready' := hready hall hidle'
  refine SlsDetDriver.carried_out hls₀ hrun₀ (hready'.operating a d hd) (hready'.idle a d hd) ?_
  -- the worker of this address is one of those that cannot go on
  rcases hwork : d.work (lib a) with - | d'
  · rfl
  · have hstep : (system lib cfg).step k' (.env (.work a)) =
        some { k' with shared := k'.shared.setDet a d' } :=
      Client.step_env_eq_some_iff.2 ⟨_, stepDet_eq_some_iff.2 ⟨d, d', hd, hwork, rfl⟩, rfl⟩
    cases (hstuck a).symm.trans hstep

/-- A read of the run status is given up; after six moves of the worker it has been carried out all
the same. -/
theorem exactly_once_late : ∃ k k' d,
    (system (fun _ ↦ SlsDetDriver.healthy) (bench 1)).run (start (bench 1) blank)
      (online 0 ++ on .runStatus 0 .readInt32 ::
        [.env (.wait 0 false), .env (.wait 0 true), .resume 0, .resume 0]) = some k ∧
    (system (fun _ ↦ SlsDetDriver.healthy) (bench 1)).run k (List.replicate 6 (.env (.work 0))) =
      some k' ∧
    k'.shared.dets 0 = some d ∧ d.journal.answered.map Exchange.request =
      (d.journal.outcomes.filter Outcome.wasSent).map Outcome.request := by
  have hbefore : ((system (fun _ ↦ SlsDetDriver.healthy) (bench 1)).run (start (bench 1) blank)
      (online 0 ++ on .runStatus 0 .readInt32 ::
        [.env (.wait 0 false), .env (.wait 0 true), .resume 0, .resume 0])).map
      (fun k ↦ k.isIdle) = some true := by decide +kernel
  have hafter : ((system (fun _ ↦ SlsDetDriver.healthy) (bench 1)).run (start (bench 1) blank)
      (online 0 ++ on .runStatus 0 .readInt32 ::
        [.env (.wait 0 false), .env (.wait 0 true), .resume 0, .resume 0] ++
        List.replicate 6 (.env (.work 0)))).map
      (fun k ↦ ((k.shared.dets 0).isSome, ((system (fun _ ↦ SlsDetDriver.healthy) (bench 1)).step k
        (.env (.work 0))).isNone)) = some (true, true) := by decide +kernel
  obtain ⟨k, k', hrun, hidle, hrun', hk⟩ := LabelledMachine.exists_run_append _ hbefore hafter
  obtain ⟨hdet, hstuck⟩ := Prod.mk.inj hk
  obtain ⟨d, hd⟩ := Option.isSome_iff_exists.1 hdet
  have hall := (system _ (bench 1)).run_append_eq_some.2 ⟨k, hrun, hrun'⟩
  refine ⟨k, k', d, hrun, hrun', hd, ((exactly_once hrun (Client.thread_of_isIdle hidle)
    (by simp [Client.Inside, Move.InTime]) hrun').2.2 (fun a ↦ ?_) 0 d hd).2⟩
  rcases Nat.eq_zero_or_pos a with rfl | hpos
  · exact Option.isNone_iff_eq_none.1 hstuck
  · rcases hstep : (system (fun _ ↦ SlsDetDriver.healthy) (bench 1)).step k' (.env (.work a))
      with - | u
    · rfl
    · obtain ⟨s, henv, -⟩ := Client.step_env_eq_some_iff.1 hstep
      have hmove : stepDet (fun _ ↦ SlsDetDriver.healthy) k'.shared a .work = some s := henv
      obtain ⟨e, -, he, -⟩ := stepDet_eq_some_iff.1 hmove
      cases (inRange_of_run hall a hpos).symm.trans he

end SlsDet
