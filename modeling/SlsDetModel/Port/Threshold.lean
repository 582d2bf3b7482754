import SlsDetModel.Driver.Commands
import SlsDetModel.Port.Writes

/-!
# The temperature threshold

Temperatures are floating point numbers of degrees, the library's are whole thousandths. On the way
to the library `thresholdTemperature` multiplies by a thousand and converts to an `int`, and the
conversion cuts off. A decimal of three digits is seldom a floating point number, and where the
nearest one is below it, so is the product below the whole thousandth, which is then missed. That is
how it is if the product is exact. In doubles it is rounded, and mostly this makes it whole again;
but not always.

* `thresholdOf_eq_iff` — without rounding, the command is the nearest thousandth exactly where the
  temperature is not below it.
* `threshold_nearest` — the same for a write to the port, and for what is read back afterwards.
* `threshold_lowered` — 1.001 degrees are set as 1.000, with rounding and without.
-/

/-- Cutting off yields the nearest integer exactly where that is not above. -/
theorem floor_eq_iff_of_near {K : Type*} [Field K] [LinearOrder K] [IsStrictOrderedRing K]
    [FloorRing K] {x : K} {n : ℤ} (h : |x - n| < 1 / 2) : ⌊x⌋ = n ↔ n ≤ x := by
  have hlt : x - n < 1 / 2 := (abs_lt.1 h).2
  have habove : x < n + 1 := by linarith
  rw [Int.floor_eq_iff]
  exact and_iff_left habove

/-- `n` is the nearest thousandth of a degree to the temperature `v`, and it is an `int`. -/
structure NearestMilli (v : ℚ) (n : ℤ) : Prop where
  value : 0 ≤ v
  nonneg : 0 ≤ n
  fits : n < 2 ^ 31
  near : |1000 * v - n| < 1 / 2

/-- The call sets a threshold. -/
def LibCall.SetsThreshold (q : LibCall) : Prop :=
  ∃ value pos, q = .setThresholdTemperature value pos ∧ 0 ≤ value

/-- The library stores the threshold and returns it: neither call raises an error, and the get call
returns what was set last. -/
structure KeepsThreshold (lib : Library) : Prop where
  raised : ∀ calls value, (lib calls (.setThresholdTemperature value detPos)).raised = 0
  ret : ∀ calls value rest, 0 ≤ value → (∀ q ∈ rest, ¬LibCall.SetsThreshold q) →
    (lib (calls ++ .setThresholdTemperature value detPos :: rest)
      (.setThresholdTemperature (-1) detPos)).ret = value

namespace Core

variable {lib : Library} {c : Core} {v : ℚ} {n : ℤ}

/-- **The command is the nearest thousandth exactly where the temperature is not below it**, if the
product is not rounded. -/
theorem thresholdOf_eq_iff (h : NearestMilli v n) :
    thresholdOf .exact v = n ↔ n ≤ 1000 * v := by
  rw [thresholdOf_eq, if_neg (not_lt.2 h.value), Rounding.exact_apply, mul_comm]
  exact floor_eq_iff_of_near h.near

/-- A call on a clear mask that raises nothing leaves it clear. -/
theorem errorMask_call_eq_zero {q : LibCall} (hdet : c.det.isSome) (hmask : c.errorMask = 0)
    (hraised : (lib c.calls q).raised = 0) : (c.call lib q).2.errorMask = 0 := by
  rw [errorMask_call hdet, hmask, hraised]
  rfl

/-- What the library is asked for a write of the threshold. -/
theorem calls_threshold (lib : Library) (v : ℚ) (hdet : c.det.isSome) :
    ∃ rest, (process lib ⟨.writeTempThreshold, .float64 v⟩ c).2.calls =
        c.calls ++ .setThresholdTemperature (thresholdOf lib.rounding v) detPos :: rest ∧
      ∀ q ∈ rest, ¬LibCall.SetsThreshold q := by
  have hown : CallsOwn (some (.setThresholdTemperature (thresholdOf lib.rounding v) detPos)) c
      (process lib ⟨.writeTempThreshold, .float64 v⟩ c) := callsOwn_process hdet
  rcases hown with hcalls | hcalls
  · exact ⟨[], hcalls, fun q hq ↦ (List.not_mem_nil hq).elim⟩
  · refine ⟨[.clearAllErrorMask], hcalls, fun q hq ↦ ?_⟩
    rw [List.mem_singleton.1 hq]
    rintro ⟨value, pos, hset, -⟩
    cases hset

/-- A list starts in one way. -/
theorem commands_iff {calls calls' rest : List LibCall} {value : Int}
    (h : calls' = calls ++ .setThresholdTemperature value detPos :: rest) :
    (∃ rest, calls' = calls ++ .setThresholdTemperature n detPos :: rest) ↔ value = n := by
  constructor
  · rintro ⟨rest', h'⟩
    have hcons := List.append_cancel_left (h.symm.trans h')
    exact (LibCall.setThresholdTemperature.inj (List.cons.inj hcons).1).1
  · rintro rfl
    exact ⟨rest, h⟩

end Core

namespace SlsDet

variable {lib : ℕ → Library} {late : Bool} {cfg : SlsDetConfig} {enums : EnumBuffers}
  {x x' : SyncSlsDet} {y : SlsDetDriver.Sync} {r : Result} {a : ℕ} {addr : Int} {v : ℚ} {n : ℤ}
  {k k' : PortSystem} {ls ls' : List PortLabel}

/-- The write of a threshold. -/
def setThreshold (addr : Int) (v : ℚ) : PortCall :=
  ⟨⟨.param .setTempThreshold, addr⟩, .writeFloat64 v⟩

/-- The read of the threshold. -/
def getThreshold (addr : Int) : PortCall := ⟨⟨.param .getTempThreshold, addr⟩, .readFloat64⟩

/-- **A write of the threshold makes its command**, if no wait expires. -/
theorem Performed.threshold (h : Performed lib false cfg (setThreshold addr v) x r x')
    (ha : getAddress (size cfg) (setThreshold addr v).user = some a)
    (hconn : x.isConnected a = true) (hy : x.dets a = some y) (hclean : y.Clean) :
    ∃ z rest, x'.dets a = some z ∧ z.pending = 0 ∧
      z.core.calls = y.core.calls ++
        .setThresholdTemperature (Core.thresholdOf (lib a).rounding v) detPos :: rest ∧
      (∀ q ∈ rest, ¬LibCall.SetsThreshold q) := by
  obtain ⟨p, w, rep, z, status, -, -, -, hreq, -, htake⟩ := h.reaches ha rfl hconn hy
  obtain ⟨-, hcore, -, hzero⟩ := hreq.answered
  rw [SlsDetDriver.serve_of_isSome hclean.det] at hcore
  obtain ⟨rest, hcalls, hrest⟩ := Core.calls_threshold (lib a) v hclean.det
  refine ⟨z, rest, ?_, hzero, by rw [hcore]; exact hcalls, hrest⟩
  rcases SyncSlsDet.takeWrite_cases htake with ⟨-, rfl⟩ | ⟨-, rfl⟩
  all_goals exact SyncSlsDet.dets_setDet_same _ _ _

/-- On a library that keeps it, the write is a success, and the address stays connected. -/
theorem Performed.threshold_kept (h : Performed lib false cfg (setThreshold addr v) x r x')
    (ha : getAddress (size cfg) (setThreshold addr v).user = some a)
    (hconn : x.isConnected a = true) (hy : x.dets a = some y) (hclean : y.Clean)
    (hkeeps : KeepsThreshold (lib a)) (hv : 0 ≤ v) :
    r.status = .success ∧ x'.isConnected a = true := by
  obtain ⟨p, w, q, z, hp, hw, hq, -, -, hoff⟩ := h.writesOff ha rfl hconn hy hclean
  obtain ⟨⟩ := hp
  obtain ⟨⟩ := hw
  obtain ⟨⟩ := hq
  have hmask := Core.errorMask_call_eq_zero hclean.det hclean.errorMask
    (hkeeps.raised y.core.calls (if v < 0 then -1 else ⌊(lib a).rounding (v * 1000)⌋))
  refine ⟨hoff.success.2 ⟨not_lt.2 hv, hmask, fun hverified ↦ ?_⟩,
    beq_iff_eq.2 (hoff.connected.2 fun hne ↦ (hne hmask).elim)⟩
  cases hverified

/-- **A read of the threshold returns what was set last**, on a library that keeps it. -/
theorem Performed.threshold_read (h : Performed lib false cfg (getThreshold addr) x r x')
    (ha : getAddress (size cfg) (getThreshold addr).user = some a)
    (hconn : x.isConnected a = true) (hy : x.dets a = some y) (hclean : y.Clean)
    (hkeeps : KeepsThreshold (lib a)) {calls rest : List LibCall} {value : Int}
    (hcalls : y.core.calls = calls ++ .setThresholdTemperature value detPos :: rest)
    (hpos : 0 ≤ value) (hrest : ∀ q ∈ rest, ¬LibCall.SetsThreshold q) :
    r = ⟨.success, some (.float64 ((lib a).rounding (value / 1000))), none, false⟩ := by
  obtain ⟨p, q, z, hp, hq, -, -, hoff⟩ := h.readsOff ha rfl hconn hy hclean
  obtain ⟨⟩ := hp
  obtain ⟨⟩ := hq
  have hmask := Core.errorMask_call_eq_zero hclean.det hclean.errorMask
    (hkeeps.raised y.core.calls (-1))
  have hret : (lib a y.core.calls (.setThresholdTemperature (-1) detPos)).ret = value := by
    rw [hcalls]
    exact hkeeps.ret calls value rest hpos hrest
  rw [(hoff.ok hmask).1, ← hret]
  rfl

/-- **The threshold is set to the nearest thousandth exactly where the temperature is not below
it**, if the scaling is exact. Take any run, in which no client writes a status, to a state between
two calls in which an address is connected, and then a write there of a temperature `v`, in which no
wait expires. Let `n` be the nearest thousandth to `v`. The handler of the message that is sent asks
the library, whatever it is and whatever it was asked before, to set the threshold to `n` exactly if
`n` is not above `v`; and so it did when the write has ended. On a library that keeps the threshold
the address stays connected, and every later read, until the threshold is set again, returns `n`
thousandths exactly in the same case. -/
theorem threshold_nearest (hls : ∀ c ∈ Client.calls ls, PortCall.SparesStatus c)
    (hrun : (system lib cfg).run (start cfg enums) ls = some k) (hidle : k.thread = .idle)
    (hconn : k.shared.isConnected a = true)
    (ha : getAddress (size cfg) (setThreshold addr v).user = some a)
    (hls' : ∀ l ∈ ls', Client.Inside (Move.InTime false) l)
    (hrun' : (system lib cfg).run k (.call (setThreshold addr v) :: ls') = some k')
    (hidle' : k'.thread = .idle) (hexact : (lib a).rounding = .exact) (hn : NearestMilli v n) :
    (∃ m, (setThreshold addr v).write = some m ∧ ∀ (lib : Library) (core : Core),
      lib.rounding = .exact → core.det.isSome → ((∃ rest, (core.process lib m).2.calls =
        core.calls ++ .setThresholdTemperature n detPos :: rest) ↔ n ≤ 1000 * v)) ∧
    ∃ d d', k.shared.dets a = some d ∧ k'.shared.dets a = some d' ∧
      ((∃ rest, d'.core.calls = d.core.calls ++ .setThresholdTemperature n detPos :: rest) ↔
        n ≤ 1000 * v) ∧
      (KeepsThreshold (lib a) → k'.shared.isConnected a = true ∧
        ∀ ls₁ k₁ d₁ rest ls₂ k₂, (∀ c ∈ Client.calls ls₁, PortCall.SparesStatus c) →
          (system lib cfg).run k' ls₁ = some k₁ → k₁.thread = .idle →
          k₁.shared.isConnected a = true → k₁.shared.dets a = some d₁ →
          d₁.core.calls = d'.core.calls ++ rest → (∀ q ∈ rest, ¬LibCall.SetsThreshold q) →
          (∀ l ∈ ls₂, Client.Inside (Move.InTime false) l) →
          (system lib cfg).run k₁ (.call (getThreshold addr) :: ls₂) = some k₂ →
          k₂.thread = .idle → ∃ r, k₂.results = k₁.results ++ [(getThreshold addr, r)] ∧
            (r = ⟨.success, some (.float64 (n / 1000)), none, false⟩ ↔ n ≤ 1000 * v)) := by
  refine ⟨⟨_, rfl, fun lib core hexact hdet ↦ ?_⟩, ?_⟩
  · obtain ⟨rest, hcalls, -⟩ := Core.calls_threshold lib v hdet
    rw [hexact] at hcalls
    exact (Core.commands_iff hcalls).trans (Core.thresholdOf_eq_iff hn)
  obtain ⟨hready, hcons⟩ := consistent_of_idle hls hrun hidle
  obtain ⟨y, hy, hclean⟩ := hcons.clean a hconn
  obtain ⟨r, -, hready', hperf⟩ :=
    (call_spec hready (fun _ ↦ hcons.isSome_dets) hls' hrun').1 hidle'
  obtain ⟨z, rest₀, hz, hzero, hcalls, hrest₀⟩ := hperf.threshold ha hconn hy hclean
  obtain ⟨d, hd, rfl⟩ := Option.map_eq_some_iff.1 hy
  obtain ⟨d', hd', rfl⟩ := Option.map_eq_some_iff.1 hz
  rw [hready.core_sync hd hclean.pending, hready'.core_sync hd' hzero, hexact] at hcalls
  refine ⟨d, d', hd, hd', (Core.commands_iff hcalls).trans (Core.thresholdOf_eq_iff hn),
    fun hkeeps ↦ ⟨(hperf.threshold_kept ha hconn hy hclean hkeeps hn.value).2, ?_⟩⟩
  intro ls₁ k₁ d₁ rest ls₂ k₂ hls₁ hrun₁ hidle₁ hconn₁ hd₁ hcalls₁ hrest hls₂ hrun₂ hidle₂
  -- the write and the calls after it keep the address consistent
  have hcons' : (sync lib k'.shared).Consistent :=
    (effect_of_performed hperf).consistent hcons fun hr ↦ (nomatch hr)
  have hholds := (consistent_run hidle' hready' hcons' hls₁ hrun₁).holds
  rw [Client.Holds, hidle₁] at hholds
  obtain ⟨hready₁, hcons₁⟩ := hholds
  obtain ⟨r₁, hres₁, -, hread⟩ :=
    (call_spec hready₁ (fun _ ↦ hcons₁.isSome_dets) hls₂ hrun₂).1 hidle₂
  obtain ⟨y₁, hy₁, hclean₁⟩ := hcons₁.clean a hconn₁
  obtain rfl : y₁ = SlsDetDriver.sync (lib a) d₁ :=
    Option.some.inj (hy₁.symm.trans (sync_dets hd₁))
  have hcore₁ := hready₁.core_sync hd₁ hclean₁.pending
  have hnone : ∀ q ∈ rest₀ ++ rest, ¬LibCall.SetsThreshold q := by
    intro q hq
    rcases List.mem_append.1 hq with hq | hq
    · exact hrest₀ q hq
    · exact hrest q hq
  have hset : (SlsDetDriver.sync (lib a) d₁).core.calls = d.core.calls ++
      .setThresholdTemperature (Core.thresholdOf .exact v) detPos :: (rest₀ ++ rest) := by
    rw [hcore₁, hcalls₁, hcalls, List.append_assoc]
    rfl
  have hpos : 0 ≤ Core.thresholdOf .exact v :=
    not_lt.1 fun hneg ↦ not_lt.2 hn.value ((Core.thresholdOf_neg_iff _ v).1 hneg)
  refine ⟨r₁, hres₁, ?_⟩
  rw [hread.threshold_read ha hconn₁ hy₁ hclean₁ hkeeps hset hpos hnone, hexact,
    Rounding.exact_apply, ← Core.thresholdOf_eq_iff hn]
  constructor
  · intro heq
    have hdiv : (Core.thresholdOf .exact v : ℚ) / 1000 = n / 1000 := by simpa using heq
    exact_mod_cast (div_left_inj' (by norm_num)).1 hdiv
  · rintro rfl
    rfl

/-- The threshold a detector has after a call. -/
def thresholdAfter (last : Int) : LibCall → Int
  | .setThresholdTemperature value _ => if 0 ≤ value then value else last
  | _ => last

/-- A call that sets none leaves it alone. -/
theorem thresholdAfter_of_not_sets {q : LibCall} (h : ¬q.SetsThreshold) (last : Int) :
    thresholdAfter last q = last := by
  cases q with
  | setThresholdTemperature value pos => exact if_neg fun hpos ↦ h ⟨value, pos, rfl, hpos⟩
  | _ => rfl

/-- A detector that keeps its threshold, for a driver that does not round. -/
def keeper : Library where
  answer calls q :=
    match q with
    | .setThresholdTemperature _ _ => { ret := thresholdAfter (calls.foldl thresholdAfter 0) q }
    | _ => { ret := 1 }
  rounding := .exact

theorem keepsThreshold_keeper : KeepsThreshold keeper where
  raised _ _ := rfl
  ret calls value rest hpos hrest := by
    have hset : thresholdAfter (calls.foldl thresholdAfter 0)
        (.setThresholdTemperature value detPos) = value := if_pos hpos
    have hkept : rest.foldl thresholdAfter value = value := by
      induction rest with
      | nil => rfl
      | cons q rest ih =>
        rw [List.foldl_cons, thresholdAfter_of_not_sets (hrest q List.mem_cons_self)]
        exact ih fun q' hq' ↦ hrest q' (List.mem_cons_of_mem q hq')
    show thresholdAfter ((calls ++ .setThresholdTemperature value detPos :: rest).foldl
      thresholdAfter 0) (.setThresholdTemperature (-1) detPos) = value
    rw [thresholdAfter_of_not_sets, List.foldl_append, List.foldl_cons, hset, hkept]
    rintro ⟨m, pos, heq, hm⟩
    obtain ⟨rfl, -⟩ := LibCall.setThresholdTemperature.inj heq
    exact absurd hm (by decide)

/-- Twenty degrees are set and read at the one address of a small port. -/
theorem threshold_nearest_twenty : ∃ k k' k₂ d d' rest r,
    (system (fun _ ↦ keeper) (bench 1)).run (start (bench 1) blank) (online 0) = some k ∧
    (system (fun _ ↦ keeper) (bench 1)).run k
      (.call (setThreshold 0 20) :: (exchange 0 ++ [.resume 0])) = some k' ∧
    (system (fun _ ↦ keeper) (bench 1)).run k'
      (.call (getThreshold 0) :: (exchange 0 ++ [.resume 0])) = some k₂ ∧
    k.shared.dets 0 = some d ∧ k'.shared.dets 0 = some d' ∧
    d'.core.calls = d.core.calls ++ .setThresholdTemperature 20000 detPos :: rest ∧
    k₂.results = k'.results ++ [(getThreshold 0, r)] ∧
    r = ⟨.success, some (.float64 (20000 / 1000)), none, false⟩ := by
  have hbefore : ((system (fun _ ↦ keeper) (bench 1)).run (start (bench 1) blank)
      (online 0)).map (fun k ↦ (k.isIdle, k.shared.isConnected 0)) = some (true, true) := by
    decide +kernel
  have hset : ((system (fun _ ↦ keeper) (bench 1)).run (start (bench 1) blank)
      (online 0 ++ .call (setThreshold 0 20) :: (exchange 0 ++ [.resume 0]))).map
      (fun k ↦ k.isIdle) = some true := by decide +kernel
  have hget : ((system (fun _ ↦ keeper) (bench 1)).run (start (bench 1) blank)
      (online 0 ++ .call (setThreshold 0 20) :: (exchange 0 ++ [.resume 0]) ++
        .call (getThreshold 0) :: (exchange 0 ++ [.resume 0]))).map (fun k ↦ k.isIdle) =
        some true := by decide +kernel
  obtain ⟨k, k', hrun, hk, hrun', hidle'⟩ := LabelledMachine.exists_run_append _ hbefore hset
  obtain ⟨k₁, k₂, hrun₁, -, hrun₂, hidle₂⟩ := LabelledMachine.exists_run_append _ hset hget
  obtain rfl : k' = k₁ := by
    have hboth : (system (fun _ ↦ keeper) (bench 1)).run (start (bench 1) blank) _ = some k' :=
      (LabelledMachine.run_append_eq_some _).2 ⟨k, hrun, hrun'⟩
    exact Option.some.inj (hboth.symm.trans hrun₁)
  obtain ⟨hidle, hconn⟩ := Prod.mk.inj hk
  have hinside : ∀ l ∈ exchange 0 ++ [ClientLabel.resume 0],
      Client.Inside (Move.InTime false) (l : PortLabel) := by
    simp [exchange, Client.Inside, Move.InTime]
  have hnearest : NearestMilli 20 20000 := ⟨by norm_num, by norm_num, by norm_num, by norm_num⟩
  obtain ⟨-, d, d', hd, hd', hiff, hread⟩ := threshold_nearest (by decide) hrun
    (Client.thread_of_isIdle hidle) hconn rfl hinside hrun' (Client.thread_of_isIdle hidle')
    rfl hnearest
  obtain ⟨rest, hcalls⟩ := hiff.2 (by norm_num)
  obtain ⟨hconn', hread⟩ := hread keepsThreshold_keeper
  obtain ⟨r, hres, hr⟩ := hread [] _ d' [] _ k₂ (by decide) rfl (Client.thread_of_isIdle hidle')
    hconn' hd' (List.append_nil _).symm (fun q hq ↦ (List.not_mem_nil hq).elim) hinside hrun₂
    (Client.thread_of_isIdle hidle₂)
  exact ⟨k, k', k₂, d, d', rest, r, hrun, hrun', hrun₂, hd, hd', hcalls, hres,
    hr.2 (by norm_num)⟩

/-- The floating point number nearest to 1.001. -/
def typed : ℚ := 2254051613498933 / 2251799813685248

/-- A write of the threshold at a connected address sets the nearest thousandth. -/
def SetsNearest (fl : Rounding) : Prop :=
  ∀ (lib : ℕ → Library) (cfg : SlsDetConfig) (enums : EnumBuffers) (ls ls' : List PortLabel)
    (k k' : PortSystem) (a : ℕ) (addr : Int) (v : ℚ) (n : ℤ) (d d' : SlsDetDriver),
    (lib a).rounding = fl → (∀ c ∈ Client.calls ls, PortCall.SparesStatus c) →
    (system lib cfg).run (start cfg enums) ls = some k → k.thread = .idle →
    k.shared.isConnected a = true → getAddress (size cfg) (setThreshold addr v).user = some a →
    (∀ l ∈ ls', Client.Inside (Move.InTime false) l) →
    (system lib cfg).run k (.call (setThreshold addr v) :: ls') = some k' → k'.thread = .idle →
    NearestMilli v n → k.shared.dets a = some d → k'.shared.dets a = some d' →
    ∃ rest, d'.core.calls = d.core.calls ++ .setThresholdTemperature n detPos :: rest

/-- A detector that answers every call, for a driver that rounds as it is told. -/
def healthyWith (fl : Rounding) : Library := { SlsDetDriver.healthy with rounding := fl }

/-- The write of `typed` by such a driver, when it is seen to set 1.000 degrees. -/
theorem not_setsNearest {fl : Rounding}
    (hbefore : ((system (fun _ ↦ healthyWith fl) (bench 1)).run (start (bench 1) blank)
      (online 0)).map (fun k ↦ (k.isIdle, k.shared.isConnected 0,
        (k.shared.dets 0).map fun d ↦ d.core.calls.length)) = some (true, true, some 5))
    (hafter : ((system (fun _ ↦ healthyWith fl) (bench 1)).run (start (bench 1) blank)
      (online 0 ++ .call (setThreshold 0 typed) :: (exchange 0 ++ [.resume 0]))).map (fun k ↦
        (k.isIdle, (k.shared.dets 0).map fun d ↦ d.core.calls.drop 5)) =
        some (true, some [.setThresholdTemperature 1000 detPos])) : ¬SetsNearest fl := by
  intro h
  obtain ⟨k, k', hrun, hk, hrun', hk'⟩ := LabelledMachine.exists_run_append _ hbefore hafter
  obtain ⟨hidle, hk⟩ := Prod.mk.inj hk
  obtain ⟨hconn, hd⟩ := Prod.mk.inj hk
  obtain ⟨hidle', hd'⟩ := Prod.mk.inj hk'
  obtain ⟨d, hd, hlength⟩ := Option.map_eq_some_iff.1 hd
  obtain ⟨d', hd', hcalls⟩ := Option.map_eq_some_iff.1 hd'
  have hnearest : NearestMilli typed 1001 := by
    refine ⟨?_, ?_, ?_, ?_⟩ <;> norm_num [typed, abs_lt]
  obtain ⟨rest, hset⟩ := h _ (bench 1) blank (online 0) (exchange 0 ++ [.resume 0]) k k' 0 0 typed
    1001 d d' rfl (by decide) hrun (Client.thread_of_isIdle hidle) hconn rfl
    (by simp [exchange, Client.Inside, Move.InTime]) hrun' (Client.thread_of_isIdle hidle')
    hnearest hd hd'
  rw [hset, ← hlength, List.drop_left] at hcalls
  exact absurd (LibCall.setThresholdTemperature.inj (List.cons.inj hcalls).1).1 (by decide)

/-- **1.001 degrees are set as 1.000**, whether the product is exact or a double. -/
theorem threshold_lowered : ¬SetsNearest .exact ∧ ¬SetsNearest .binary64 :=
  ⟨not_setsNearest (by decide +kernel) (by decide +kernel),
    not_setsNearest (by decide +kernel) (by decide +kernel)⟩

end SlsDet
