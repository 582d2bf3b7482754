import SlsDetModel.Port.Reads
import SlsDetModel.Strings.Numerals

/-!
# Serial numbers and versions

The detector's identifiers are 64-bit integers, but parameters of the port hold no such values: the
driver prints them in hexadecimal, and clients are given the texts. `ids_come_through` says that
nothing is lost on the way: a client whose buffer takes 19 characters reads the number back.
-/

/-- The identifier that a parameter shows. -/
def Param.idMode : Param → Option IdMode
  | .detSerialNumber => some .detectorSerialNumber
  | .detFirmwareVersion => some .detectorFirmwareVersion
  | .detSoftwareVersion => some .detectorSoftwareVersion
  | _ => none

/-- The number that a client reads off such a text. -/
def idOfText (t : Text) : Option Int64 :=
  match t with
  | '0' :: 'x' :: digits =>
    (Numerals.readDigits 16 0 digits).map fun n ↦ (UInt64.ofNat n).toInt64
  | _ => none

/-- **Nothing is lost in print.** -/
theorem idOfText_hexText (v : Int64) : idOfText (Core.hexText v) = some v := by
  show ((Numerals.readDigits 16 0 (Nat.toDigits 16 v.toUInt64.toNat)).map _ : Option Int64) = _
  rw [Numerals.readDigits_toDigits (by decide) (by decide), Option.map_some, UInt64.ofNat_toNat,
    Int64.toInt64_toUInt64]

/-- The text has at most 16 digits. -/
theorem length_hexText_le (v : Int64) : (Core.hexText v).length ≤ 18 := by
  have hdigits : (Nat.toDigits 16 v.toUInt64.toNat).length ≤ 16 :=
    Nat.toDigits_length 16 _ 16 (by decide) v.toUInt64.toNat_lt
  rw [Core.hexText, List.length_cons, List.length_cons]
  omega

namespace SlsDet

variable {lib : ℕ → Library} {cfg : SlsDetConfig} {enums : EnumBuffers} {c : PortCall} {a : ℕ}
  {p : Param} {mode : IdMode} {maxChars : ℕ} {buffer : Text} {k k' : PortSystem}
  {ls ls' : List PortLabel}

/-- Reads of identifiers are dispatched. -/
theorem PortCall.isSome_read_of_idMode (hop : c.op = .readOctet maxChars buffer)
    (hr : c.user.reason = .param p) (hmode : p.idMode = some mode) :
    c.read.isSome ∧ p.query = some (.getId mode detPos) := by
  rcases c with ⟨⟨reason, addr⟩, op⟩
  obtain rfl : reason = .param p := hr
  obtain rfl : op = .readOctet maxChars buffer := hop
  cases p <;> first | (cases hmode; done) | obtain rfl := Option.some.inj hmode
  all_goals exact ⟨rfl, rfl⟩

/-- **Identifiers come through.** Take any run, in which no client writes a status, to a state
between two calls in which an address is connected, and then a read there of the serial number or of
one of the versions, into a buffer of 19 characters or more, in which no wait expires. It can be
carried to its end. When it has ended, it is a success exactly if the error mask is clear after the
query, and then the text it returns is one from which the client reads back the 64-bit number that
the query returned. -/
theorem ids_come_through (hls : ∀ c ∈ Client.calls ls, PortCall.SparesStatus c)
    (hrun : (system lib cfg).run (start cfg enums) ls = some k) (hidle : k.thread = .idle)
    (hconn : k.shared.isConnected a = true) (ha : getAddress (size cfg) c.user = some a)
    (hop : c.op = .readOctet maxChars buffer) (hr : c.user.reason = .param p)
    (hmode : p.idMode = some mode) (hbuffer : 18 < maxChars)
    (hls' : ∀ l ∈ ls', Client.Inside (Move.InTime false) l)
    (hrun' : (system lib cfg).run k (.call c :: ls') = some k') :
    Client.CanEnd (server lib) (perform cfg) DetRequest.addr (Move.InTime false) k' ∧
    (k'.thread = .idle → ∃ d r, k.shared.dets a = some d ∧ k'.results = k.results ++ [(c, r)] ∧
      (r.status = .success ↔ (d.core.call (lib a) (.getId mode detPos)).2.errorMask = 0) ∧
      (r.status = .success → ∃ t, r.value = some (.octet t) ∧ r.nActual = some (t.length + 1) ∧
        idOfText t = some (lib a d.core.calls (.getId mode detPos)).raw)) := by
  obtain ⟨hread, hquery⟩ := PortCall.isSome_read_of_idMode hop hr hmode
  obtain ⟨t, hread⟩ := Option.isSome_iff_exists.1 hread
  obtain ⟨hready, hcons⟩ := consistent_of_idle hls hrun hidle
  obtain ⟨hends, hcan⟩ := call_spec hready (fun _ ↦ hcons.isSome_dets) hls' hrun'
  refine ⟨hcan, fun hidle' ↦ ?_⟩
  obtain ⟨y, hy, hclean⟩ := hcons.clean a hconn
  obtain ⟨r, hres, -, hperf⟩ := hends hidle'
  obtain ⟨p', q, z, hr', hquery', -, -, hoff⟩ := hperf.readsOff ha hread hconn hy hclean
  obtain ⟨⟩ := hr.symm.trans hr'
  obtain ⟨⟩ := hquery.symm.trans hquery'
  obtain ⟨d, hd, rfl⟩ := Option.map_eq_some_iff.1 hy
  rw [hready.core_sync hd hclean.pending] at hoff
  refine ⟨d, r, hd, hres, hoff.success, fun hsuccess ↦ ?_⟩
  obtain ⟨rfl, -⟩ := hoff.ok (hoff.success.1 hsuccess)
  have hlen := length_hexText_le (lib a d.core.calls (.getId mode detPos)).raw
  have htext : c.deliver (LibCall.result (lib a).rounding (.getId mode detPos)
      (lib a d.core.calls (.getId mode detPos))) = _ :=
    PortCall.deliver_of_length_lt hop (hlen.trans_lt hbuffer)
  rw [htext]
  exact ⟨_, rfl, rfl, idOfText_hexText _⟩

/-- The serial number is read at the one address of a small port. -/
theorem ids_come_through_serial : ∃ k k' d r,
    (system (fun _ ↦ SlsDetDriver.healthy) (bench 1)).run (start (bench 1) blank) (online 0) =
      some k ∧
    (system (fun _ ↦ SlsDetDriver.healthy) (bench 1)).run k
      (on .detSerialNumber 0 (.readOctet 40 []) :: (exchange 0 ++ [.resume 0, .resume 0])) =
      some k' ∧
    k'.results = k.results ++ [(⟨⟨.param .detSerialNumber, 0⟩, .readOctet 40 []⟩, r)] ∧
    (r.status = .success ↔ ((SlsDetDriver.core d).call SlsDetDriver.healthy
      (.getId .detectorSerialNumber detPos)).2.errorMask = 0) := by
  have hbefore : ((system (fun _ ↦ SlsDetDriver.healthy) (bench 1)).run (start (bench 1) blank)
      (online 0)).map (fun k ↦ (k.isIdle, k.shared.isConnected 0)) = some (true, true) := by
    decide +kernel
  have hafter : ((system (fun _ ↦ SlsDetDriver.healthy) (bench 1)).run (start (bench 1) blank)
      (online 0 ++ on .detSerialNumber 0 (.readOctet 40 []) ::
        (exchange 0 ++ [.resume 0, .resume 0]))).map
      (fun k ↦ k.isIdle) = some true := by decide +kernel
  obtain ⟨k, k', hrun, hk, hrun', hidle'⟩ :=
    LabelledMachine.exists_run_append _ hbefore hafter
  obtain ⟨hidle, hconn⟩ := Prod.mk.inj hk
  obtain ⟨d, r, -, hres, hstatus, -⟩ :=
    (ids_come_through (by decide) hrun (Client.thread_of_isIdle hidle) hconn rfl rfl rfl rfl
      (by decide) (by simp [exchange, Client.Inside, Move.InTime]) hrun').2
      (Client.thread_of_isIdle hidle')
  exact ⟨k, k', d, r, hrun, hrun', hres, hstatus⟩

end SlsDet
