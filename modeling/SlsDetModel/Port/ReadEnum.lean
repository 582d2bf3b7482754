import Mathlib.Data.List.Induction
import SlsDetModel.Memory.Heap
import SlsDetModel.Port.History

/-!
# Enumerations on request

Besides the callbacks of `updateEnums` there is `readEnum`, with which a client asks for the
enumeration of a parameter. It looks the parameter up by its name, and copies as many entries as
there are, and as the client has places for. The client's places hold pointers: `readEnum` frees the
string it finds at a place and puts a fresh copy there.

* `readEnum_ledger` — however often a client asks, with whatever parameters, addresses and sizes, no
  string is freed twice and none is lost, and every place holds what the last request put there that
  reached so far.
* `enums_agree` — what was handed out in callbacks, in whole batches of all enumerations, is what
  `readEnum` would have returned; there is a batch for every connection, and none without a
  successful call to connect.
-/

/-- The names that the parameters are created with. -/
def Param.name : Param → Text
  | .init => "SLS_INIT".toList
  | .numDet => "SLS_NUM_DETS".toList
  | .runStatus => "SLS_RUN_STATUS".toList
  | .connStatus => "SLS_CONN_STATUS".toList
  | .hostName => "SLS_HOSTNAME".toList
  | .detType => "SLS_DET_TYPE".toList
  | .detEnabled => "SLS_DET_ENABLED".toList
  | .detSerialNumber => "SLS_SERIAL_NUMBER".toList
  | .detFirmwareVersion => "SLS_FIRMWARE_VERSION".toList
  | .detSoftwareVersion => "SLS_SOFTWARE_VERSION".toList
  | .fpgaTemp => "SLS_FPGA_TEMP".toList
  | .adcTemp => "SLS_ADC_TEMP".toList
  | .getTempThreshold => "SLS_GET_TEMP_THRESHOLD".toList
  | .setTempThreshold => "SLS_SET_TEMP_THRESHOLD".toList
  | .getTempControl => "SLS_GET_TEMP_CONTROL".toList
  | .setTempControl => "SLS_SET_TEMP_CONTROL".toList
  | .getTempEvent => "SLS_GET_TEMP_EVENT".toList
  | .setTempEvent => "SLS_SET_TEMP_EVENT".toList
  | .getChipPower => "SLS_GET_CHIP_POWER".toList
  | .setChipPower => "SLS_SET_CHIP_POWER".toList
  | .getHighVoltage => "SLS_GET_HV".toList
  | .setHighVoltage => "SLS_SET_HV".toList
  | .getClockDivider => "SLS_GET_SPEED".toList
  | .setClockDivider => "SLS_SET_SPEED".toList
  | .getGainMode => "SLS_GET_GAIN".toList
  | .setGainMode => "SLS_SET_GAIN".toList

/-- `getParamName`: the name of the parameter that a reason stands for, null if it stands for
none. -/
def Reason.paramName : Reason → Option Text
  | .param p => some p.name
  | .other _ => none

/-- The search through the enumerations: the first that goes with the name. -/
def searchEnums (name : Text) : List SlsDetEnumSet → Option (List SlsDetEnumInfo)
  | [] => none
  | set :: sets => if set.param.name = name then some set.enums else searchEnums name sets

/-- The arrays of a client, and the heap that its strings are on. -/
structure EnumArrays where
  heap : Heap Text
  strings : ℕ → Option ℕ
  values : ℕ → Int
  severities : ℕ → Severity

namespace EnumArrays

/-- Put an entry at a place: the string there is freed, unless the place is null, and replaced by a
copy of the name. -/
def put (m : EnumArrays) (i : ℕ) (e : SlsDetEnumInfo) : Option EnumArrays :=
  (m.heap.replace m.strings i (cStr e.name)).map fun (heap, strings) ↦
    { heap := heap
      strings := strings
      values := Function.update m.values i e.value
      severities := Function.update m.severities i e.severity }

/-- Put entries, from the place `i` on. -/
def fill : List SlsDetEnumInfo → ℕ → EnumArrays → Option EnumArrays
  | [], _, m => some m
  | e :: es, i, m => (m.put i e).bind (fill es (i + 1))

/-- The entry at a place, if there is a string. -/
def entry (m : EnumArrays) (i : ℕ) : Option SlsDetEnumInfo :=
  (m.heap.deref m.strings i).map fun name ↦ ⟨name, m.values i, m.severities i⟩

/-- The strings on the heap are those of the client's places, each of one place. -/
def Owned (m : EnumArrays) : Prop := Heap.Owns m.strings m.heap

end EnumArrays

/-- What `readEnum` returns, and what it leaves in `*nIn`. -/
structure EnumResult where
  status : AsynStatus
  nIn : Option ℕ
  deriving DecidableEq

/-- `readEnum`, for a port with `n` addresses and a client with `nElements` places. -/
def readEnum (n : ℕ) (u : AsynUser) (nElements : ℕ) (m : EnumArrays) :
    Option (EnumResult × EnumArrays) :=
  match getAddress n u with
  | none => some (⟨.error, none⟩, m)
  | some _ =>
    match u.reason.paramName with
    | none => some (⟨.error, some 0⟩, m)
    | some name =>
      match searchEnums name slsDetEnums with
      | some matched => (m.fill (matched.take nElements) 0).map fun m' ↦
          (⟨.success, some (matched.take nElements).length⟩, m')
      | none => some (⟨.error, some 0⟩, m)

/-- A client that asks for enumerations, again and again into the same arrays. -/
def enumReader (n : ℕ) : LabelledMachine EnumArrays (AsynUser × ℕ) where
  step m q := (readEnum n q.1 q.2 m).map Prod.snd

/-! ### Names -/

/-- The parameters, in the order in which they are created. -/
def Param.all : List Param :=
  [.init, .numDet, .runStatus, .connStatus, .hostName, .detType, .detEnabled, .detSerialNumber,
    .detFirmwareVersion, .detSoftwareVersion, .fpgaTemp, .adcTemp, .getTempThreshold,
    .setTempThreshold, .getTempControl, .setTempControl, .getTempEvent, .setTempEvent,
    .getChipPower, .setChipPower, .getHighVoltage, .setHighVoltage, .getClockDivider,
    .setClockDivider, .getGainMode, .setGainMode]

/-- `findParam`. -/
def findParam (name : Text) : Option Param := Param.all.find? fun p ↦ p.name = name

/-- **A parameter is found by its name.** -/
theorem findParam_name (p : Param) : findParam p.name = some p := by
  have hall : ∀ q ∈ Param.all, findParam q.name = some q := by decide +kernel
  exact hall p (by cases p <;> decide)

theorem Param.name_injective : Function.Injective Param.name := fun p q h ↦ by
  have hfound := findParam_name p
  rw [h, findParam_name] at hfound
  exact (Option.some.inj hfound).symm

/-- So a search by name is one by parameter. -/
theorem searchEnums_name (p : Param) (sets : List SlsDetEnumSet) :
    searchEnums p.name sets = (sets.find? fun set ↦ set.param = p).map SlsDetEnumSet.enums := by
  induction sets with
  | nil => rfl
  | cons set sets ih =>
    by_cases hp : set.param = p
    · rw [searchEnums, if_pos (congrArg Param.name hp), List.find?_cons_of_pos (by simpa using hp)]
      rfl
    · rw [searchEnums, if_neg fun h ↦ hp (Param.name_injective h),
        List.find?_cons_of_neg (by simpa using hp), ih]

/-! ### What a request puts where -/

/-- The copy of an entry. -/
def SlsDetEnumInfo.dup (e : SlsDetEnumInfo) : SlsDetEnumInfo := { e with name := cStr e.name }

/-- The enumeration that goes with a reason. -/
def enumOf (r : Reason) : Option (List SlsDetEnumInfo) :=
  r.paramName.bind fun name ↦ searchEnums name slsDetEnums

/-- What a request puts at the place `i`. -/
def puts (n : ℕ) (q : AsynUser × ℕ) (i : ℕ) : Option SlsDetEnumInfo :=
  (getAddress n q.1).bind fun _ ↦ (enumOf q.1.reason).bind fun matched ↦
    (matched.take q.2)[i]?.map SlsDetEnumInfo.dup

/-- What the last of some requests put there that reached so far. -/
def lastPut (n i : ℕ) (qs : List (AsynUser × ℕ)) : Option SlsDetEnumInfo :=
  (qs.filterMap fun q ↦ puts n q i).getLast?

/-- One more request. -/
theorem lastPut_snoc (n i : ℕ) (qs : List (AsynUser × ℕ)) (q : AsynUser × ℕ) :
    lastPut n i (qs ++ [q]) = (puts n q i).or (lastPut n i qs) := by
  rw [lastPut, lastPut, List.filterMap_append, List.getLast?_append]
  rcases hputs : puts n q i with - | e <;> simp [hputs]

namespace EnumArrays

variable {m m' : EnumArrays} {i j : ℕ} {e : SlsDetEnumInfo} {es : List SlsDetEnumInfo}

/-- **Putting an entry at a place** is defined, and concerns no other. -/
theorem Owned.put (h : m.Owned) (i : ℕ) (e : SlsDetEnumInfo) : ∃ m', m.put i e = some m' ∧
    m'.Owned ∧ m'.entry i = some e.dup ∧ ∀ j, j ≠ i → m'.entry j = m.entry j := by
  obtain ⟨heap, strings, hreplace, hown, hself, hother⟩ := Heap.Owns.replace h i (cStr e.name)
  refine ⟨_, congrArg (Option.map _) hreplace, hown, ?_, fun j hj ↦ ?_⟩
  · simp only [entry]
    rw [hself, Function.update_self, Function.update_self]
    rfl
  · simp only [entry]
    rw [hother j hj, Function.update_of_ne hj, Function.update_of_ne hj]

/-- So is putting entries, one after the other. -/
theorem Owned.fill (h : m.Owned) (es : List SlsDetEnumInfo) (i : ℕ) : ∃ m', fill es i m = some m' ∧
    m'.Owned ∧ (∀ k, m'.entry (i + k) = (es[k]?.map SlsDetEnumInfo.dup).or (m.entry (i + k))) ∧
      ∀ j, j < i → m'.entry j = m.entry j := by
  induction es generalizing m i with
  | nil => exact ⟨m, rfl, h, fun _ ↦ rfl, fun _ _ ↦ rfl⟩
  | cons e es ih =>
    obtain ⟨m₁, hput, hown₁, hself, hother⟩ := h.put i e
    obtain ⟨m₂, hfill, hown₂, hlater, hbefore⟩ := ih hown₁ (i + 1)
    refine ⟨m₂, ?_, hown₂, fun k ↦ ?_, fun j hj ↦ ?_⟩
    · rw [EnumArrays.fill, hput]
      exact hfill
    · cases k with
      | zero =>
        rw [Nat.add_zero, hbefore i (Nat.lt_succ_self i), hself]
        rfl
      | succ k =>
        have hk := hlater k
        rw [Nat.add_assoc, Nat.add_comm 1 k] at hk
        rw [hk, hother (i + (k + 1)) (by omega)]
        rfl
    · rw [hbefore j (by omega), hother j (by omega)]

end EnumArrays

/-- **What `readEnum` does**: it puts the entries where they belong, leaves all else alone, and
counts the places. -/
theorem readEnum_spec {m : EnumArrays} (h : m.Owned) (n : ℕ) (u : AsynUser) (nElements : ℕ) :
    ∃ r m', readEnum n u nElements m = some (r, m') ∧ m'.Owned ∧
      (∀ i, m'.entry i = (puts n (u, nElements) i).or (m.entry i)) ∧
      (r.status = .success ↔ (getAddress n u).isSome ∧ (enumOf u.reason).isSome) ∧
      ∀ i, (puts n (u, nElements) i).isSome ↔ i < r.nIn.getD 0 := by
  rw [readEnum]
  simp only [puts, enumOf]
  rcases getAddress n u with - | a
  · exact ⟨_, m, rfl, h, fun _ ↦ rfl, by simp, by simp⟩
  rcases u.reason.paramName with - | name
  · exact ⟨_, m, rfl, h, fun _ ↦ rfl, by simp, by simp⟩
  dsimp only [Option.bind_some]
  rcases searchEnums name slsDetEnums with - | matched
  · exact ⟨_, m, rfl, h, fun _ ↦ rfl, by simp, by simp⟩
  obtain ⟨m', hfill, hown, hlater, -⟩ := h.fill (matched.take nElements) 0
  refine ⟨_, m', congrArg (Option.map _) hfill, hown, fun i ↦ ?_, by simp, fun i ↦ ?_⟩
  · have hi := hlater i
    rwa [Nat.zero_add] at hi
  · simp [Option.isSome_map]

/-- **Asking for enumerations keeps the books.** Take any sequence of calls of `readEnum`, by a
client whose places are null at first, with any parameters, addresses and numbers of places. Every
string is freed at most once, and only while it is allocated; in the end exactly the strings that
the places point to are allocated, each of them pointed to from one place. Every place holds the
entry that the last call put there that reached so far; and a further call succeeds where the
address exists and the parameter has an enumeration, and leaves in `*nIn` how far it reached. -/
theorem readEnum_ledger (n : ℕ) (values : ℕ → Int) (severities : ℕ → Severity)
    (qs : List (AsynUser × ℕ)) : ∃ m,
    (enumReader n).run ⟨.empty, fun _ ↦ none, values, severities⟩ qs = some m ∧ m.Owned ∧
    (∀ i, m.entry i = lastPut n i qs) ∧
    ∀ u nElements, ∃ r m', readEnum n u nElements m = some (r, m') ∧
      (r.status = .success ↔ (getAddress n u).isSome ∧ (enumOf u.reason).isSome) ∧
      ∀ i, (puts n (u, nElements) i).isSome ↔ i < r.nIn.getD 0 := by
  have hrun : ∃ m, (enumReader n).run ⟨.empty, fun _ ↦ none, values, severities⟩ qs = some m ∧
      m.Owned ∧ ∀ i, m.entry i = lastPut n i qs := by
    -- on the calls so far: a further one goes on where they have led
    induction qs using List.reverseRecOn with
    | nil => exact ⟨_, rfl, Heap.owns_empty, fun _ ↦ rfl⟩
    | append_singleton qs q ih =>
      obtain ⟨m, hm, hown, hentry⟩ := ih
      obtain ⟨r, m', hread, hown', hentry', -⟩ := readEnum_spec hown n q.1 q.2
      refine ⟨m', (enumReader n).run_append_eq_some.2 ⟨m, hm, ?_⟩, hown', fun i ↦ ?_⟩
      · exact (enumReader n).run_cons_eq_some.2 ⟨m', congrArg (Option.map _) hread, rfl⟩
      · rw [hentry' i, hentry i, lastPut_snoc]
  obtain ⟨m, hm, hown, hentry⟩ := hrun
  refine ⟨m, hm, hown, hentry, fun u nElements ↦ ?_⟩
  obtain ⟨r, m', hread, -, -, hstatus, hcount⟩ := readEnum_spec hown n u nElements
  exact ⟨r, m', hread, hstatus, hcount⟩

/-! ### The callbacks -/

/-- The callbacks of an address that gets connected: every enumeration once. -/
def handed (a : ℕ) : List EnumCallback :=
  slsDetEnums.map fun set ↦ ⟨(set.enums.take slsMaxEnums).map SlsDetEnumInfo.clip, set.param, a⟩

/-- No table and no name is too long to be handed out, and every table is the one that its
parameter's name leads to. -/
theorem enums_table : ∀ set ∈ slsDetEnums,
    (set.enums.take slsMaxEnums).map SlsDetEnumInfo.clip = set.enums ∧
      set.enums.map SlsDetEnumInfo.dup = set.enums ∧ set.enums.length ≤ slsMaxEnums ∧
      enumOf (.param set.param) = some set.enums := by
  have htables : ∀ set ∈ slsDetEnums,
      (slsDetEnums.find? fun s ↦ s.param = set.param).map SlsDetEnumSet.enums = some set.enums := by
    decide
  have hwhole : ∀ set ∈ slsDetEnums, (set.enums.take slsMaxEnums).map SlsDetEnumInfo.clip =
      set.enums ∧ set.enums.map SlsDetEnumInfo.dup = set.enums ∧
        set.enums.length ≤ slsMaxEnums := by
    decide +kernel
  intro set hset
  obtain ⟨hclip, hdup, hlen⟩ := hwhole set hset
  exact ⟨hclip, hdup, hlen, (searchEnums_name _ _).trans (htables set hset)⟩

/-- **A client that asks is told the same**, if it has places enough. -/
theorem readEnum_of_mem_handed {n a : ℕ} (ha : a < n) {cb : EnumCallback} (hcb : cb ∈ handed a)
    {m : EnumArrays} (hm : m.Owned) {nElements : ℕ} (hle : slsMaxEnums ≤ nElements) : ∃ m',
    readEnum n ⟨.param cb.param, cb.addr⟩ nElements m =
      some (⟨.success, some cb.enums.length⟩, m') ∧
    ∀ i, i < cb.enums.length → m'.entry i = cb.enums[i]? := by
  obtain ⟨set, hset, rfl⟩ := List.mem_map.1 hcb
  obtain ⟨hclip, hdup, hlen, hfound⟩ := enums_table set hset
  have haddr : getAddress n ⟨.param set.param, a⟩ = some a := by
    have hne : (a : Int) ≠ -1 := by omega
    have hin : (0 : Int) ≤ a ∧ (a : Int) < n := by omega
    simp only [getAddress, if_neg hne, if_pos hin, Int.toNat_natCast]
  have htake : set.enums.take nElements = set.enums :=
    List.take_of_length_le (hlen.trans hle)
  obtain ⟨m', hfill, -, hlater, -⟩ := hm.fill set.enums 0
  refine ⟨m', ?_, fun i hi ↦ ?_⟩
  · have hsearch : searchEnums set.param.name slsDetEnums = some set.enums := hfound
    simp only [readEnum, haddr, Reason.paramName, hsearch, htake, hfill, hclip]
    rfl
  · rw [hclip] at hi ⊢
    have hentry := hlater i
    rw [Nat.zero_add, ← List.getElem?_map, hdup, List.getElem?_eq_getElem hi] at hentry
    rw [hentry, List.getElem?_eq_getElem hi]
    rfl

namespace SlsDet

variable {lib : ℕ → Library} {late : Bool} {cfg : SlsDetConfig} {enums : EnumBuffers}
  {c : PortCall} {x x' x'' : SyncSlsDet} {r : Result} {a b : ℕ} {k : PortSystem} {ls : List PortLabel}

/-- Nothing but `connect` connects. -/
theorem Effect.isConnected_of_isConnected (h : Effect lib late cfg c x x') (hc : c.SparesStatus)
    (hop : ∀ made, c.op ≠ .connect made) (hb : x'.isConnected b = true) :
    x.isConnected b = true := by
  cases h with
  | none hdets hsame => rwa [hsame.isConnected] at hb
  | kept ha hconn hdet hreq hm hdets hsame => rwa [hsame.isConnected] at hb
  | dropped ha hconn hdet hreq hdets hsame =>
    rw [hsame.isConnected] at hb
    exact (SyncSlsDet.isConnected_of_disconnect hb).2
  | checked ha hop' => exact (hop _ hop').elim
  | disconnected ha hop' heq =>
    rw [heq] at hb
    exact (SyncSlsDet.isConnected_of_disconnect hb).2
  | enabled ha henables heq =>
    rw [heq] at hb
    split at hb
    case isTrue =>
      have hold := (SyncSlsDet.isConnected_of_disconnect hb).2
      rwa [SyncSlsDet.isConnected_enable] at hold
    case isFalse => rwa [SyncSlsDet.isConnected_enable] at hb
  | marked hr hp hv heq =>
    rcases hp with rfl | rfl
    · rw [hc hr] at hv
      cases hv
    · rw [heq] at hb
      rwa [SyncSlsDet.isConnected, ParamLists.integer_store_of_ne (by decide)] at hb

/-- Taking a reply hands nothing out. -/
theorem takeRead_callbacks {reason : Reason} {rep : SlsDetMessage} {v : Option Value}
    {status : AsynStatus} (h : x.takeRead cfg a reason rep v = (status, x')) :
    x'.callbacks = x.callbacks := by
  rw [SyncSlsDet.takeRead] at h
  split at h
  case h_1 =>
    unfold SyncSlsDet.storeReply at h
    split at h
    case h_1 =>
      obtain ⟨-, rfl⟩ := Prod.mk.inj h
      rfl
    case h_2 =>
      split at h <;> obtain ⟨-, rfl⟩ := Prod.mk.inj h <;> rfl
  all_goals
    obtain ⟨-, rfl⟩ := Prod.mk.inj h
    rfl

/-- Creating a driver connects nothing. -/
theorem isConnected_construct (hb : (x.construct cfg a).isConnected b = true) :
    x.isConnected b = true := by
  rcases hdet : x.dets a with - | y
  · exact (SyncSlsDet.isConnected_of_construct hdet hb).2
  · rwa [SyncSlsDet.construct_of_isSome (by rw [hdet]; rfl)] at hb

/-- The address of a successful call to connect. -/
def PortCall.connects (n : ℕ) (c : PortCall) (r : Result) : Option ℕ :=
  match c.op with
  | .connect _ => if r.status = .success then getAddress n c.user else none
  | _ => none

/-- It is one of the addresses. -/
theorem PortCall.lt_of_connects {n : ℕ} (h : c.connects n r = some a) : a < n := by
  rw [PortCall.connects] at h
  split at h
  · exact lt_of_getAddress (Option.ite_none_right_eq_some.1 h).2
  · cases h

/-- The addresses that some calls, with their answers, have asked to connect, and been told that
they succeeded. -/
def connectsOf (n : ℕ) (h : List (PortCall × Result)) : List ℕ :=
  h.filterMap fun q ↦ q.1.connects n q.2

/-- One more call. -/
theorem connectsOf_snoc (n : ℕ) (h : List (PortCall × Result)) (c : PortCall) (r : Result) :
    connectsOf n (h ++ [(c, r)]) = connectsOf n h ++ (c.connects n r).toList := by
  rw [connectsOf, List.filterMap_append]
  rcases hc : c.connects n r with - | a <;> simp [connectsOf, hc]

/-- `x'` has handed out the enumerations of `addrs` since `x`, and those are all that has been
connected. -/
structure HandsOut (x x' : SyncSlsDet) (addrs : List ℕ) : Prop where
  callbacks : x'.callbacks = x.callbacks ++ addrs.flatMap handed
  connected : ∀ a, x'.isConnected a = true → x.isConnected a = true ∨ a ∈ addrs

/-- Nothing is handed out where nothing is connected. -/
theorem HandsOut.nil (hsame : x'.callbacks = x.callbacks)
    (hconn : ∀ a, x'.isConnected a = true → x.isConnected a = true) : HandsOut x x' [] :=
  ⟨by rw [hsame, List.flatMap_nil, List.append_nil], fun a ha ↦ Or.inl (hconn a ha)⟩

/-- One after the other. -/
theorem HandsOut.trans {addrs addrs' : List ℕ} (h : HandsOut x x' addrs)
    (h' : HandsOut x' x'' addrs') : HandsOut x x'' (addrs ++ addrs') where
  callbacks := by rw [h'.callbacks, h.callbacks, List.flatMap_append, List.append_assoc]
  connected a ha := by
    rcases h'.connected a ha with hold | hnew
    · exact (h.connected a hold).imp_right fun h ↦ List.mem_append_left _ h
    · exact Or.inr (List.mem_append_right _ hnew)

/-- **What a call hands out**: where a successful `connect` finds the detector it hands out every
enumeration once, and no other call hands out anything. -/
theorem Performed.handsOut (h : Performed lib late cfg c x r x') (hc : c.SparesStatus) :
    ∃ addrs : List ℕ, HandsOut x x' addrs ∧ addrs.Sublist (c.connects (size cfg) r).toList := by
  have hnothing : (∀ made, c.op ≠ .connect made) → x'.callbacks = x.callbacks →
      ∃ addrs : List ℕ, HandsOut x x' addrs ∧
        addrs.Sublist (c.connects (size cfg) r).toList := fun hop hsame ↦
    ⟨[], .nil hsame fun _ hb ↦ (effect_of_performed h).isConnected_of_isConnected hc hop hb,
      List.nil_sublist _⟩
  cases h with
  | noAddress | disabled | unmade | already | offline | readBase =>
    exact ⟨[], .nil rfl fun _ hb ↦ hb, List.nil_sublist _⟩
  | @checked a made y rep z ha hop =>
    have hsame : (x.construct cfg a).callbacks = x.callbacks := by
      rw [SyncSlsDet.construct]
      split <;> rfl
    split
    case isFalse =>
      exact ⟨[], .nil hsame fun _ hb ↦ isConnected_construct hb, List.nil_sublist _⟩
    case isTrue =>
      refine ⟨[a], ⟨?_, fun b hb ↦ ?_⟩, ?_⟩
      · show (x.construct cfg a).callbacks ++ (callbacksEnum a slsDetEnums _).2 = _
        rw [hsame, callbacksEnum_snd, List.flatMap_singleton]
        rfl
      · rw [SyncSlsDet.isConnected_connect] at hb
        split at hb
        case isTrue hba => exact Or.inr (List.mem_singleton.2 hba)
        case isFalse => exact Or.inl (isConnected_construct hb)
      · have hconnects : c.connects (size cfg) (.ofStatus .success) = some a := by
          rw [PortCall.connects, hop]
          exact ha
        rw [hconnects]
        exact .refl _
  | disconnected ha hop => exact hnothing (by rw [hop]; intro made h; cases h) rfl
  | @read a mtype y rep z v status x' ha hread hconn hdet hreq hv htake =>
    have hsame : x'.callbacks = (x.setDet a z).callbacks := takeRead_callbacks htake
    exact hnothing (PortCall.kind_of_read hread).1 hsame
  | unsent ha hwrite hr hp hv => exact hnothing (PortCall.kind_of_value hv).1 rfl
  | write ha hwrite hr hp hv hconn hdet hreq htake =>
    refine hnothing (PortCall.kind_of_value hv).1 ?_
    rcases SyncSlsDet.takeWrite_cases htake with ⟨-, rfl⟩ | ⟨-, rfl⟩ <;> rfl
  | enabled ha henables =>
    refine hnothing (PortCall.kind_of_value (PortCall.kind_of_enables henables).2.1).1 ?_
    split <;> rfl
  | writeBase ha hwrite henables hv => exact hnothing (PortCall.kind_of_value hv).1 rfl

/-- **Handed out and asked for agree.** In every run in which no client writes a status itself,
between two calls, what the port has handed out in callbacks are whole batches, each of all the
enumerations in their order: at most one for each successful `connect`, at its address and in the
order of the calls, and one at least at every connected address. And a client who asks `readEnum`
instead, with the parameter and the address of any callback and with places enough, is told the
same: the count and every entry. -/
theorem enums_agree (hls : ∀ c ∈ Client.calls ls, PortCall.SparesStatus c)
    (hrun : (system lib cfg).run (start cfg enums) ls = some k) (hidle : k.thread = .idle) :
    (∃ addrs : List ℕ, k.shared.callbacks = addrs.flatMap handed ∧
      addrs.Sublist (connectsOf (size cfg) k.results) ∧
      ∀ a, k.shared.isConnected a = true → a ∈ addrs) ∧
    ∀ cb ∈ k.shared.callbacks, ∀ m : EnumArrays, m.Owned → ∀ nElements, slsMaxEnums ≤ nElements →
      ∃ m', readEnum (size cfg) ⟨.param cb.param, cb.addr⟩ nElements m =
          some (⟨.success, some cb.enums.length⟩, m') ∧
        ∀ i, i < cb.enums.length → m'.entry i = cb.enums[i]? := by
  obtain ⟨x, hh, hend⟩ := history_of_run hls (fun e _ ↦ inTime_true e) hrun
  obtain ⟨-, rfl⟩ := hend hidle
  obtain ⟨addrs, hout, hsub⟩ : ∃ addrs : List ℕ,
      HandsOut (sync lib (new cfg enums)) (sync lib k.shared) addrs ∧
        addrs.Sublist (connectsOf (size cfg) k.results) := by
    refine hh.tracks (K := connectsOf (size cfg))
      (R := fun g x ↦ ∃ addrs : List ℕ, HandsOut (sync lib (new cfg enums)) x addrs ∧
        addrs.Sublist g)
      (fun g c r ↦ g ++ (c.connects (size cfg) r).toList) (connectsOf_snoc _)
      ⟨[], .nil rfl fun _ ha ↦ ha, .refl _⟩ ?_
    rintro g c y r z ⟨addrs, hpast, hsub⟩ ⟨hc, hperf⟩
    obtain ⟨addrs', hnext, hsub'⟩ := hperf.handsOut hc
    exact ⟨addrs ++ addrs', hpast.trans hnext, hsub.append hsub'⟩
  have hbatches : k.shared.callbacks = addrs.flatMap handed := hout.callbacks
  refine ⟨⟨addrs, hbatches, hsub, fun a ha ↦ ?_⟩, fun cb hcb m hm nElements hle ↦ ?_⟩
  · refine (hout.connected a ha).resolve_left fun hnew ↦ ?_
    cases hnew.symm.trans (isConnected_new a)
  · rw [hbatches] at hcb
    obtain ⟨a, ha, hcb⟩ := List.mem_flatMap.1 hcb
    obtain ⟨q, -, hq⟩ := List.mem_filterMap.1 (hsub.subset ha)
    exact readEnum_of_mem_handed (PortCall.lt_of_connects hq) hcb hm hle

/-- The one address of a small port is connected, and has been handed its enumerations. -/
theorem enums_agree_online : ∃ k, ∃ addrs : List ℕ,
    (system (fun _ ↦ SlsDetDriver.healthy) (bench 1)).run (start (bench 1) blank) (online 0) =
      some k ∧
    k.shared.callbacks = addrs.flatMap handed ∧ 0 ∈ addrs := by
  have hmap : ((system (fun _ ↦ SlsDetDriver.healthy) (bench 1)).run (start (bench 1) blank)
      (online 0)).map (fun k ↦ (k.isIdle, k.shared.isConnected 0)) = some (true, true) := by
    decide +kernel
  obtain ⟨k, hrun, hk⟩ := Option.map_eq_some_iff.1 hmap
  obtain ⟨hidle, hconn⟩ := Prod.mk.inj hk
  obtain ⟨⟨addrs, hbatches, -, hmem⟩, -⟩ :=
    enums_agree (by decide) hrun (Client.thread_of_isIdle hidle)
  exact ⟨k, addrs, hrun, hbatches, hmem 0 hconn⟩

end SlsDet
