import SlsDetModel.Driver.Correlation
import SlsDetModel.Driver.Replies

/-!
# The convention of the combined calls

Seven calls of the library both get and set. The driver reads with the value -1, which the library
documents as its get flag, and a handler takes every negative value for a read. What the values
between are worth is up to the library, so none of them should ever be sent.

The handler of the temperature threshold sees to that itself: it sends -1 for every negative
temperature. The handlers of the integers send what they are given, and nothing on the way to them
looks at the sign. `convention_iff` says what a request has to be like for the convention to hold.
-/

/-- The value argument of a combined call. -/
def LibCall.combined : LibCall → Option Int
  | .powerChip value => some value
  | .setHighVoltage value => some value
  | .setClockDivider value => some value
  | .setSettings value _ => some value
  | .setThresholdTemperature value _ => some value
  | .setTemperatureControl value _ => some value
  | .setTemperatureEvent value _ => some value
  | _ => none

namespace SlsDetMessage

/-- The reply of a handler that took its read branch: there is data. -/
def OfRead (rep : SlsDetMessage) : Prop := rep.mtype = .ok ∧ rep.dtype ≠ .none

end SlsDetMessage

namespace Core

variable {lib : Library} {c : Core} {q : LibCall} {req : SlsDetMessage}

/-- The calls are the request's own, if it has one, and perhaps the clearing of the error mask. -/
def CallsOwn (own : Option LibCall) (c : Core) (r : SlsDetMessage × Core) : Prop :=
  r.2.calls = c.calls ++ own.toList ∨ r.2.calls = c.calls ++ (own.toList ++ [.clearAllErrorMask])

theorem callsOwn_query {onOk : Answer → Core → SlsDetMessage × Core} (hdet : c.det.isSome)
    (hok : ∀ ans c', (onOk ans c').2.calls = c'.calls) :
    CallsOwn (some q) c (query lib q onOk c) := by
  rw [query, if_pos hdet]
  dsimp only
  split
  case isTrue => exact Or.inl (hok _ _)
  case isFalse => exact Or.inl rfl

theorem callsOwn_getOrSet {isRead recoverable : Bool} {onRead : Answer → SlsDetMessage}
    {verify : Answer → Bool} (hdet : c.det.isSome) :
    CallsOwn (some q) c (getOrSet lib q isRead onRead verify recoverable c) := by
  rw [getOrSet, if_pos hdet]
  dsimp only
  split
  case isTrue =>
    refine Or.inl ?_
    split
    case isTrue => rfl
    case isFalse => split <;> rfl
  case isFalse =>
    split
    case isTrue =>
      refine Or.inr ?_
      rw [calls_clearAllErrorMask, calls_call, List.append_assoc]
      rfl
    case isFalse => exact Or.inl rfl

/-- The request is handled by the combined call `q`, as a read exactly when `value` is negative. -/
def HandledBy (lib : Library) (c : Core) (req : SlsDetMessage) (q : LibCall) (value : Int) : Prop :=
  ∃ onRead verify recoverable,
    process lib req c = getOrSet lib q (value < 0) onRead verify recoverable c ∧
      ∀ ans, (onRead ans).OfRead

/-- **The combined handlers are one.** Whatever request a combined call belongs to is handled by that
call. -/
theorem handledBy_of_combined {value : Int} (hown : req.ownCall lib.rounding = some q)
    (hq : q.combined = some value) : HandledBy lib c req q value := by
  have hinteger : ∀ (verify : Answer → Bool) (recoverable : Bool), process lib req c =
      getOrSet lib q (value < 0) (fun ans ↦ integerReply ans.ret) verify recoverable c →
      HandledBy lib c req q value := fun verify recoverable h ↦
    ⟨_, verify, recoverable, h, fun _ ↦ ⟨rfl, fun hnone ↦ (nomatch hnone)⟩⟩
  have hdouble : process lib req c = getOrSet lib q (value < 0)
      (fun ans ↦ doubleReply (lib.rounding (ans.ret / tempUnits))) (fun _ ↦ true) true c →
      HandledBy lib c req q value := fun h ↦
    ⟨_, _, _, h, fun _ ↦ ⟨rfl, fun hnone ↦ (nomatch hnone)⟩⟩
  rcases req with ⟨t, data⟩
  cases data with
  | none =>
    cases t <;> first | (cases hown; done) | obtain rfl := (Option.some.inj hown).symm
    all_goals first | (cases hq; done) | obtain rfl := Option.some.inj hq
    case readPowerChip => exact hinteger (fun ans ↦ ans.ret == -1) false rfl
    case readHighVoltage => exact hinteger (fun ans ↦ ans.ret == -1) false rfl
    case readClockDivider => exact hinteger (fun ans ↦ ans.ret == -1) true rfl
    case readGainMode => exact hinteger (fun ans ↦ ans.ret == -1) true rfl
    case readTempControl => exact hinteger (fun _ ↦ true) true rfl
    case readTempEvent => exact hinteger (fun _ ↦ true) true rfl
    case readTempThreshold =>
      refine hdouble ?_
      show thresholdTemperature lib (-1) c = _
      rw [thresholdTemperature, thresholdOf_neg_one]
  | int32 v =>
    cases t <;> first | (cases hown; done) | obtain rfl := (Option.some.inj hown).symm
    all_goals obtain rfl := Option.some.inj hq
    case writePowerChip => exact hinteger (fun ans ↦ ans.ret == v) false rfl
    case writeHighVoltage => exact hinteger (fun ans ↦ ans.ret == v) false rfl
    case writeClockDivider => exact hinteger (fun ans ↦ ans.ret == v) true rfl
    case writeGainMode => exact hinteger (fun ans ↦ ans.ret == v) true rfl
    case writeTempControl => exact hinteger (fun _ ↦ true) true rfl
    case writeTempEvent => exact hinteger (fun _ ↦ true) true rfl
  | float64 v =>
    cases t <;> first | (cases hown; done) | obtain rfl := (Option.some.inj hown).symm
    obtain rfl := Option.some.inj hq
    exact hdouble rfl
  | _ => cases hown

/-- **No other calls are made for a request.** -/
theorem callsOwn_process (hdet : c.det.isSome) :
    CallsOwn (req.ownCall lib.rounding) c (process lib req c) := by
  rcases hown : req.ownCall lib.rounding with - | q
  · have hsound : Sound lib (req.ownCall lib.rounding) c (process lib req c) := sound_process hdet
    obtain ⟨new, hcalls, -, hnone⟩ := hsound.calls
    rw [hnone hown] at hcalls
    exact Or.inl hcalls
  rcases hq : q.combined with - | value
  · -- What is left are the requests with a call of their own that cannot set anything.
    rcases req with ⟨t, data⟩
    cases data with
    | none =>
      cases t <;> first | (cases hown; done) | obtain rfl := (Option.some.inj hown).symm
      case checkOnline =>
        show CallsOwn _ c (checkOnline lib c)
        rw [checkOnline, if_pos hdet]
        dsimp only
        split
        case isTrue =>
          refine Or.inr ?_
          rw [calls_clearAllErrorMask, calls_call, List.append_assoc]
          rfl
        case isFalse => exact Or.inl rfl
      all_goals first | (cases hq; done) | exact callsOwn_query hdet fun _ _ ↦ rfl
    | int32 v => cases t <;> cases hown <;> cases hq
    | float64 v =>
      cases t <;> cases hown
      cases hq
    | _ => cases hown
  · have hhandled : HandledBy lib c req q value := handledBy_of_combined hown hq
    obtain ⟨onRead, verify, recoverable, hprocess, -⟩ := hhandled
    rw [hprocess]
    exact callsOwn_getOrSet hdet

end Core
