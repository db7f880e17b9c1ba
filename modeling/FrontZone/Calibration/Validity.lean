import FrontZone.Calibration
/-!
# Valid calibrations

A governor refuses a calibration that is not consistent in itself. `validate` reports the first
thing that is wrong, in a fixed order; `IsValid` says directly what a consistent calibration is, and
`validate_eq_ok_iff` joins the two.
-/

namespace FrontZone

/-- A quantity of a calibration that a check may find fault with. -/
inductive CalibrationField where
  | safeValue
  | initialPosition
  | signalScale
  | rateLimit
  | plausibilityThreshold
  | plausibilityDebounceCycles
  | cmdTimeoutCycles
  | latchClearCycles
  | rampRate
  | repeatCount
  | telemetryEveryCycles
  deriving Repr, DecidableEq

/-- The name of a quantity in messages. -/
def CalibrationField.name : CalibrationField → String
  | safeValue => "safe_value"
  | initialPosition => "initial_position"
  | signalScale => "signal_scale"
  | rateLimit => "rate_limit"
  | plausibilityThreshold => "plausibility_threshold"
  | plausibilityDebounceCycles => "plausibility_debounce_cycles"
  | cmdTimeoutCycles => "cmd_timeout_cycles"
  | latchClearCycles => "latch_clear_cycles"
  | rampRate => "fail_safe.rate_per_cycle"
  | repeatCount => "escalation.repeat_count"
  | telemetryEveryCycles => "telemetry_every_cycles"

/-- Why a calibration is refused. -/
inductive CalibrationError where
  | emptyRange (min max : Int32)
  | outsideRange (field : CalibrationField) (value : Int32)
  | notPositive (field : CalibrationField)
  | outputDomain
  deriving Repr, DecidableEq

/-- The reason in words. -/
def CalibrationError.message : CalibrationError → String
  | emptyRange min max => "range is empty: min " ++ toString min ++ " > max " ++ toString max
  | outsideRange field value =>
    field.name ++ " (" ++ toString value ++ ") lies outside the configured range"
  | notPositive field => field.name ++ " must be positive"
  | outputDomain => "output domain must satisfy min <= center <= max"

/-- Refuses with `error` unless `ok` holds. -/
def demand (ok : Prop) [Decidable ok] (error : CalibrationError) : Except CalibrationError Unit :=
  if ok then .ok () else .error error

theorem demand_eq_ok_iff {ok : Prop} [Decidable ok] {error : CalibrationError} :
    demand ok error = .ok () ↔ ok := by
  unfold demand; split <;> simp_all

/-- Whether a ramp, if there is one, moves at all. -/
def FailSafe.Progresses : FailSafe → Prop
  | ramp rate => 0 < rate
  | snap => True

instance (f : FailSafe) : Decidable f.Progresses := by
  cases f <;> unfold FailSafe.Progresses <;> infer_instance

/-- Whether a broadcast, if there is one, sends anything. -/
def Escalation.Sends : Escalation → Prop
  | disableLines => True
  | cutoffBroadcast count => count ≠ 0

instance (e : Escalation) : Decidable e.Sends := by
  cases e <;> unfold Escalation.Sends <;> infer_instance

namespace Calibration

/-- Consistency of a calibration. -/
structure IsValid (c : Calibration) : Prop where
  range_nonempty : c.range.min ≤ c.range.max
  safe_mem : c.range.contains c.safeValue
  initial_mem : c.range.contains c.initialPosition
  scale_pos : 0 < c.signalScale
  rateLimit_pos : 0 < c.rateLimit
  threshold_nonneg : 0 ≤ c.plausibilityThreshold
  debounce_ne_zero : c.plausibilityDebounceCycles ≠ 0
  timeout_ne_zero : c.cmdTimeoutCycles ≠ 0
  clear_ne_zero : c.latchClearCycles ≠ 0
  ramp_progresses : c.failSafe.Progresses
  cutoff_sends : c.escalation.Sends
  output_min_le : c.output.min ≤ c.output.center
  output_le_max : c.output.center ≤ c.output.max

/-- The first inconsistency of a calibration, if there is one. -/
def validate (c : Calibration) : Except CalibrationError Unit := do
  demand (c.range.min ≤ c.range.max) (.emptyRange c.range.min c.range.max)
  demand (c.range.contains c.safeValue) (.outsideRange .safeValue c.safeValue)
  demand (c.range.contains c.initialPosition) (.outsideRange .initialPosition c.initialPosition)
  demand (0 < c.signalScale) (.notPositive .signalScale)
  demand (0 < c.rateLimit) (.notPositive .rateLimit)
  demand (0 ≤ c.plausibilityThreshold) (.notPositive .plausibilityThreshold)
  demand (c.plausibilityDebounceCycles ≠ 0) (.notPositive .plausibilityDebounceCycles)
  demand (c.cmdTimeoutCycles ≠ 0) (.notPositive .cmdTimeoutCycles)
  demand (c.latchClearCycles ≠ 0) (.notPositive .latchClearCycles)
  demand c.failSafe.Progresses (.notPositive .rampRate)
  demand c.escalation.Sends (.notPositive .repeatCount)
  demand (c.output.min ≤ c.output.center ∧ c.output.center ≤ c.output.max) .outputDomain

/-- Checks one after the other all pass exactly when each of them does. -/
theorem seq_eq_ok_iff {x : Except CalibrationError Unit} {y : Unit → Except CalibrationError Unit} :
    x >>= y = .ok () ↔ x = .ok () ∧ y () = .ok () := by
  cases x with
  | error e => simp [bind, Except.bind]
  | ok u => cases u; simp [bind, Except.bind]

theorem validate_eq_ok_iff {c : Calibration} : c.validate = .ok () ↔ c.IsValid := by
  unfold validate
  simp only [seq_eq_ok_iff, demand_eq_ok_iff]
  exact ⟨fun ⟨a, b, d, e, f, g, h, i, j, k, l, m, n⟩ => ⟨a, b, d, e, f, g, h, i, j, k, l, m, n⟩,
    fun h => ⟨h.range_nonempty, h.safe_mem, h.initial_mem, h.scale_pos, h.rateLimit_pos,
      h.threshold_nonneg, h.debounce_ne_zero, h.timeout_ne_zero, h.clear_ne_zero,
      h.ramp_progresses, h.cutoff_sends, h.output_min_le, h.output_le_max⟩⟩

end Calibration

/-- The first inconsistency of a zone calibration, steering before brake. -/
def ZoneCalibration.validate (z : ZoneCalibration) : Except CalibrationError Unit := do
  z.steering.validate
  z.brake.validate
  demand (z.telemetryEveryCycles ≠ 0) (.notPositive .telemetryEveryCycles)

end FrontZone
