import Go2Navigation.Numeric.Double
import Mathlib.Data.Rat.Cast.Order
import Mathlib.Tactic.Positivity

/-!
# Bridge utilities

The pure helpers of the velocity bridge: parameter validation, input
sanitising, the symmetric velocity clamp with its narrowing, and the two
watchdog helpers.
-/

namespace Go2Navigation.Bridge

open Go2Navigation.Numeric

def kLinearMax : Double := .finite 1

def kAngularMax : Double := .finite 1

def kVelocityMoveMode : UInt8 := 2

def kDefaultWatchdogMs : Double := .finite 200

def kStopRepublishMs : Double := .finite 500

def validatePositiveOrFallback (value fallback : Double) : Double :=
  if !value.isFinite || value.le (.finite 0) then fallback else value

def sanitizeFiniteOrZero (value : Double) : Double :=
  if !value.isFinite then .finite 0 else value

def clampSymmetric (value limit : Double) : Binary32 :=
  let absLimit := limit.abs
  (value.clamp absLimit.neg absLimit).toBinary32

/--
Timer period in milliseconds.  The clamped half timeout is positive, so the
cast to an integer truncates downwards; a NaN survives the clamp and has no
defined cast.
-/
def watchdogPeriodFromTimeout (timeoutMs : Double) : Option ℤ :=
  match timeoutMs.half.clamp (.finite 1) (.finite 10000) with
  | .finite half => some ⌊half⌋
  | _ => none

def watchdogTimeoutElapsed (elapsedMs watchdogTimeoutMs : Double) : Bool :=
  watchdogTimeoutMs.lt elapsedMs

/-- A finite double above zero: what parameter validation lets through. -/
def PositiveFinite (value : Double) : Prop :=
  ∃ rational : ℚ, value = .finite rational ∧ 0 < rational

theorem kLinearMax_positive : PositiveFinite kLinearMax :=
  ⟨1, rfl, one_pos⟩

theorem kAngularMax_positive : PositiveFinite kAngularMax :=
  ⟨1, rfl, one_pos⟩

theorem kDefaultWatchdogMs_positive : PositiveFinite kDefaultWatchdogMs :=
  ⟨200, rfl, by norm_num⟩

/-- Validation returns a positive finite double whenever its fallback is one. -/
theorem validatePositiveOrFallback_positive
    {fallback : Double} (value : Double)
    (fallbackPositive : PositiveFinite fallback) :
    PositiveFinite (validatePositiveOrFallback value fallback) := by
  rw [validatePositiveOrFallback]
  split_ifs with rejected
  · exact fallbackPositive
  · cases value with
    | finite rational =>
        refine ⟨rational, rfl, ?_⟩
        simpa [Double.isFinite] using rejected
    | posInf => simp [Double.isFinite] at rejected
    | negInf => simp [Double.isFinite] at rejected
    | nan => simp [Double.isFinite] at rejected

/-- Validation keeps every positive finite double. -/
theorem validatePositiveOrFallback_of_positive
    {value : Double} (fallback : Double)
    (valuePositive : PositiveFinite value) :
    validatePositiveOrFallback value fallback = value := by
  rcases valuePositive with ⟨rational, rfl, positive⟩
  simp [validatePositiveOrFallback, Double.isFinite, positive]

/-- The magnitude of an input after sanitising and clamping, before narrowing. -/
def cappedMagnitude (value : Double) (limit : ℚ) : ℚ :=
  match value with
  | .finite rational => min |rational| limit
  | _ => 0

/--
The clamp of a sanitised input narrows a rational whose magnitude is exactly
the capped magnitude.
-/
theorem clampSymmetric_sanitized
    (value : Double) {limit : ℚ} (nonneg : 0 ≤ limit) :
    ∃ clamped : ℚ,
      clampSymmetric (sanitizeFiniteOrZero value) (.finite limit) =
          (Double.finite clamped).toBinary32 ∧
        |clamped| = cappedMagnitude value limit := by
  have clampFinite :
      ∀ rational : ℚ, ∃ clamped : ℚ,
        clampSymmetric (.finite rational) (.finite limit) =
            (Double.finite clamped).toBinary32 ∧
          |clamped| = min |rational| limit := by
    intro rational
    rcases Double.clamp_finite rational nonneg with
      ⟨clamped, clampedEq, magnitude⟩
    refine ⟨clamped, ?_, magnitude⟩
    simp only [clampSymmetric, Double.abs, Double.neg, abs_of_nonneg nonneg,
      clampedEq]
  have atZero :
      ∃ clamped : ℚ,
        clampSymmetric (.finite 0) (.finite limit) =
            (Double.finite clamped).toBinary32 ∧
          |clamped| = 0 := by
    simpa [nonneg] using clampFinite 0
  cases value with
  | finite rational => exact clampFinite rational
  | posInf => exact atZero
  | negInf => exact atZero
  | nan => exact atZero

/--
The watchdog timer period is between one millisecond and ten seconds, and
above the one-millisecond clamp it is at most half the timeout.
-/
theorem watchdogPeriodFromTimeout_bounds (timeout : ℚ) :
    ∃ period : ℤ,
      watchdogPeriodFromTimeout (.finite timeout) = some period ∧
        1 ≤ period ∧ period ≤ 10000 ∧
          (period : ℚ) ≤ max 1 (timeout / 2) := by
  simp only [watchdogPeriodFromTimeout, Double.half, Double.clamp,
    Double.lt_finite, decide_eq_true_eq]
  split_ifs with small large
  · exact ⟨1, by simp, le_rfl, by norm_num, by simp⟩
  · refine ⟨10000, by simp, by norm_num, le_rfl, ?_⟩
    exact le_max_of_le_right (by exact_mod_cast large.le)
  · refine ⟨⌊timeout / 2⌋, rfl, ?_, ?_, ?_⟩
    · exact Int.le_floor.mpr (by exact_mod_cast not_lt.mp small)
    · have floorLe : (⌊timeout / 2⌋ : ℚ) ≤ 10000 :=
        (Int.floor_le _).trans (not_lt.mp large)
      exact_mod_cast floorLe
    · exact le_max_of_le_right (Int.floor_le _)

end Go2Navigation.Bridge
