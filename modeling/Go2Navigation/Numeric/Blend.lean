import Mathlib.Algebra.Order.Field.Basic
import Mathlib.Tactic.Linarith
import Mathlib.Tactic.Ring
import Mathlib.Tactic.FieldSimp

/-!
# First-order blending of a prediction with a measurement

The blend of a predicted and a measured value, weighted by a time constant
against a time step, over any linearly ordered field.  The gain is chosen so
that the drift admitted in one step is exactly what the blend removes.
-/

namespace Go2Navigation.Numeric

universe u

variable {K : Type u} [Field K]

/-- The weight of the prediction. -/
def blendGain (tau dt : K) : K :=
  tau / (tau + dt)

/-- The weighted mean of a prediction and a measurement. -/
def blend (gain predicted measured : K) : K :=
  gain * predicted + (1 - gain) * measured

variable [LinearOrder K] [IsStrictOrderedRing K]

theorem blendGain_nonneg {tau dt : K} (tau_nonneg : 0 ≤ tau)
    (dt_pos : 0 < dt) : 0 ≤ blendGain tau dt :=
  div_nonneg tau_nonneg (add_nonneg tau_nonneg dt_pos.le)

theorem blendGain_le_one {tau dt : K} (tau_nonneg : 0 ≤ tau)
    (dt_pos : 0 < dt) : blendGain tau dt ≤ 1 :=
  div_le_one_of_le₀ (le_add_of_nonneg_right dt_pos.le)
    (add_nonneg tau_nonneg dt_pos.le)

theorem blendGain_pos {tau dt : K} (tau_pos : 0 < tau) (dt_pos : 0 < dt) :
    0 < blendGain tau dt :=
  div_pos tau_pos (add_pos tau_pos dt_pos)

theorem blendGain_lt_one {tau dt : K} (tau_pos : 0 < tau)
    (dt_pos : 0 < dt) : blendGain tau dt < 1 :=
  (div_lt_one (add_pos tau_pos dt_pos)).mpr (lt_add_of_pos_right tau dt_pos)

/-- The gain times the time step is the time constant times the other weight. -/
theorem blendGain_mul_add {tau dt : K} (tau_nonneg : 0 ≤ tau)
    (dt_pos : 0 < dt) : blendGain tau dt * (tau + dt) = tau :=
  div_mul_cancel₀ tau (add_pos_of_nonneg_of_pos tau_nonneg dt_pos).ne'

/-- A blend is no further from a reference than the weighted errors. -/
theorem abs_blend_sub_le {gain predicted measured reference : K}
    (gain_nonneg : 0 ≤ gain) (gain_le_one : gain ≤ 1) :
    |blend gain predicted measured - reference| ≤
      gain * |predicted - reference| +
        (1 - gain) * |measured - reference| := by
  have split :
      blend gain predicted measured - reference =
        gain * (predicted - reference) +
          (1 - gain) * (measured - reference) := by
    rw [blend]
    ring
  rw [split]
  refine (abs_add_le _ _).trans (le_of_eq ?_)
  rw [abs_mul, abs_mul, abs_of_nonneg gain_nonneg,
    abs_of_nonneg (sub_nonneg.mpr gain_le_one)]

/--
One blended step keeps the error bound: the drift `drift * dt` added by the
prediction is removed by the weight of the measurement.
-/
theorem abs_blend_sub_le_of_drift
    {tau dt predicted measured reference error drift : K}
    (tau_nonneg : 0 ≤ tau) (dt_pos : 0 < dt)
    (predictedWithin :
      |predicted - reference| ≤ error + tau * drift + drift * dt)
    (measuredWithin : |measured - reference| ≤ error) :
    |blend (blendGain tau dt) predicted measured - reference| ≤
      error + tau * drift := by
  have gainNonneg := blendGain_nonneg tau_nonneg dt_pos
  have gainLeOne := blendGain_le_one tau_nonneg dt_pos
  calc
    |blend (blendGain tau dt) predicted measured - reference| ≤
        blendGain tau dt * |predicted - reference| +
          (1 - blendGain tau dt) * |measured - reference| :=
      abs_blend_sub_le gainNonneg gainLeOne
    _ ≤ blendGain tau dt * (error + tau * drift + drift * dt) +
          (1 - blendGain tau dt) * error :=
      add_le_add
        (mul_le_mul_of_nonneg_left predictedWithin gainNonneg)
        (mul_le_mul_of_nonneg_left measuredWithin
          (sub_nonneg.mpr gainLeOne))
    _ = error + blendGain tau dt * (tau + dt) * drift := by ring
    _ = error + tau * drift := by
      rw [blendGain_mul_add tau_nonneg dt_pos]

end Go2Navigation.Numeric
