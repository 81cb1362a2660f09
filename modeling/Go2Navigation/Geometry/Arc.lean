import Go2Navigation.Numeric.Blend
import Mathlib.Analysis.SpecialFunctions.Trigonometric.Angle

/-!
# Blending angles

Two angles are as far apart as the shorter arc between them.  A blend of two
numbers moves along the line between them, which need not be that arc.  The
blend comes no further from the measurement exactly if the sum and the
difference of its two distances along the line lie in full turns of one
parity; for numbers within a full turn of each other, exactly if the sum is at
most a full turn.
-/

noncomputable section

namespace Go2Navigation.Geometry

open Go2Navigation.Numeric

/-- The distance of two angles modulo full turns. -/
def arc (left right : ℝ) : ℝ :=
  |((left - right : ℝ) : Real.Angle).toReal|

/-- A shorter arc has the greater cosine. -/
theorem arc_le_arc_iff (first second third fourth : ℝ) :
    arc first second ≤ arc third fourth ↔
      Real.cos (third - fourth) ≤ Real.cos (first - second) := by
  have cosArc :
      ∀ left right, Real.cos (arc left right) = Real.cos (left - right) := by
    intro left right
    rw [arc, Real.cos_abs, Real.Angle.cos_toReal, Real.Angle.cos_coe]
  have within : ∀ left right, arc left right ∈ Set.Icc 0 Real.pi :=
    fun _ _ => ⟨abs_nonneg _, Real.Angle.abs_toReal_le_pi _⟩
  rw [← cosArc, ← cosArc]
  exact
    (Real.strictAntiOn_cos.le_iff_ge (within third fourth)
      (within first second)).symm

/-! ## Turns -/

/-- The angle lies in the full turn of this number, its ends included. -/
def InTurn (turn : ℤ) (angle : ℝ) : Prop :=
  turn * (Real.pi + Real.pi) ≤ angle ∧
    angle ≤ (turn + 1) * (Real.pi + Real.pi)

/-- The angles lie in full turns of one parity. -/
def SameParity (left right : ℝ) : Prop :=
  ∃ leftTurn rightTurn,
    InTurn leftTurn left ∧ InTurn rightTurn right ∧
      (Even leftTurn ↔ Even rightTurn)

theorem exists_inTurn (angle : ℝ) : ∃ turn, InTurn turn angle := by
  have full : 0 < Real.pi + Real.pi := add_pos Real.pi_pos Real.pi_pos
  refine ⟨⌊angle / (Real.pi + Real.pi)⌋, ?_, ?_⟩
  · exact (le_div_iff₀ full).mp (Int.floor_le _)
  · exact (div_le_iff₀ full).mp (Int.lt_floor_add_one _).le

/-- Half the angle has a sine of the sign that the turn's parity says. -/
theorem InTurn.sin_half {turn : ℤ} {angle : ℝ} (inTurn : InTurn turn angle) :
    (Even turn → 0 ≤ Real.sin (angle / 2)) ∧
      (¬ Even turn → Real.sin (angle / 2) ≤ 0) := by
  have shifted :
      Real.sin (angle / 2) =
        (-1) ^ turn * Real.sin (angle / 2 - turn * Real.pi) := by
    rw [← Real.sin_add_int_mul_pi, sub_add_cancel]
  have nonneg : 0 ≤ Real.sin (angle / 2 - turn * Real.pi) := by
    apply Real.sin_nonneg_of_nonneg_of_le_pi
    · linarith [inTurn.1]
    · linarith [inTurn.2]
  constructor
  · intro even
    rw [shifted, even.neg_one_zpow, one_mul]
    exact nonneg
  · intro odd
    rw [shifted, (Int.not_even_iff_odd.mp odd).neg_one_zpow, neg_one_mul]
    exact neg_nonpos.mpr nonneg

/-- Between two turns, the angle lies in a turn of either parity. -/
theorem exists_inTurn_of_sin_eq_zero
    {angle : ℝ} (between : Real.sin (angle / 2) = 0) (wanted : ℤ) :
    ∃ turn, InTurn turn angle ∧ (Even turn ↔ Even wanted) := by
  rcases Real.sin_eq_zero_iff.mp between with ⟨turn, turnEq⟩
  have angleEq : angle = turn * (Real.pi + Real.pi) := by linarith
  have above : InTurn turn angle := by
    constructor
    · exact angleEq.ge
    · linarith [Real.pi_pos]
  have below : InTurn (turn - 1) angle := by
    constructor
    · push_cast
      linarith [Real.pi_pos]
    · push_cast
      linarith
  by_cases same : Even turn ↔ Even wanted
  · exact ⟨turn, above, same⟩
  · refine ⟨turn - 1, below, ?_⟩
    rw [Int.even_sub_one]
    tauto

theorem sameParity_iff (left right : ℝ) :
    SameParity left right ↔
      0 ≤ Real.sin (left / 2) * Real.sin (right / 2) := by
  constructor
  · rintro ⟨leftTurn, rightTurn, inLeft, inRight, same⟩
    by_cases even : Even leftTurn
    · exact
        mul_nonneg (inLeft.sin_half.1 even)
          (inRight.sin_half.1 (same.mp even))
    · exact
        mul_nonneg_of_nonpos_of_nonpos (inLeft.sin_half.2 even)
          (inRight.sin_half.2 (same.not.mp even))
  · intro nonneg
    rcases exists_inTurn left with ⟨leftTurn, inLeft⟩
    rcases exists_inTurn right with ⟨rightTurn, inRight⟩
    by_cases same : Even leftTurn ↔ Even rightTurn
    · exact ⟨leftTurn, rightTurn, inLeft, inRight, same⟩
    -- The signs differ, so one of the angles lies between two turns.
    · have nonpos : Real.sin (left / 2) * Real.sin (right / 2) ≤ 0 := by
        by_cases even : Even leftTurn
        · have odd : ¬ Even rightTurn := by tauto
          exact
            mul_nonpos_of_nonneg_of_nonpos (inLeft.sin_half.1 even)
              (inRight.sin_half.2 odd)
        · have evenRight : Even rightTurn := by tauto
          exact
            mul_nonpos_of_nonpos_of_nonneg (inLeft.sin_half.2 even)
              (inRight.sin_half.1 evenRight)
      rcases mul_eq_zero.mp (le_antisymm nonpos nonneg) with
        between | between
      · rcases exists_inTurn_of_sin_eq_zero between rightTurn with
          ⟨turn, inTurn, parity⟩
        exact ⟨turn, rightTurn, inTurn, inRight, parity⟩
      · rcases exists_inTurn_of_sin_eq_zero between leftTurn with
          ⟨turn, inTurn, parity⟩
        exact ⟨leftTurn, turn, inLeft, inTurn, parity.symm⟩

/-! ## Blends -/

theorem blend_sub_measured (gain predicted measured : ℝ) :
    blend gain predicted measured - measured =
      gain * (predicted - measured) := by
  rw [blend]
  ring

/-- When a blend is no further from the measurement than the prediction. -/
theorem arc_blend_le_iff (gain predicted measured : ℝ) :
    arc (blend gain predicted measured) measured ≤
        arc predicted measured ↔
      SameParity ((1 + gain) * (predicted - measured))
        ((1 - gain) * (predicted - measured)) := by
  rw [arc_le_arc_iff, blend_sub_measured, sameParity_iff]
  generalize predicted - measured = difference
  have product :
      Real.cos (gain * difference) - Real.cos difference =
        2 *
          (Real.sin ((1 + gain) * difference / 2) *
            Real.sin ((1 - gain) * difference / 2)) := by
    have half :
        (gain * difference - difference) / 2 =
          -((1 - gain) * difference / 2) := by
      ring
    have sum :
        (gain * difference + difference) / 2 =
          (1 + gain) * difference / 2 := by
      ring
    rw [Real.cos_sub_cos, half, sum, Real.sin_neg]
    ring
  constructor
  · intro closer
    linarith
  · intro same
    linarith

/--
Within a full turn of the measurement, the prediction must leave room for the
blend.
-/
theorem sameParity_blend_iff_of_le
    {gain difference : ℝ} (gainPos : 0 < gain) (gainLt : gain < 1)
    (within : |difference| ≤ Real.pi + Real.pi) :
    SameParity ((1 + gain) * difference) ((1 - gain) * difference) ↔
      (1 + gain) * |difference| ≤ Real.pi + Real.pi := by
  have absolute :
      Real.sin ((1 + gain) * difference / 2) *
          Real.sin ((1 - gain) * difference / 2) =
        Real.sin ((1 + gain) * |difference| / 2) *
          Real.sin ((1 - gain) * |difference| / 2) := by
    rcases abs_cases difference with ⟨same, _⟩ | ⟨opposite, _⟩
    · rw [same]
    · rw [opposite, mul_neg, mul_neg, neg_div, neg_div, Real.sin_neg,
        Real.sin_neg, neg_mul_neg]
  rw [sameParity_iff, absolute]
  rcases (abs_nonneg difference).eq_or_lt with zero | positive
  · rw [← zero]
    simpa using (add_pos Real.pi_pos Real.pi_pos).le
  generalize |difference| = distance at within positive ⊢
  have gainDistance : 0 < gain * distance := mul_pos gainPos positive
  have restDistance : 0 < (1 - gain) * distance :=
    mul_pos (sub_pos.mpr gainLt) positive
  have sinRest : 0 < Real.sin ((1 - gain) * distance / 2) := by
    apply Real.sin_pos_of_pos_of_lt_pi
    · linarith
    · linarith
  rw [mul_nonneg_iff_left_nonneg_of_pos sinRest]
  constructor
  · intro nonneg
    by_contra far
    have sinSum : Real.sin ((1 + gain) * distance / 2 - Real.pi) ≤ 0 := by
      rw [Real.sin_sub_pi]
      exact neg_nonpos.mpr nonneg
    apply sinSum.not_gt
    apply Real.sin_pos_of_pos_of_lt_pi
    · linarith
    · linarith
  · intro near
    apply Real.sin_nonneg_of_nonneg_of_le_pi
    · linarith
    · linarith

end Go2Navigation.Geometry

end
