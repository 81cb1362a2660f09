import Go2Navigation.Attitude.Agreement
import Go2Navigation.Attitude.Filter
import Go2Navigation.Geometry.Arc

/-!
# Which way the filter blends

The filter blends the gyro prediction with the angle of gravity as numbers.
Gravity gives its angle between minus and plus half a turn, so near the seam
two numbers for one attitude are almost a full turn apart, and the blend goes
the long way round.  One integrated step is measured here by arcs: it comes
no further from gravity exactly while the prediction, as a number, leaves
room for the blend.
-/

noncomputable section

namespace Go2Navigation.Attitude

open Go2Navigation.Foundation
open Go2Navigation.Geometry
open Go2Navigation.Numeric

/-- A message which a seeded node in complementary mode integrates. -/
structure FilterStep where
  node : OdomTfBroadcaster ℝ
  msg : Imu ℝ
  filtering : node.Filtering
  seeded : node.haveCfState = true
  cfTau_pos : 0 < node.parameters.cfTau
  valid : 0 ≤ msg.stamp.sec
  integrates : node.Integrates msg.stamp.nanoseconds

namespace FilterStep

/-- The time since the last message. -/
def dt (step : FilterStep) : ℝ :=
  step.node.timeStep step.msg.stamp.nanoseconds

/-- The weight of the prediction. -/
def gain (step : FilterStep) : ℝ :=
  blendGain step.node.parameters.cfTau step.dt

/-- The angle the gyro predicts. -/
def prediction (step : FilterStep) (axis : Axis) : ℝ :=
  step.node.angle axis + step.msg.rate axis * step.dt

/-- How far, as numbers, the prediction is from gravity. -/
def innovation (step : FilterStep) (axis : Axis) : ℝ :=
  step.prediction axis - step.msg.gravityAngle axis

/-- The step takes the angle no further from gravity than the prediction is. -/
def StaysClose (tf2 : Tf2 ℝ) (step : FilterStep) (axis : Axis) : Prop :=
  ∃ next,
    ((odomTfReactor tf2).step (some step.node) (.imu step.msg)).1 =
        some next ∧
      arc (next.angle axis) (step.msg.gravityAngle axis) ≤
        arc (step.prediction axis) (step.msg.gravityAngle axis)

theorem dt_pos (step : FilterStep) : 0 < step.dt := by
  rw [dt]
  exact_mod_cast step.integrates.1

theorem gain_pos (step : FilterStep) : 0 < step.gain :=
  blendGain_pos step.cfTau_pos step.dt_pos

theorem gain_lt_one (step : FilterStep) : step.gain < 1 :=
  blendGain_lt_one step.cfTau_pos step.dt_pos

theorem step_eq (tf2 : Tf2 ℝ) (step : FilterStep) :
    ((odomTfReactor tf2).step (some step.node) (.imu step.msg)).1 =
      some (step.node.integrated step.msg step.msg.stamp.nanoseconds) := by
  have outcome := imuOutcome tf2 step.filtering.1 step.msg
  rw [OdomTfBroadcaster.resolveMode_of_ne_auto step.filtering.2.1]
    at outcome
  generalize
    (odomTfReactor tf2).step (some step.node) (.imu step.msg) = result
    at outcome ⊢
  cases outcome with
  | empty mode _ | orientation mode _ =>
      exact absurd mode step.filtering.2.2
  | throwing _ negative => exact absurd step.valid negative.not_ge
  | seeding _ _ fresh =>
      rw [step.seeded] at fresh
      cases fresh
  | gap _ _ _ outside => exact absurd step.integrates outside
  | step => rfl

theorem staysClose_iff (tf2 : Tf2 ℝ) (step : FilterStep) (axis : Axis) :
    step.StaysClose tf2 axis ↔
      SameParity ((1 + step.gain) * step.innovation axis)
        ((1 - step.gain) * step.innovation axis) := by
  rw [StaysClose, step.step_eq tf2]
  simp only [Option.some.injEq, exists_eq_left']
  rw [OdomTfBroadcaster.angle_integrated]
  exact arc_blend_le_iff _ _ _

theorem staysClose_iff_of_le
    {tf2 : Tf2 ℝ} {step : FilterStep} {axis : Axis}
    (within : |step.innovation axis| ≤ Real.pi + Real.pi) :
    step.StaysClose tf2 axis ↔
      (1 + step.gain) * |step.innovation axis| ≤ Real.pi + Real.pi := by
  rw [step.staysClose_iff tf2]
  exact sameParity_blend_iff_of_le step.gain_pos step.gain_lt_one within

/-- A prediction within half a turn of gravity is blended towards it. -/
theorem staysClose_of_le_pi
    {tf2 : Tf2 ℝ} {step : FilterStep} {axis : Axis}
    (near : |step.innovation axis| ≤ Real.pi) :
    step.StaysClose tf2 axis := by
  have far := near.trans (le_add_of_nonneg_left Real.pi_pos.le)
  rw [staysClose_iff_of_le far]
  have weighted :=
    mul_le_mul_of_nonneg_right step.gain_lt_one.le
      (abs_nonneg (step.innovation axis))
  linarith

/--
An integrated step takes the angle no further from gravity exactly if the
innovation, scaled by one plus and by one minus the gain, lies in full turns
of one parity; for an innovation of at most a full turn, exactly if one plus
the gain of it is at most a full turn.
-/
theorem staysClose_iff_roomForBlend
    (tf2 : Tf2 ℝ) (step : FilterStep) (axis : Axis) :
    (step.StaysClose tf2 axis ↔
      SameParity ((1 + step.gain) * step.innovation axis)
        ((1 - step.gain) * step.innovation axis)) ∧
      (|step.innovation axis| ≤ Real.pi + Real.pi →
        (step.StaysClose tf2 axis ↔
          (1 + step.gain) * |step.innovation axis| ≤
            Real.pi + Real.pi)) := by
  constructor
  · exact step.staysClose_iff tf2 axis
  · exact staysClose_iff_of_le

/-! ## At the seam -/

/-- Gravity at minus three radians, fifty milliseconds after the seed. -/
def seamImu : Imu ℝ where
  stamp := ⟨0, 50 * 10 ^ 6⟩
  orientation := ⟨0, 0, 0, 0⟩
  orientationCovariance := Vector.replicate 9 (-1)
  angularVelocity := ⟨0, 0, 0⟩
  linearAcceleration :=
    ⟨0, Real.sin (literal (-3)), Real.cos (literal (-3))⟩

/-- The filter at a given roll. -/
def nodeAtRoll (roll : ℚ) : OdomTfBroadcaster ℝ :=
  { nodeInMode "complementary" with roll := literal roll }

theorem nodeAtRoll_filtering (roll : ℚ) : (nodeAtRoll roll).Filtering := by
  refine ⟨rfl, ?_, ?_⟩
  · show "complementary" ≠ "auto"
    decide
  · show "complementary" ≠ "quaternion"
    decide

theorem nodeAtRoll_cfTau (roll : ℚ) :
    (nodeAtRoll roll).parameters.cfTau = 1 / 4 := by
  norm_num [nodeAtRoll, nodeInMode, Parameters.defaults, literal]

theorem nodeAtRoll_timeStep (roll : ℚ) :
    (nodeAtRoll roll).timeStep seamImu.stamp.nanoseconds = 1 / 20 := by
  norm_num [nodeAtRoll, nodeInMode, seamImu, OdomTfBroadcaster.timeStep,
    durationSeconds, Stamp.nanoseconds]

theorem nodeAtRoll_cfTau_pos (roll : ℚ) :
    0 < (nodeAtRoll roll).parameters.cfTau := by
  rw [nodeAtRoll_cfTau]
  norm_num

theorem nodeAtRoll_integrates (roll : ℚ) :
    (nodeAtRoll roll).Integrates seamImu.stamp.nanoseconds := by
  rw [OdomTfBroadcaster.Integrates, nodeAtRoll_timeStep]
  norm_num

def atSeam (roll : ℚ) : FilterStep where
  node := nodeAtRoll roll
  msg := seamImu
  filtering := nodeAtRoll_filtering roll
  seeded := rfl
  cfTau_pos := nodeAtRoll_cfTau_pos roll
  valid := le_rfl
  integrates := nodeAtRoll_integrates roll

theorem atSeam_gain (roll : ℚ) : (atSeam roll).gain = 5 / 6 := by
  rw [gain, dt, atSeam, nodeAtRoll_cfTau, nodeAtRoll_timeStep]
  norm_num [blendGain]

theorem atSeam_innovation (roll : ℚ) :
    (atSeam roll).innovation .roll = roll + 3 := by
  have gravity : (atSeam roll).msg.gravityAngle .roll = literal (-3) := by
    have within : (literal (-3) : ℝ) ∈ Set.Ioc (-Real.pi) Real.pi := by
      have three : (literal (-3) : ℝ) = -3 := by norm_num [literal]
      rw [three]
      constructor
      · linarith [Real.pi_gt_three]
      · linarith [Real.pi_pos]
    have angle := arg_scaled_eq one_pos within
    rwa [one_mul, one_mul] at angle
  rw [innovation, gravity, prediction]
  norm_num [atSeam, nodeAtRoll, seamImu, OdomTfBroadcaster.angle, Imu.rate,
    literal]

/-- From minus two radians, a radian away, the step stays close. -/
theorem staysClose_iff_roomForBlend_atSeam :
    (atSeam (-2)).StaysClose Tf2.reference .roll := by
  have distance : |(atSeam (-2)).innovation .roll| = 1 := by
    rw [atSeam_innovation]
    norm_num
  have within :
      |(atSeam (-2)).innovation .roll| ≤ Real.pi + Real.pi := by
    rw [distance]
    linarith [Real.pi_gt_three]
  have exactly :=
    (staysClose_iff_roomForBlend Tf2.reference (atSeam (-2)) .roll).2
      within
  rw [exactly, distance, atSeam_gain]
  linarith [Real.pi_gt_three]

/-- Every step from a roll within half a turn stays close. -/
def BlendsAlongShorterArc (tf2 : Tf2 ℝ) : Prop :=
  ∀ step : FilterStep,
    |step.node.roll| ≤ Real.pi → step.StaysClose tf2 .roll

/-- From three radians, across the seam from gravity, it does not. -/
theorem not_blendsAlongShorterArc :
    ¬ BlendsAlongShorterArc Tf2.reference := by
  intro shorter
  have rollWithin : |(atSeam 3).node.roll| ≤ Real.pi := by
    have three : (atSeam 3).node.roll = 3 := by
      norm_num [atSeam, nodeAtRoll, literal]
    rw [three, abs_of_pos three_pos]
    exact Real.pi_gt_three.le
  have distance : |(atSeam 3).innovation .roll| = 6 := by
    rw [atSeam_innovation]
    norm_num
  have within : |(atSeam 3).innovation .roll| ≤ Real.pi + Real.pi := by
    rw [distance]
    linarith [Real.pi_gt_three]
  have close := shorter (atSeam 3) rollWithin
  rw [staysClose_iff_of_le within, distance, atSeam_gain] at close
  linarith [Real.pi_lt_d2]

end FilterStep

end Go2Navigation.Attitude

end
