import Go2Navigation.Attitude.Agreement
import Go2Navigation.Geometry.FixedAxis

/-!
# Static calibration

The IMU is mounted on the body with a fixed misalignment, and the offsets are
the roll and pitch which it reads while the body stands level.  The node
subtracts them from the angles it reads, but angles about different axes do
not subtract.  The published frame is level when the misalignment is a roll
only, or when the body does not roll.
-/

noncomputable section

namespace Go2Navigation.Attitude

open Go2Navigation.Foundation
open Go2Navigation.Geometry
open Matrix

/--
The vertical, seen from the body, is the vertical of the published frame.
The rotation of a transform takes the axes of the child to the parent, so its
transpose takes directions from the parent to the child.
-/
def GravityLevel
    (body : Matrix3) (transform : TransformStamped ℝ) : Prop :=
  transform.rotation.rotationᵀ *ᵥ (bodyᵀ *ᵥ ![0, 0, 1]) = ![0, 0, 1]

/-- The attitude points straight up or down. -/
def Singular (attitude : Matrix3) : Prop :=
  |(verticalOf attitude).x| = 1

/-- A frame which undoes a tilt is level for the bodies with its vertical. -/
theorem gravityLevel_iff
    {node : OdomTfBroadcaster ℝ} {stamp : Stamp} {roll pitch : ℝ}
    {transform : TransformStamped ℝ}
    (levels : Levels node stamp roll pitch transform) (body : Matrix3) :
    GravityLevel body transform ↔
      (rotY pitch * rotX roll) 2 = body 2 := by
  have tilt := (mem_rotations_iff.mp (tilt_mem roll pitch)).1
  rw [GravityLevel, levels.rotation, inv_eq_transpose tilt,
    Matrix.transpose_transpose, transpose_mulVec_vertical,
    ← transpose_mulVec_vertical (rotY pitch * rotX roll)]
  constructor
  · intro level
    rw [← level, Matrix.mulVec_mulVec, mul_eq_one_comm.mp tilt,
      Matrix.one_mulVec]
  · intro sameVertical
    rw [← sameVertical, Matrix.mulVec_mulVec, tilt, Matrix.one_mulVec]

/-! ## Subtracting angles -/

/--
The misalignment is a roll only; or the body rolls by half turns only, and
its pitch and the misalignment add up within a quarter turn.
-/
def OffsetCommutes (pitchOffset roll pitch : ℝ) : Prop :=
  Real.cos pitchOffset = 1 ∨
    Real.sin roll = 0 ∧
      (Real.sin pitchOffset = 0 ∨
        Real.sin pitch * Real.sin pitchOffset <
          Real.cos pitch * Real.cos roll * Real.cos pitchOffset)

/-! ### The two verticals, entry by entry

The body has the vertical (-s, k u, k v), the offset pitches it by (a, b),
and the angles read from the result, less the offset, have the sines and
cosines S, C and X, Y.
-/

section Verticals

variable {s k u v a b S C X Y : ℝ}
variable (offset : a ^ 2 + b ^ 2 = 1) (rest : X ^ 2 + Y ^ 2 = 1)
variable (sensorRegular : 0 < C) (forward : S = s * b + k * v * a)
variable (left : C * X = k * u) (up : C * Y = k * v * b - s * a)

include offset rest sensorRegular forward left up

/-- Where the verticals agree, the offset is harmless. -/
theorem harmless_of_verticals_agree (bodyRegular : k ≠ 0)
    (level : S * b - C * a = s)
    (levelLeft : (C * b + S * a) * X = k * u) :
    b = 1 ∨ u = 0 ∧ (a = 0 ∨ s * a < k * v * b) := by
  have factor : a * (k * v * b - s * a - C) = 0 := by
    linear_combination level - b * forward - s * offset
  rcases mul_eq_zero.mp factor with noPitch | upright
  · rw [noPitch] at offset levelLeft
    have halfTurns : (b - 1) * (b + 1) = 0 := by
      linear_combination offset
    rcases mul_eq_zero.mp halfTurns with same | opposite
    · exact Or.inl (sub_eq_zero.mp same)
    · have turned : b = -1 := eq_neg_of_add_eq_zero_left opposite
      rw [turned] at levelLeft
      have noRoll : k * u = 0 := by linarith
      exact
        Or.inr
          ⟨(mul_eq_zero.mp noRoll).resolve_left bodyRegular,
            Or.inl noPitch⟩
  · have upEq : Y = 1 := by
      apply mul_left_cancel₀ sensorRegular.ne'
      linarith
    have leftEq : X = 0 := by
      rw [upEq] at rest
      apply (pow_eq_zero_iff two_ne_zero).mp
      linarith
    rw [leftEq, mul_zero] at left
    refine
      Or.inr
        ⟨(mul_eq_zero.mp left.symm).resolve_left bodyRegular, Or.inr ?_⟩
    linarith

/-- Without a pitch offset, or with no roll of the body, the verticals agree. -/
theorem verticals_agree_of_harmless
    (harmless : b = 1 ∨ u = 0 ∧ (a = 0 ∨ s * a < k * v * b)) :
    S * b - C * a = s ∧ (C * b + S * a) * X = k * u ∧
      (C * b + S * a) * Y = k * v := by
  rcases harmless with noOffset | ⟨noRoll, noPitch | upright⟩
  · have noPitch : a = 0 := by
      rw [noOffset] at offset
      apply (pow_eq_zero_iff two_ne_zero).mp
      linarith
    subst noOffset noPitch
    refine ⟨by linarith, ?_, ?_⟩
    · linear_combination left
    · linear_combination up
  · subst noRoll noPitch
    have square : b * b = 1 := by linear_combination offset
    have leftEq : X = 0 := by
      rw [mul_zero] at left
      exact (mul_eq_zero.mp left).resolve_left sensorRegular.ne'
    refine ⟨?_, ?_, ?_⟩
    · linear_combination b * forward + s * square
    · rw [leftEq]
      ring
    · linear_combination b * up + k * v * square
  · rw [noRoll, mul_zero] at left ⊢
    have leftEq : X = 0 :=
      (mul_eq_zero.mp left).resolve_left sensorRegular.ne'
    have upPos : 0 < Y := by
      by_contra notUp
      have down :=
        mul_nonpos_of_nonneg_of_nonpos sensorRegular.le (not_lt.mp notUp)
      linarith
    have upEq : Y = 1 := by
      rw [leftEq] at rest
      nlinarith
    rw [upEq, mul_one] at up
    rw [upEq, leftEq]
    refine ⟨?_, by ring, ?_⟩
    · linear_combination b * forward - a * up + s * offset
    · linear_combination b * up + a * forward + k * v * offset

end Verticals

/-- The last row of a tilt which is pitched first. -/
theorem pitched_vertical (roll pitch first : ℝ) :
    (rotY pitch * rotX roll * rotY first) 2 =
      ![-(Real.sin pitch * Real.cos first +
            Real.cos pitch * Real.cos roll * Real.sin first),
        Real.cos pitch * Real.sin roll,
        Real.cos pitch * Real.cos roll * Real.cos first -
          Real.sin pitch * Real.sin first] := by
  rw [Matrix.mul_apply_eq_vecMul, tilt_vertical]
  ext column
  fin_cases column <;>
    simp [Matrix.vecMul, dotProduct, Fin.sum_univ_three, rotY] <;>
    ring

/--
Less the offset, the angles of a sensor on a tilted body have the vertical of
the body exactly if the offset commutes with the tilt.
-/
theorem tilt_less_offset_iff
    {rollOffset pitchOffset roll pitch sensorRoll sensorPitch : ℝ}
    (bodyRegular : Real.cos pitch ≠ 0)
    (sensorRegular : 0 < Real.cos sensorPitch)
    (sensor :
      (rotY sensorPitch * rotX sensorRoll) 2 =
        (rotY pitch * rotX roll *
          (rotY pitchOffset * rotX rollOffset)) 2) :
    (rotY (sensorPitch - pitchOffset) *
          rotX (sensorRoll - rollOffset)) 2 =
        (rotY pitch * rotX roll) 2 ↔
      OffsetCommutes pitchOffset roll pitch := by
  -- The roll of the misalignment is undone on the right of both sides.
  have unrolled :
      (rotY sensorPitch * rotX (sensorRoll - rollOffset)) 2 =
        (rotY pitch * rotX roll * rotY pitchOffset) 2 := by
    calc
      (rotY sensorPitch * rotX (sensorRoll - rollOffset)) 2 =
          (rotY sensorPitch * rotX sensorRoll) 2 ᵥ*
            (rotX rollOffset)ᵀ := by
        rw [← rotX_mul_transpose_rotX, ← Matrix.mul_assoc,
          Matrix.mul_apply_eq_vecMul]
      _ = (rotY pitch * rotX roll *
            (rotY pitchOffset * rotX rollOffset)) 2 ᵥ*
              (rotX rollOffset)ᵀ := by
        rw [sensor]
      _ = (rotY pitch * rotX roll * rotY pitchOffset) 2 := by
        rw [← Matrix.mul_apply_eq_vecMul, Matrix.mul_assoc,
          Matrix.mul_assoc (rotY pitchOffset), rotX_mul_transpose,
          Matrix.mul_one]
  rw [tilt_vertical, pitched_vertical] at unrolled
  have forward := neg_injective (congrFun unrolled 0)
  have left := congrFun unrolled 1
  have up := congrFun unrolled 2
  have offset := Real.sin_sq_add_cos_sq pitchOffset
  have rest := Real.sin_sq_add_cos_sq (sensorRoll - rollOffset)
  rw [tilt_vertical, tilt_vertical, Real.sin_sub sensorPitch,
    Real.cos_sub sensorPitch]
  constructor
  · intro agree
    have level := neg_injective (congrFun agree 0)
    have levelLeft := congrFun agree 1
    exact
      harmless_of_verticals_agree offset rest sensorRegular forward left up
        bodyRegular level levelLeft
  · intro commutes
    rcases
      verticals_agree_of_harmless offset rest sensorRegular forward left up
        commutes with
      ⟨level, levelLeft, levelUp⟩
    rw [level, levelLeft, levelUp]

/-! ## What the node publishes -/

section Sources

variable {tf2 : Tf2 ℝ} (documented : tf2.Documented)
variable {node : OdomTfBroadcaster ℝ} {roll pitch : ℝ}

/-- The attitude of the IMU on a tilted body, whose offsets are its misalignment. -/
def sensorAttitude
    (node : OdomTfBroadcaster ℝ) (roll pitch : ℝ) : Matrix3 :=
  rotY pitch * rotX roll *
    (rotY node.parameters.pitchOffset * rotX node.parameters.rollOffset)

/-- A frame published for the angles of the sensor is level if the offset commutes. -/
theorem gravityLevel_of_sensor
    {stamp : Stamp} {sensorRoll sensorPitch sensorYaw : ℝ}
    {transform : TransformStamped ℝ}
    (bodyRegular : ¬ Singular (rotY pitch * rotX roll))
    (within : |sensorPitch| < Real.pi / 2)
    (sensor :
      sensorAttitude node roll pitch =
        fixedAxis sensorRoll sensorPitch sensorYaw)
    (levels :
      Levels node stamp (sensorRoll - node.parameters.rollOffset)
        (sensorPitch - node.parameters.pitchOffset) transform) :
    GravityLevel (rotY pitch * rotX roll) transform ↔
      OffsetCommutes node.parameters.pitchOffset roll pitch := by
  have bodyPlanar : Real.cos pitch ≠ 0 := by
    intro upright
    apply bodyRegular
    have vertical :
        (verticalOf (rotY pitch * rotX roll)).x = -Real.sin pitch :=
      congrFun (tilt_vertical roll pitch) 0
    rw [Singular, vertical, abs_neg, abs_eq zero_le_one]
    exact Real.cos_eq_zero_iff_sin_eq.mp upright
  have sensorPlanar : 0 < Real.cos sensorPitch :=
    Real.cos_pos_of_mem_Ioo (abs_lt.mp within)
  have sameVertical :
      (rotY sensorPitch * rotX sensorRoll) 2 =
        sensorAttitude node roll pitch 2 := by
    rw [sensor, fixedAxis_vertical, tilt_vertical]
  rw [gravityLevel_iff levels]
  exact tilt_less_offset_iff bodyPlanar sensorPlanar sameVertical

include documented

/--
With the misalignment of the IMU as its offsets, the node publishes a level
frame for a tilted body exactly if the pitch offset commutes with the tilt,
from the orientation of the IMU as well as from gravity.
-/
theorem gravityLevel_iff_offsetCommutes
    (bodyRegular : ¬ Singular (rotY pitch * rotX roll))
    (sensorRegular : ¬ Singular (sensorAttitude node roll pitch)) :
    (∀ msg : Imu ℝ,
      (node.resolveMode msg).resolvedMode = "quaternion" →
        msg.orientation.Denotes (sensorAttitude node roll pitch) →
          ∃ next transform,
            node.onImu tf2 msg = some (next, [transform]) ∧
              (GravityLevel (rotY pitch * rotX roll) transform ↔
                OffsetCommutes node.parameters.pitchOffset roll
                  pitch)) ∧
      (∀ (msg : Imu ℝ) (time : ℤ) (strength : ℝ),
        (node.resolveMode msg).resolvedMode ≠ "quaternion" →
          node.haveCfState = true →
            msg.stamp.toTime = some time →
              ¬ node.Integrates time → 0 < strength →
                msg.linearAcceleration.IsGravity strength
                    (sensorAttitude node roll pitch) →
                  ∃ next transform,
                    node.onImu tf2 msg = some (next, [transform]) ∧
                      (GravityLevel (rotY pitch * rotX roll)
                          transform ↔
                        OffsetCommutes node.parameters.pitchOffset roll
                          pitch)) := by
  have member : sensorAttitude node roll pitch ∈ Rotations :=
    mul_mem (tilt_mem _ _) (tilt_mem _ _)
  rcases exists_fixedAxis member sensorRegular with
    ⟨sensorRoll, sensorPitch, sensorYaw, within, sensor⟩
  constructor
  · intro msg mode denotes
    rw [sensor] at denotes
    rcases levels_of_orientation documented mode within denotes with
      ⟨next, transform, published, levels⟩
    exact
      ⟨next, transform, published,
        gravityLevel_of_sensor bodyRegular within sensor levels⟩
  · intro msg time strength mode seeded timeEq gap positive gravity
    rw [sensor] at gravity
    rcases levels_of_gravity documented mode seeded timeEq gap within
        positive gravity with
      ⟨next, transform, published, levels⟩
    exact
      ⟨next, transform, published,
        gravityLevel_of_sensor bodyRegular within sensor levels⟩

end Sources

/-! ## A misaligned IMU -/

/-- A node whose IMU is rolled by one radian and pitched back by one. -/
def misalignedNode (mode : String) : OdomTfBroadcaster ℝ :=
  { nodeInMode mode with
    parameters :=
      { (nodeInMode mode).parameters with
        rollOffset := 1
        pitchOffset := -1 } }

/-- What the IMU of a node reads on a tilted body at rest. -/
def sensorImu (node : OdomTfBroadcaster ℝ) (roll pitch : ℝ) : Imu ℝ where
  stamp := ⟨0, 0⟩
  orientation :=
    .ofHamilton
      (ofRollPitchYaw roll pitch 0 *
        ofRollPitchYaw node.parameters.rollOffset
          node.parameters.pitchOffset 0)
  orientationCovariance := Vector.replicate 9 0
  angularVelocity := ⟨0, 0, 0⟩
  linearAcceleration := verticalOf (sensorAttitude node roll pitch)

theorem sensorImu_denotes (node : OdomTfBroadcaster ℝ) (roll pitch : ℝ) :
    (sensorImu node roll pitch).orientation.Denotes
      (sensorAttitude node roll pitch) := by
  constructor
  · have unit : (sensorImu node roll pitch).orientation.normSq = 1 := by
      rw [QuaternionMsg.normSq, sensorImu,
        QuaternionMsg.hamilton_ofHamilton, map_mul,
        normSq_ofRollPitchYaw, normSq_ofRollPitchYaw, mul_one]
    rw [QuaternionMsg.Unfilled, unit]
    norm_num
  · rw [QuaternionMsg.rotation, sensorImu,
      QuaternionMsg.hamilton_ofHamilton, Geometry.rotation_mul,
      rotation_ofRollPitchYaw, rotation_ofRollPitchYaw, fixedAxis_tilt,
      fixedAxis_tilt, sensorAttitude]

theorem sensorImu_isGravity
    (node : OdomTfBroadcaster ℝ) (roll pitch : ℝ) :
    (sensorImu node roll pitch).linearAcceleration.IsGravity 1
      (sensorAttitude node roll pitch) := by
  rw [Vector3.IsGravity, one_smul, transpose_mulVec_vertical]
  ext column
  fin_cases column <;> rfl

theorem sin_one_pos : 0 < Real.sin 1 :=
  Real.sin_pos_of_pos_of_le_one one_pos le_rfl

/-- A pitch offset and a roll of the body do not commute. -/
theorem not_offsetCommutes_rolled : ¬ OffsetCommutes (-1) 1 0 := by
  have rolls := sin_one_pos
  rintro (noOffset | ⟨noRoll, _⟩)
  · rw [Real.cos_neg] at noOffset
    nlinarith [Real.sin_sq_add_cos_sq 1]
  · exact rolls.ne' noRoll

/-- On a body which only rolls, the misaligned IMU is not singular. -/
theorem misalignedNode_regular (mode : String) (roll : ℝ) :
    ¬ Singular (rotY 0 * rotX roll) ∧
      ¬ Singular (sensorAttitude (misalignedNode mode) roll 0) := by
  have bodyForward : (verticalOf (rotY 0 * rotX roll)).x = 0 := by
    rw [verticalOf, tilt_vertical]
    simp
  have sensorForward :
      (verticalOf (sensorAttitude (misalignedNode mode) roll 0)).x =
        Real.cos roll * Real.sin 1 := by
    rw [verticalOf, sensorAttitude, ← Matrix.mul_assoc, Matrix.mul_apply,
      pitched_vertical, Fin.sum_univ_three]
    simp [misalignedNode, rotX]
  have sinPos := sin_one_pos
  have sinLt : Real.sin 1 < 1 := by
    nlinarith [Real.sin_sq_add_cos_sq 1, Real.cos_one_pos]
  constructor
  · rw [Singular, bodyForward, abs_zero]
    exact zero_ne_one
  · rw [Singular, sensorForward, abs_mul, abs_of_pos sinPos]
    apply ne_of_lt
    calc
      |Real.cos roll| * Real.sin 1 ≤ 1 * Real.sin 1 :=
        mul_le_mul_of_nonneg_right (Real.abs_cos_le_one roll) sinPos.le
      _ < 1 := by rwa [one_mul]

/--
In the pose of the calibration the frame is level, whatever the misalignment;
on a body which rolls by one radian it is not.
-/
theorem gravityLevel_iff_offsetCommutes_level :
    ((∃ next transform,
        (misalignedNode "quaternion").onImu Tf2.reference
              (sensorImu (misalignedNode "quaternion") 0 0) =
            some (next, [transform]) ∧
          GravityLevel (rotY 0 * rotX 0) transform) ∧
        ∃ next transform,
          (misalignedNode "complementary").onImu Tf2.reference
                (sensorImu (misalignedNode "complementary") 0 0) =
              some (next, [transform]) ∧
            GravityLevel (rotY 0 * rotX 0) transform) ∧
      (∃ next transform,
        (misalignedNode "quaternion").onImu Tf2.reference
              (sensorImu (misalignedNode "quaternion") 1 0) =
            some (next, [transform]) ∧
          ¬ GravityLevel (rotY 0 * rotX 1) transform) ∧
        ∃ next transform,
          (misalignedNode "complementary").onImu Tf2.reference
                (sensorImu (misalignedNode "complementary") 1 0) =
              some (next, [transform]) ∧
            ¬ GravityLevel (rotY 0 * rotX 1) transform := by
  have fromOrientation (roll : ℝ) :=
    (gravityLevel_iff_offsetCommutes Tf2.reference_documented
      (misalignedNode_regular "quaternion" roll).1
      (misalignedNode_regular "quaternion" roll).2).1
      (sensorImu (misalignedNode "quaternion") roll 0) rfl
      (sensorImu_denotes _ roll 0)
  have fromGravity (roll : ℝ) :=
    (gravityLevel_iff_offsetCommutes Tf2.reference_documented
      (misalignedNode_regular "complementary" roll).1
      (misalignedNode_regular "complementary" roll).2).2
      (sensorImu (misalignedNode "complementary") roll 0) 0 1
      (show "complementary" ≠ "quaternion" by decide) rfl rfl
      (by
        simp [OdomTfBroadcaster.Integrates, OdomTfBroadcaster.timeStep,
          durationSeconds, misalignedNode, nodeInMode])
      one_pos (sensorImu_isGravity _ roll 0)
  have commutes : OffsetCommutes (-1) 0 0 := by
    right
    simp [Real.cos_one_pos]
  refine ⟨⟨?_, ?_⟩, ?_, ?_⟩
  · rcases fromOrientation 0 with ⟨next, transform, published, level⟩
    exact ⟨next, transform, published, level.mpr commutes⟩
  · rcases fromGravity 0 with ⟨next, transform, published, level⟩
    exact ⟨next, transform, published, level.mpr commutes⟩
  · rcases fromOrientation 1 with ⟨next, transform, published, level⟩
    exact ⟨next, transform, published, not_offsetCommutes_rolled ∘ level.mp⟩
  · rcases fromGravity 1 with ⟨next, transform, published, level⟩
    exact ⟨next, transform, published, not_offsetCommutes_rolled ∘ level.mp⟩

/-- A body which rolls by one radian is not levelled. -/
theorem not_gravityLevel_rolled :
    ¬ Singular (rotY 0 * rotX 1) ∧
      ¬ Singular (sensorAttitude (misalignedNode "quaternion") 1 0) ∧
        (sensorImu (misalignedNode "quaternion") 1 0).orientation.Denotes
            (sensorAttitude (misalignedNode "quaternion") 1 0) ∧
          ∃ next transform,
            (misalignedNode "quaternion").onImu Tf2.reference
                  (sensorImu (misalignedNode "quaternion") 1 0) =
                some (next, [transform]) ∧
              ¬ GravityLevel (rotY 0 * rotX 1) transform := by
  have regular := misalignedNode_regular "quaternion" 1
  have denotes := sensorImu_denotes (misalignedNode "quaternion") 1 0
  have member :
      sensorAttitude (misalignedNode "quaternion") 1 0 ∈ Rotations :=
    mul_mem (tilt_mem _ _) (tilt_mem _ _)
  rcases exists_fixedAxis member regular.2 with
    ⟨sensorRoll, sensorPitch, sensorYaw, within, sensor⟩
  have sensorDenotes := denotes
  rw [sensor] at sensorDenotes
  have mode :
      ((misalignedNode "quaternion").resolveMode
          (sensorImu (misalignedNode "quaternion") 1 0)).resolvedMode =
        "quaternion" := rfl
  rcases
    levels_of_orientation Tf2.reference_documented mode within
      sensorDenotes with
    ⟨next, transform, published, levels⟩
  refine ⟨regular.1, regular.2, denotes, next, transform, published, ?_⟩
  rw [gravityLevel_of_sensor regular.1 within sensor levels]
  exact not_offsetCommutes_rolled

end Go2Navigation.Attitude

end
