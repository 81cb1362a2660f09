import Go2Navigation.Attitude.Documented
import Go2Navigation.Attitude.OdomTf
import Mathlib.Analysis.Real.Pi.Bounds

/-!
# The three attitude sources

The stabilised frame can come from the leg odometry, from the orientation of
the IMU, or from gravity.  Away from the pitch singularity, and without a
static offset, the three publish one rotation: the roll and pitch of the body
undone.  Composed with the odometry transform it leaves the heading.
-/

noncomputable section

namespace Go2Navigation.Attitude

open Go2Navigation.Foundation
open Go2Navigation.Geometry
open Matrix

/-- Any quaternion of an attitude which the nodes do not take for an empty one. -/
def QuaternionMsg.Denotes (q : QuaternionMsg ℝ) (attitude : Matrix3) :
    Prop :=
  ¬ q.Unfilled ∧ q.rotation = attitude

/-- The specific force of a body at rest: gravity's reaction, in its axes. -/
def Vector3.IsGravity (acceleration : Vector3 ℝ) (strength : ℝ)
    (attitude : Matrix3) : Prop :=
  ![acceleration.x, acceleration.y, acceleration.z] =
    strength • (attitudeᵀ *ᵥ ![0, 0, 1])

/-- Gravity alone gives the roll up to full turns, and the pitch. -/
theorem angles_of_isGravity
    {acceleration : Vector3 ℝ} {strength roll pitch yaw : ℝ}
    (positive : 0 < strength) (within : |pitch| < Real.pi / 2)
    (gravity :
      acceleration.IsGravity strength (fixedAxis roll pitch yaw)) :
    ((rollAcc acceleration : ℝ) : Real.Angle) = roll ∧
      pitchAcc acceleration = pitch := by
  have cosPos : 0 < Real.cos pitch :=
    Real.cos_pos_of_mem_Ioo (abs_lt.mp within)
  have scalePos := mul_pos positive cosPos
  rw [Vector3.IsGravity, transpose_mulVec_vertical, fixedAxis_vertical]
    at gravity
  have forceX : acceleration.x = strength * -Real.sin pitch :=
    congrFun gravity 0
  have forceY :
      acceleration.y = strength * Real.cos pitch * Real.sin roll :=
    (congrFun gravity 1).trans (mul_assoc _ _ _).symm
  have forceZ :
      acceleration.z = strength * Real.cos pitch * Real.cos roll :=
    (congrFun gravity 2).trans (mul_assoc _ _ _).symm
  constructor
  · rw [rollAcc, forceY, forceZ]
    exact arg_scaled_coe scalePos roll
  · have planar :
        acceleration.y * acceleration.y + acceleration.z * acceleration.z =
          strength * Real.cos pitch * (strength * Real.cos pitch) := by
      rw [forceY, forceZ]
      linear_combination
        (strength * Real.cos pitch) ^ 2 * Real.sin_sq_add_cos_sq roll
    have planarRoot :
        Transcendental.sqrt
            (acceleration.y * acceleration.y +
              acceleration.z * acceleration.z) =
          strength * Real.cos pitch := by
      rw [planar]
      exact Real.sqrt_mul_self scalePos.le
    have raised : -acceleration.x = strength * Real.sin pitch := by
      rw [forceX]
      ring
    rw [pitchAcc, planarRoot, raised]
    exact arg_scaled_eq_of_abs_lt positive within

/-- What a stabilised transform must be for a body with this roll and pitch. -/
structure Levels
    (node : OdomTfBroadcaster ℝ) (stamp : Stamp) (roll pitch : ℝ)
    (transform : TransformStamped ℝ) : Prop where
  stamp : transform.stamp = stamp
  frameId : transform.frameId = node.parameters.baseFrame
  childFrameId : transform.childFrameId = node.parameters.stabilizedFrame
  rotation : transform.rotation.rotation = (rotY pitch * rotX roll)⁻¹

section Sources

variable {tf2 : Tf2 ℝ} (documented : tf2.Documented)
include documented

/-- Sending a unit quaternion sends its rotation. -/
theorem levels_sendStabilized
    (node : OdomTfBroadcaster ℝ) (stamp : Stamp) {roll pitch : ℝ}
    {q : QuaternionMsg ℝ} (unit : q.normSq = 1)
    (denotes : q.rotation = (rotY pitch * rotX roll)ᵀ) :
    Levels node stamp roll pitch (node.sendStabilized tf2 stamp q) where
  stamp := rfl
  frameId := rfl
  childFrameId := rfl
  rotation := by
    rw [OdomTfBroadcaster.sendStabilized,
      documented.rotation_normalize (unit ▸ one_ne_zero), denotes,
      inv_eq_transpose
        (mul_mul_transpose (rotY_mul_transpose pitch)
          (rotX_mul_transpose roll))]

/-- A normalised quaternion of an attitude gives back its angles. -/
theorem getRPY_of_denotes
    {q : QuaternionMsg ℝ} {roll pitch yaw : ℝ}
    (within : |pitch| < Real.pi / 2)
    (denotes : q.Denotes (fixedAxis roll pitch yaw)) :
    ((tf2.getRPY (tf2.normalize q)).roll : Real.Angle) = roll ∧
      (tf2.getRPY (tf2.normalize q)).pitch = pitch ∧
        ((tf2.getRPY (tf2.normalize q)).yaw : Real.Angle) = yaw := by
  have nonzero := QuaternionMsg.normSq_ne_zero denotes.1
  apply documented.getRPY _ _ _ _ (documented.normSq_normalize nonzero)
    within
  rw [documented.rotation_normalize nonzero, denotes.2]

/-- The odometry source: the yaw split off the quaternion. -/
theorem levels_of_odom
    (node : OdomTfBroadcaster ℝ) {msg : Odometry ℝ} {roll pitch yaw : ℝ}
    (within : |pitch| < Real.pi / 2)
    (denotes : msg.orientation.Denotes (fixedAxis roll pitch yaw)) :
    ∃ transform,
      node.publishStabilizedFromOdom tf2 msg = [transform] ∧
        Levels node msg.stamp roll pitch transform := by
  have kept := (documented.length2_lt_iff _).not.mpr denotes.1
  have nonzero := QuaternionMsg.normSq_ne_zero denotes.1
  have angles := getRPY_of_denotes documented within denotes
  rw [OdomTfBroadcaster.publishStabilizedFromOdom, if_neg kept]
  refine ⟨_, rfl, ?_⟩
  apply levels_sendStabilized documented
  · rw [documented.normSq_inverse, documented.normSq_mul,
      documented.normSq_inverse, documented.setRPY_normSq,
      documented.normSq_normalize nonzero, mul_one]
  · rw [documented.rotation_inverse, documented.rotation_mul,
      documented.rotation_inverse, documented.setRPY,
      documented.rotation_normalize nonzero, denotes.2]
    rw [literal, Rat.cast_zero, fixedAxis_yaw, rotZ_congr angles.2.2,
      transpose_rotZ_mul_fixedAxis]

/-- The tail of the IMU source undoes the angles it is given, less the offset. -/
theorem levels_stabilizedFromTilt
    (node : OdomTfBroadcaster ℝ) (stamp : Stamp)
    {roll pitch rollRead pitchRead : ℝ}
    (rollEq : (rollRead : Real.Angle) = roll)
    (pitchEq : pitchRead = pitch) :
    Levels node stamp (roll - node.parameters.rollOffset)
      (pitch - node.parameters.pitchOffset)
      (node.stabilizedFromTilt tf2 stamp rollRead pitchRead) := by
  have rollCorr :
      ((rollRead - node.parameters.rollOffset : ℝ) : Real.Angle) =
        ((roll - node.parameters.rollOffset : ℝ) : Real.Angle) := by
    rw [Real.Angle.coe_sub, Real.Angle.coe_sub, rollEq]
  apply levels_sendStabilized documented
  · rw [documented.normSq_inverse, documented.setRPY_normSq]
  · rw [documented.rotation_inverse, documented.setRPY, literal,
      Rat.cast_zero, fixedAxis_tilt, rotX_congr rollCorr, pitchEq]

/-- The orientation source. -/
theorem levels_of_orientation
    {node : OdomTfBroadcaster ℝ} {msg : Imu ℝ} {roll pitch yaw : ℝ}
    (mode : (node.resolveMode msg).resolvedMode = "quaternion")
    (within : |pitch| < Real.pi / 2)
    (denotes : msg.orientation.Denotes (fixedAxis roll pitch yaw)) :
    ∃ next transform,
      node.onImu tf2 msg = some (next, [transform]) ∧
        Levels node msg.stamp (roll - node.parameters.rollOffset)
          (pitch - node.parameters.pitchOffset) transform := by
  have kept := (documented.length2_lt_iff _).not.mpr denotes.1
  have angles := getRPY_of_denotes documented within denotes
  refine
    ⟨_, _, OdomTfBroadcaster.onImu_of_orientation tf2 mode kept, ?_⟩
  have levels :=
    levels_stabilizedFromTilt documented (node.resolveMode msg) msg.stamp
      angles.1 angles.2.1
  rw [OdomTfBroadcaster.resolveMode_parameters] at levels
  exact
    ⟨levels.stamp, by simpa using levels.frameId,
      by simpa using levels.childFrameId, levels.rotation⟩

/-- The gravity source, on a message which resynchronises the filter. -/
theorem levels_of_gravity
    {node : OdomTfBroadcaster ℝ} {msg : Imu ℝ} {roll pitch yaw : ℝ}
    {strength : ℝ} {time : ℤ}
    (mode : (node.resolveMode msg).resolvedMode ≠ "quaternion")
    (seeded : node.haveCfState = true)
    (timeEq : msg.stamp.toTime = some time)
    (gap : ¬ node.Integrates time)
    (within : |pitch| < Real.pi / 2) (positive : 0 < strength)
    (gravity :
      msg.linearAcceleration.IsGravity strength
        (fixedAxis roll pitch yaw)) :
    ∃ next transform,
      node.onImu tf2 msg = some (next, [transform]) ∧
        Levels node msg.stamp (roll - node.parameters.rollOffset)
          (pitch - node.parameters.pitchOffset) transform := by
  have angles := angles_of_isGravity positive within gravity
  have resolvedGap : ¬ (node.resolveMode msg).Integrates time := by
    simpa [OdomTfBroadcaster.Integrates, OdomTfBroadcaster.timeStep]
      using gap
  have filtered :=
    OdomTfBroadcaster.complementaryFilter_of_gap timeEq
      (by simpa using seeded) resolvedGap
  have handled := OdomTfBroadcaster.onImu_of_filtering tf2 mode
  rw [filtered] at handled
  refine ⟨_, _, handled, ?_⟩
  have levels :=
    levels_stabilizedFromTilt documented
      ((node.resolveMode msg).resynced msg time) msg.stamp
      angles.1 angles.2
  have sameParameters :
      ((node.resolveMode msg).resynced msg time).parameters =
        node.parameters :=
    node.resolveMode_parameters msg
  rw [sameParameters] at levels
  exact
    ⟨levels.stamp, levels.frameId.trans (by rw [sameParameters]),
      levels.childFrameId.trans (by rw [sameParameters]),
      levels.rotation⟩

end Sources

/--
The odometry transform of the same attitude, followed by this transform, is
a level frame with the heading of the body.
-/
def KeepsHeading
    (tf2 : Tf2 ℝ) (node : OdomTfBroadcaster ℝ) (roll pitch yaw : ℝ)
    (transform : TransformStamped ℝ) : Prop :=
  ∀ odometry : Odometry ℝ,
    odometry.orientation.Denotes (fixedAxis roll pitch yaw) →
      ∃ base rest,
        node.onOdom tf2 odometry = base :: rest ∧
          base.rotation.rotation * transform.rotation.rotation = rotZ yaw

theorem Levels.keepsHeading
    {node : OdomTfBroadcaster ℝ} {stamp : Stamp} {roll pitch : ℝ}
    {transform : TransformStamped ℝ}
    (levels : Levels node stamp roll pitch transform)
    (tf2 : Tf2 ℝ) (yaw : ℝ) :
    KeepsHeading tf2 node roll pitch yaw transform := by
  intro odometry denotes
  refine ⟨_, _, rfl, ?_⟩
  rw [denotes.2, levels.rotation, fixedAxis_mul_inv_tilt]

/--
For every attitude away from the pitch singularity the odometry source, the
orientation source and the gravity source publish the same rotation, the roll
and pitch of the body undone, and it keeps the heading.
-/
theorem attitude_sources_agree
    {tf2 : Tf2 ℝ} (documented : tf2.Documented)
    (node : OdomTfBroadcaster ℝ)
    (noRollOffset : node.parameters.rollOffset = 0)
    (noPitchOffset : node.parameters.pitchOffset = 0)
    (roll yaw : ℝ) {pitch : ℝ} (within : |pitch| < Real.pi / 2) :
    (∀ msg : Odometry ℝ,
      msg.orientation.Denotes (fixedAxis roll pitch yaw) →
        ∃ transform,
          node.publishStabilizedFromOdom tf2 msg = [transform] ∧
            Levels node msg.stamp roll pitch transform ∧
              KeepsHeading tf2 node roll pitch yaw transform) ∧
      (∀ msg : Imu ℝ,
        (node.resolveMode msg).resolvedMode = "quaternion" →
          msg.orientation.Denotes (fixedAxis roll pitch yaw) →
            ∃ next transform,
              node.onImu tf2 msg = some (next, [transform]) ∧
                Levels node msg.stamp roll pitch transform ∧
                  KeepsHeading tf2 node roll pitch yaw transform) ∧
        (∀ (msg : Imu ℝ) (time : ℤ) (strength : ℝ),
          (node.resolveMode msg).resolvedMode ≠ "quaternion" →
            node.haveCfState = true →
              msg.stamp.toTime = some time →
                ¬ node.Integrates time → 0 < strength →
                  msg.linearAcceleration.IsGravity strength
                      (fixedAxis roll pitch yaw) →
                    ∃ next transform,
                      node.onImu tf2 msg = some (next, [transform]) ∧
                        Levels node msg.stamp roll pitch transform ∧
                          KeepsHeading tf2 node roll pitch yaw
                            transform) := by
  refine ⟨?_, ?_, ?_⟩
  · intro msg denotes
    rcases levels_of_odom documented node within denotes with
      ⟨transform, published, levels⟩
    exact ⟨transform, published, levels, levels.keepsHeading tf2 yaw⟩
  · intro msg mode denotes
    rcases levels_of_orientation documented mode within denotes with
      ⟨next, transform, published, levels⟩
    rw [noRollOffset, noPitchOffset, sub_zero, sub_zero] at levels
    exact
      ⟨next, transform, published, levels, levels.keepsHeading tf2 yaw⟩
  · intro msg time strength mode seeded timeEq gap positive gravity
    rcases levels_of_gravity documented mode seeded timeEq gap within
        positive gravity with
      ⟨next, transform, published, levels⟩
    rw [noRollOffset, noPitchOffset, sub_zero, sub_zero] at levels
    exact
      ⟨next, transform, published, levels, levels.keepsHeading tf2 yaw⟩

/-! ## One attitude, read three times -/

/-- A node which has received a message stamped zero in the given mode. -/
def nodeInMode (mode : String) : OdomTfBroadcaster ℝ where
  parameters := { Parameters.defaults with tiltSource := "imu" }
  useImuTilt := true
  resolvedMode := mode
  haveCfState := true
  roll := 0
  pitch := 0
  lastImuTime := 0

theorem nodeInMode_offsets (mode : String) :
    (nodeInMode mode).parameters.rollOffset = 0 ∧
      (nodeInMode mode).parameters.pitchOffset = 0 :=
  ⟨Rat.cast_zero, Rat.cast_zero⟩

/-- A body with roll, pitch and yaw. -/
def tiltedAttitude : Matrix3 :=
  fixedAxis 1 (-1) 1

/-- A quaternion of that body, negated and not normalised. -/
def tiltedOrientation : QuaternionMsg ℝ :=
  .ofHamilton ((-Real.pi) • ofRollPitchYaw 1 (-1) 1)

def tiltedOdometry : Odometry ℝ where
  stamp := ⟨0, 0⟩
  position := ⟨0, 0, 0⟩
  orientation := tiltedOrientation

/-- A repeated stamp: the filter resynchronises. -/
def tiltedImu : Imu ℝ where
  stamp := ⟨0, 0⟩
  orientation := tiltedOrientation
  orientationCovariance := Vector.replicate 9 0
  angularVelocity := ⟨0, 0, 0⟩
  linearAcceleration :=
    ⟨-Real.sin (-1), Real.cos (-1) * Real.sin 1,
      Real.cos (-1) * Real.cos 1⟩

theorem tiltedOrientation_denotes :
    tiltedOrientation.Denotes tiltedAttitude := by
  have scale : -Real.pi ≠ 0 := neg_ne_zero.mpr Real.pi_ne_zero
  constructor
  · have lengthEq : tiltedOrientation.normSq = Real.pi ^ 2 := by
      rw [QuaternionMsg.normSq, tiltedOrientation,
        QuaternionMsg.hamilton_ofHamilton, Quaternion.normSq_smul,
        normSq_ofRollPitchYaw, neg_sq, mul_one]
    have long : 1 ≤ Real.pi := by linarith [Real.two_le_pi]
    rw [QuaternionMsg.Unfilled, lengthEq, not_lt]
    nlinarith
  · rw [QuaternionMsg.rotation, tiltedOrientation,
      QuaternionMsg.hamilton_ofHamilton, rotation_smul scale,
      rotation_ofRollPitchYaw, tiltedAttitude]

theorem tiltedImu_isGravity :
    tiltedImu.linearAcceleration.IsGravity 1 tiltedAttitude := by
  rw [Vector3.IsGravity, one_smul, transpose_mulVec_vertical,
    tiltedAttitude, fixedAxis_vertical]
  rfl

theorem attitude_sources_agree_tilted :
    (∃ transform,
      (nodeInMode "quaternion").publishStabilizedFromOdom Tf2.reference
            tiltedOdometry =
          [transform] ∧
        Levels (nodeInMode "quaternion") ⟨0, 0⟩ 1 (-1) transform ∧
          KeepsHeading Tf2.reference (nodeInMode "quaternion") 1 (-1) 1
            transform) ∧
      (∃ next transform,
        (nodeInMode "quaternion").onImu Tf2.reference tiltedImu =
            some (next, [transform]) ∧
          Levels (nodeInMode "quaternion") ⟨0, 0⟩ 1 (-1) transform ∧
            KeepsHeading Tf2.reference (nodeInMode "quaternion") 1 (-1)
              1 transform) ∧
        (∃ next transform,
          (nodeInMode "complementary").onImu Tf2.reference tiltedImu =
              some (next, [transform]) ∧
            Levels (nodeInMode "complementary") ⟨0, 0⟩ 1 (-1)
                transform ∧
              KeepsHeading Tf2.reference (nodeInMode "complementary") 1
                (-1) 1 transform) := by
  have within : |(-1 : ℝ)| < Real.pi / 2 := by
    rw [abs_neg, abs_one]
    linarith [Real.pi_gt_three]
  have orientation :=
    attitude_sources_agree Tf2.reference_documented
      (nodeInMode "quaternion") (nodeInMode_offsets _).1
      (nodeInMode_offsets _).2 1 1 within
  have gravity :=
    attitude_sources_agree Tf2.reference_documented
      (nodeInMode "complementary") (nodeInMode_offsets _).1
      (nodeInMode_offsets _).2 1 1 within
  refine
    ⟨orientation.1 tiltedOdometry tiltedOrientation_denotes,
      orientation.2.1 tiltedImu ?_ tiltedOrientation_denotes,
      gravity.2.2 tiltedImu 0 1 ?_ rfl rfl ?_ one_pos
        tiltedImu_isGravity⟩
  · rfl
  · decide
  · simp [OdomTfBroadcaster.Integrates, OdomTfBroadcaster.timeStep,
      durationSeconds, nodeInMode]

end Go2Navigation.Attitude

end
