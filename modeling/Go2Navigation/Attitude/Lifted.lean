import Go2Navigation.Attitude.Documented
import Go2Navigation.Attitude.MapOdom
import Go2Navigation.Attitude.OdomTf
import Go2Navigation.Numeric.Absorbing

/-!
# The broadcasters over numbers with a non-finite value

Finite messages and the quaternion operations carried over to numbers with a
non-finite value.  A quaternion with a non-finite component counts as not
finite as a whole, and so does the quotient of a quaternion by length zero.
-/

noncomputable section

namespace Go2Navigation.Attitude

open Go2Navigation.Foundation
open Go2Navigation.Numeric

universe u v

/-! ## Messages -/

section Messages

variable {K : Type u} {L : Type v} (number : K → L)

@[simps]
def Vector3.map (vector : Vector3 K) : Vector3 L where
  x := number vector.x
  y := number vector.y
  z := number vector.z

def QuaternionMsg.map (q : QuaternionMsg K) : QuaternionMsg L where
  x := number q.x
  y := number q.y
  z := number q.z
  w := number q.w

@[simps]
def Odometry.map (msg : Odometry K) : Odometry L where
  stamp := msg.stamp
  position := msg.position.map number
  orientation := msg.orientation.map number

@[simps]
def Imu.map (msg : Imu K) : Imu L where
  stamp := msg.stamp
  orientation := msg.orientation.map number
  orientationCovariance := msg.orientationCovariance.map number
  angularVelocity := msg.angularVelocity.map number
  linearAcceleration := msg.linearAcceleration.map number

def Message.map : Message K → Message L
  | .odom msg => .odom (msg.map number)
  | .imu msg => .imu (msg.map number)

def MapOdomEvent.map : MapOdomEvent K → MapOdomEvent L
  | .publish now => .publish now
  | .initialpose msg =>
      .initialpose
        { position := msg.position.map number
          orientation := msg.orientation.map number }

end Messages

/-! ## Operations -/

section Operations

variable {F : Type u}

/-- The square root of a negative number is not a number. -/
instance [Transcendental F] [Zero F] [LT F] [DecidableLT F] :
    Transcendental (Absorbing F) where
  sqrt
    | .finite value =>
        if value < 0 then .nonFinite
        else .finite (Transcendental.sqrt value)
    | .nonFinite => .nonFinite
  atan2 := Absorbing.lift₂ Transcendental.atan2

theorem literal_eq_finite [RatCast F] (value : ℚ) :
    (literal value : Absorbing F) = .finite (literal value) :=
  rfl

@[simp]
theorem isFinite_literal [RatCast F] (value : ℚ) :
    (literal value : Absorbing F).IsFinite :=
  trivial

/-- The quaternion, if all its components are finite. -/
def QuaternionMsg.toFinite :
    QuaternionMsg (Absorbing F) → Option (QuaternionMsg F)
  | ⟨.finite x, .finite y, .finite z, .finite w⟩ => some ⟨x, y, z, w⟩
  | _ => none

def QuaternionMsg.ofFinite :
    Option (QuaternionMsg F) → QuaternionMsg (Absorbing F)
  | some q => q.map .finite
  | none => ⟨.nonFinite, .nonFinite, .nonFinite, .nonFinite⟩

@[simp]
theorem QuaternionMsg.toFinite_map (q : QuaternionMsg F) :
    (q.map Absorbing.finite).toFinite = some q :=
  rfl

variable [Zero F] [DecidableEq F]

/-- The operations on finite quaternions and angles, carried over. -/
def Tf2.absorbing (tf2 : Tf2 F) : Tf2 (Absorbing F) where
  length2 q :=
    match q.toFinite with
    | some q => .finite (tf2.length2 q)
    | none => .nonFinite
  normalize q :=
    QuaternionMsg.ofFinite
      (q.toFinite.bind fun q =>
        if tf2.length2 q = 0 then none else some (tf2.normalize q))
  inverse q := QuaternionMsg.ofFinite (q.toFinite.map tf2.inverse)
  mul p q :=
    QuaternionMsg.ofFinite
      (p.toFinite.bind fun p => q.toFinite.map (tf2.mul p))
  getRPY q :=
    match q.toFinite with
    | some q =>
        let angles := tf2.getRPY q
        ⟨.finite angles.roll, .finite angles.pitch, .finite angles.yaw⟩
    | none => ⟨.nonFinite, .nonFinite, .nonFinite⟩
  setRPY
    | .finite roll, .finite pitch, .finite yaw =>
        (tf2.setRPY roll pitch yaw).map .finite
    | _, _, _ => QuaternionMsg.ofFinite none

variable (tf2 : Tf2 F)

@[simp]
theorem Tf2.absorbing_length2 (q : QuaternionMsg F) :
    tf2.absorbing.length2 (q.map .finite) = .finite (tf2.length2 q) :=
  rfl

theorem Tf2.absorbing_normalize
    {q : QuaternionMsg F} (nonzero : tf2.length2 q ≠ 0) :
    tf2.absorbing.normalize (q.map .finite) =
      (tf2.normalize q).map .finite := by
  simp [Tf2.absorbing, nonzero, QuaternionMsg.ofFinite]

@[simp]
theorem Tf2.absorbing_inverse (q : QuaternionMsg F) :
    tf2.absorbing.inverse (q.map .finite) =
      (tf2.inverse q).map .finite :=
  rfl

@[simp]
theorem Tf2.absorbing_mul (p q : QuaternionMsg F) :
    tf2.absorbing.mul (p.map .finite) (q.map .finite) =
      (tf2.mul p q).map .finite :=
  rfl

@[simp]
theorem Tf2.absorbing_getRPY (q : QuaternionMsg F) :
    tf2.absorbing.getRPY (q.map .finite) =
      ⟨.finite (tf2.getRPY q).roll, .finite (tf2.getRPY q).pitch,
        .finite (tf2.getRPY q).yaw⟩ :=
  rfl

@[simp]
theorem Tf2.absorbing_setRPY (roll pitch yaw : F) :
    tf2.absorbing.setRPY (.finite roll) (.finite pitch) (.finite yaw) =
      (tf2.setRPY roll pitch yaw).map .finite :=
  rfl

end Operations

/-! ## Gravity -/

@[simp]
theorem rollAcc_map (acceleration : Vector3 ℝ) :
    rollAcc (acceleration.map Absorbing.finite) =
      .finite (rollAcc acceleration) :=
  rfl

/-- The radicand is a sum of squares. -/
@[simp]
theorem pitchAcc_map (acceleration : Vector3 ℝ) :
    pitchAcc (acceleration.map Absorbing.finite) =
      .finite (pitchAcc acceleration) := by
  have nonneg :
      ¬ acceleration.y * acceleration.y +
          acceleration.z * acceleration.z < 0 :=
    not_lt.mpr (add_nonneg (mul_self_nonneg _) (mul_self_nonneg _))
  have rootEq :
      Transcendental.sqrt
          (Absorbing.finite
            (acceleration.y * acceleration.y +
              acceleration.z * acceleration.z)) =
        .finite
          (Transcendental.sqrt
            (acceleration.y * acceleration.y +
              acceleration.z * acceleration.z)) :=
    if_neg nonneg
  exact
    congrArg (Transcendental.atan2 (Absorbing.finite (-acceleration.x)))
      rootEq

/-- All components are finite. -/
def Vector3.IsFinite (vector : Vector3 (Absorbing ℝ)) : Prop :=
  vector.x.IsFinite ∧ vector.y.IsFinite ∧ vector.z.IsFinite

theorem Vector3.isFinite_map (vector : Vector3 ℝ) :
    (vector.map Absorbing.finite).IsFinite :=
  ⟨trivial, trivial, trivial⟩

/-- The angular rates which the filter integrates are finite. -/
def Imu.RateFinite (msg : Imu (Absorbing ℝ)) : Prop :=
  msg.angularVelocity.x.IsFinite ∧ msg.angularVelocity.y.IsFinite

theorem isFinite_rollAcc_iff (acceleration : Vector3 (Absorbing ℝ)) :
    (rollAcc acceleration).IsFinite ↔
      acceleration.y.IsFinite ∧ acceleration.z.IsFinite :=
  Absorbing.isFinite_lift₂ _ _ _

theorem isFinite_pitchAcc_iff (acceleration : Vector3 (Absorbing ℝ)) :
    (pitchAcc acceleration).IsFinite ↔ acceleration.IsFinite := by
  rcases acceleration with ⟨x, y, z⟩
  cases x with
  | nonFinite => exact iff_of_false id fun finite => finite.1
  | finite x =>
      cases y with
      | nonFinite => exact iff_of_false id fun finite => finite.2.1
      | finite y =>
          cases z with
          | nonFinite => exact iff_of_false id fun finite => finite.2.2
          | finite z =>
              have pitchEq := pitchAcc_map ⟨x, y, z⟩
              rw [Vector3.map] at pitchEq
              rw [pitchEq]
              exact
                iff_of_true trivial (Vector3.isFinite_map ⟨x, y, z⟩)

/-! ## Rotations -/

/-- All components are finite, and the norm is one. -/
def QuaternionMsg.HasUnitNorm (q : QuaternionMsg (Absorbing ℝ)) : Prop :=
  ∃ p ∈ q.toFinite, p.normSq = 1

@[simp]
theorem QuaternionMsg.hasUnitNorm_map (q : QuaternionMsg ℝ) :
    (q.map Absorbing.finite).HasUnitNorm ↔ q.normSq = 1 := by
  simp [QuaternionMsg.HasUnitNorm]

theorem QuaternionMsg.not_hasUnitNorm_of_toFinite
    {q : QuaternionMsg (Absorbing ℝ)} (nonFinite : q.toFinite = none) :
    ¬ q.HasUnitNorm := by
  simp [QuaternionMsg.HasUnitNorm, nonFinite]

/-- All components are finite. -/
def QuaternionMsg.IsFinite (q : QuaternionMsg (Absorbing ℝ)) : Prop :=
  q.x.IsFinite ∧ q.y.IsFinite ∧ q.z.IsFinite ∧ q.w.IsFinite

theorem QuaternionMsg.HasUnitNorm.isFinite
    {q : QuaternionMsg (Absorbing ℝ)} (unit : q.HasUnitNorm) :
    q.IsFinite := by
  rcases q with ⟨x, y, z, w⟩
  rcases unit with ⟨p, member, _⟩
  cases x with
  | nonFinite => cases member
  | finite =>
      cases y with
      | nonFinite => cases member
      | finite =>
          cases z with
          | nonFinite => cases member
          | finite =>
              cases w with
              | nonFinite => cases member
              | finite => exact ⟨trivial, trivial, trivial, trivial⟩

/-- Angles that are not finite leave no component of the rotation finite. -/
theorem stabilizedFromTilt_of_nonFinite
    (tf2 : Tf2 ℝ) {node : OdomTfBroadcaster (Absorbing ℝ)}
    {stamp : Stamp} {roll pitch : Absorbing ℝ}
    (nonFinite :
      ¬ ((roll - node.parameters.rollOffset).IsFinite ∧
        (pitch - node.parameters.pitchOffset).IsFinite)) :
    (node.stabilizedFromTilt tf2.absorbing stamp roll pitch).rotation =
      QuaternionMsg.ofFinite none := by
  rw [OdomTfBroadcaster.stabilizedFromTilt]
  generalize roll - node.parameters.rollOffset = rollCorr
    at nonFinite ⊢
  generalize pitch - node.parameters.pitchOffset = pitchCorr
    at nonFinite ⊢
  cases rollCorr with
  | nonFinite => rfl
  | finite =>
      cases pitchCorr with
      | nonFinite => rfl
      | finite => exact absurd ⟨trivial, trivial⟩ nonFinite

section Sending

variable {tf2 : Tf2 ℝ} (documented : tf2.Documented)
include documented

theorem absorbing_length2_lt_iff (q : QuaternionMsg ℝ) :
    tf2.absorbing.length2 (q.map .finite) < literal (1 / 10 ^ 9) ↔
      q.Unfilled :=
  documented.length2_lt_iff q

/-- Sending a unit quaternion sends a rotation. -/
theorem hasUnitNorm_sendStabilized
    (node : OdomTfBroadcaster (Absorbing ℝ)) (stamp : Stamp)
    {q : QuaternionMsg ℝ} (unit : q.normSq = 1) :
    (node.sendStabilized tf2.absorbing stamp
      (q.map .finite)).rotation.HasUnitNorm := by
  have nonzero : q.normSq ≠ 0 := unit ▸ one_ne_zero
  have length : tf2.length2 q ≠ 0 := documented.length2 q ▸ nonzero
  rw [OdomTfBroadcaster.sendStabilized, tf2.absorbing_normalize length,
    QuaternionMsg.hasUnitNorm_map]
  exact documented.normSq_normalize nonzero

/-- The tail of the IMU source sends a rotation exactly for finite angles. -/
theorem hasUnitNorm_stabilizedFromTilt_iff
    (node : OdomTfBroadcaster (Absorbing ℝ)) (stamp : Stamp)
    (roll pitch : Absorbing ℝ) :
    (node.stabilizedFromTilt tf2.absorbing stamp
        roll pitch).rotation.HasUnitNorm ↔
      (roll - node.parameters.rollOffset).IsFinite ∧
        (pitch - node.parameters.pitchOffset).IsFinite := by
  constructor
  · intro unit
    by_contra nonFinite
    rw [stabilizedFromTilt_of_nonFinite tf2 nonFinite] at unit
    exact QuaternionMsg.not_hasUnitNorm_of_toFinite rfl unit
  · rw [OdomTfBroadcaster.stabilizedFromTilt]
    generalize roll - node.parameters.rollOffset = rollCorr
    generalize pitch - node.parameters.pitchOffset = pitchCorr
    rintro ⟨rollFinite, pitchFinite⟩
    cases rollCorr with
    | nonFinite => cases rollFinite
    | finite rollCorr =>
        cases pitchCorr with
        | nonFinite => cases pitchFinite
        | finite pitchCorr =>
            simp only [literal_eq_finite, Tf2.absorbing_setRPY,
              Tf2.absorbing_inverse]
            apply hasUnitNorm_sendStabilized documented
            rw [documented.normSq_inverse, documented.setRPY_normSq]

/-- It sends finite components exactly for finite angles. -/
theorem isFinite_stabilizedFromTilt_iff
    (node : OdomTfBroadcaster (Absorbing ℝ)) (stamp : Stamp)
    (roll pitch : Absorbing ℝ) :
    (node.stabilizedFromTilt tf2.absorbing stamp
        roll pitch).rotation.IsFinite ↔
      (roll - node.parameters.rollOffset).IsFinite ∧
        (pitch - node.parameters.pitchOffset).IsFinite := by
  constructor
  · intro finite
    by_contra nonFinite
    rw [stabilizedFromTilt_of_nonFinite tf2 nonFinite] at finite
    exact finite.1
  · intro angles
    exact
      ((hasUnitNorm_stabilizedFromTilt_iff documented node stamp roll
        pitch).mpr angles).isFinite

/-- The odometry source sends rotations only: it drops and normalises. -/
theorem hasUnitNorm_publishStabilizedFromOdom
    (node : OdomTfBroadcaster (Absorbing ℝ)) (msg : Odometry ℝ) :
    ∀ transform ∈
        node.publishStabilizedFromOdom tf2.absorbing (msg.map .finite),
      transform.rotation.HasUnitNorm := by
  have short := absorbing_length2_lt_iff documented msg.orientation
  rw [OdomTfBroadcaster.publishStabilizedFromOdom,
    Odometry.map_orientation]
  by_cases unfilled : msg.orientation.Unfilled
  · rw [if_pos (short.mpr unfilled)]
    simp
  · rw [if_neg (short.not.mpr unfilled)]
    have nonzero := QuaternionMsg.normSq_ne_zero unfilled
    have length : tf2.length2 msg.orientation ≠ 0 :=
      documented.length2 _ ▸ nonzero
    have normalizedEq :
        tf2.absorbing.normalize (msg.orientation.map .finite) =
          (tf2.normalize msg.orientation).map .finite :=
      tf2.absorbing_normalize length
    simp only [List.mem_singleton, forall_eq, normalizedEq,
      literal_eq_finite, Tf2.absorbing_getRPY, Tf2.absorbing_setRPY,
      Tf2.absorbing_inverse, Tf2.absorbing_mul]
    apply hasUnitNorm_sendStabilized documented
    rw [documented.normSq_inverse, documented.normSq_mul,
      documented.normSq_inverse, documented.setRPY_normSq,
      documented.normSq_normalize nonzero, mul_one]

end Sending

end Go2Navigation.Attitude

end
