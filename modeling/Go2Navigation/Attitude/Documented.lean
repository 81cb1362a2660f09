import Go2Navigation.Attitude.Transform
import Go2Navigation.Geometry.Rotation

/-!
# The documented meaning of the quaternion operations

Over the real numbers a quaternion message denotes a Hamilton quaternion, and
through it a rotation.  The operations of `tf2` are documented to be the ones
of Hamilton quaternions, with roll, pitch and yaw about fixed axes.  A
reference implementation shows that the documentation can be met.
-/

noncomputable section

namespace Go2Navigation.Attitude

open Go2Navigation.Geometry
open scoped Quaternion

namespace QuaternionMsg

/-- The Hamilton quaternion of a message. -/
def hamilton (q : QuaternionMsg ℝ) : ℍ[ℝ] :=
  ⟨q.w, q.x, q.y, q.z⟩

/-- The message of a Hamilton quaternion. -/
def ofHamilton (q : ℍ[ℝ]) : QuaternionMsg ℝ :=
  ⟨q.imI, q.imJ, q.imK, q.re⟩

@[simp]
theorem hamilton_ofHamilton (q : ℍ[ℝ]) : (ofHamilton q).hamilton = q :=
  rfl

/-- The squared norm of a message. -/
def normSq (q : QuaternionMsg ℝ) : ℝ :=
  Quaternion.normSq q.hamilton

theorem normSq_eq (q : QuaternionMsg ℝ) :
    q.normSq = q.w ^ 2 + q.x ^ 2 + q.y ^ 2 + q.z ^ 2 :=
  Quaternion.normSq_def' q.hamilton

/-- The quaternion is taken for one which was not filled in. -/
def Unfilled (q : QuaternionMsg ℝ) : Prop :=
  q.normSq < 1 / 10 ^ 9

theorem normSq_ne_zero
    {q : QuaternionMsg ℝ} (filled : ¬ q.Unfilled) : q.normSq ≠ 0 := by
  intro zero
  apply filled
  rw [Unfilled, zero]
  norm_num

/-- The rotation a message denotes. -/
def rotation (q : QuaternionMsg ℝ) : Matrix3 :=
  Geometry.rotation q.hamilton

end QuaternionMsg

/--
What `tf2` documents of its operations: those of Hamilton quaternions, the
conjugate for the inverse, and fixed-axis angles.  `getRPY` recovers angles
away from the pitch singularity, roll and yaw up to full turns.
-/
structure Tf2.Documented (tf2 : Tf2 ℝ) : Prop where
  length2 : ∀ q, tf2.length2 q = q.normSq
  normalize :
    ∀ q, q.normSq ≠ 0 →
      (tf2.normalize q).hamilton = (Real.sqrt q.normSq)⁻¹ • q.hamilton
  inverse : ∀ q, (tf2.inverse q).hamilton = star q.hamilton
  mul : ∀ p q, (tf2.mul p q).hamilton = p.hamilton * q.hamilton
  setRPY_normSq : ∀ roll pitch yaw, (tf2.setRPY roll pitch yaw).normSq = 1
  setRPY :
    ∀ roll pitch yaw,
      (tf2.setRPY roll pitch yaw).rotation = fixedAxis roll pitch yaw
  getRPY :
    ∀ q roll pitch yaw, q.normSq = 1 → |pitch| < Real.pi / 2 →
      q.rotation = fixedAxis roll pitch yaw →
        ((tf2.getRPY q).roll : Real.Angle) = roll ∧
          (tf2.getRPY q).pitch = pitch ∧
            ((tf2.getRPY q).yaw : Real.Angle) = yaw

namespace Tf2.Documented

variable {tf2 : Tf2 ℝ} (documented : tf2.Documented)
include documented

theorem length2_lt_iff (q : QuaternionMsg ℝ) :
    tf2.length2 q < literal (1 / 10 ^ 9) ↔ q.Unfilled := by
  rw [documented.length2, QuaternionMsg.Unfilled, literal]
  norm_num

theorem normSq_normalize
    {q : QuaternionMsg ℝ} (nonzero : q.normSq ≠ 0) :
    (tf2.normalize q).normSq = 1 := by
  have nonneg : 0 ≤ q.normSq := Quaternion.normSq_nonneg
  rw [QuaternionMsg.normSq, documented.normalize q nonzero,
    Quaternion.normSq_smul, inv_pow, Real.sq_sqrt nonneg]
  exact inv_mul_cancel₀ nonzero

/-- Normalising does not change the rotation. -/
theorem rotation_normalize
    {q : QuaternionMsg ℝ} (nonzero : q.normSq ≠ 0) :
    (tf2.normalize q).rotation = q.rotation := by
  have nonneg : 0 ≤ q.normSq := Quaternion.normSq_nonneg
  have scale : (Real.sqrt q.normSq)⁻¹ ≠ 0 :=
    inv_ne_zero (Real.sqrt_ne_zero'.mpr (nonneg.lt_of_ne' nonzero))
  rw [QuaternionMsg.rotation, documented.normalize q nonzero,
    rotation_smul scale, QuaternionMsg.rotation]

theorem normSq_inverse (q : QuaternionMsg ℝ) :
    (tf2.inverse q).normSq = q.normSq := by
  rw [QuaternionMsg.normSq, documented.inverse, Quaternion.normSq_star,
    QuaternionMsg.normSq]

theorem rotation_inverse (q : QuaternionMsg ℝ) :
    (tf2.inverse q).rotation = q.rotation.transpose := by
  rw [QuaternionMsg.rotation, documented.inverse, rotation_star,
    QuaternionMsg.rotation]

theorem normSq_mul (p q : QuaternionMsg ℝ) :
    (tf2.mul p q).normSq = p.normSq * q.normSq := by
  rw [QuaternionMsg.normSq, documented.mul, map_mul, QuaternionMsg.normSq,
    QuaternionMsg.normSq]

theorem rotation_mul (p q : QuaternionMsg ℝ) :
    (tf2.mul p q).rotation = p.rotation * q.rotation := by
  rw [QuaternionMsg.rotation, documented.mul, Geometry.rotation_mul,
    QuaternionMsg.rotation, QuaternionMsg.rotation]

end Tf2.Documented

/-! ## A reference implementation -/

/-- The angles of a rotation matrix, away from the pitch singularity. -/
def anglesOf (matrix : Matrix3) : RollPitchYaw ℝ :=
  let pitch := -Real.arcsin (matrix 2 0)
  { roll :=
      Complex.arg
        ⟨matrix 2 2 / Real.cos pitch, matrix 2 1 / Real.cos pitch⟩
    pitch := pitch
    yaw :=
      Complex.arg
        ⟨matrix 0 0 / Real.cos pitch, matrix 1 0 / Real.cos pitch⟩ }

/-- The vertical, in the axes of a body of this attitude. -/
def verticalOf (attitude : Matrix3) : Vector3 ℝ where
  x := attitude 2 0
  y := attitude 2 1
  z := attitude 2 2

/-- The operations by their textbook formulas. -/
def Tf2.reference : Tf2 ℝ where
  length2 q := q.normSq
  normalize q :=
    QuaternionMsg.ofHamilton ((Real.sqrt q.normSq)⁻¹ • q.hamilton)
  inverse q := QuaternionMsg.ofHamilton (star q.hamilton)
  mul p q := QuaternionMsg.ofHamilton (p.hamilton * q.hamilton)
  getRPY q := anglesOf q.rotation
  setRPY roll pitch yaw :=
    QuaternionMsg.ofHamilton (ofRollPitchYaw roll pitch yaw)

theorem anglesOf_fixedAxis
    (roll yaw : ℝ) {pitch : ℝ} (within : |pitch| < Real.pi / 2) :
    ((anglesOf (fixedAxis roll pitch yaw)).roll : Real.Angle) = roll ∧
      (anglesOf (fixedAxis roll pitch yaw)).pitch = pitch ∧
        ((anglesOf (fixedAxis roll pitch yaw)).yaw : Real.Angle) = yaw := by
  have bounds := abs_lt.mp within
  have cosNonzero : Real.cos pitch ≠ 0 :=
    (Real.cos_pos_of_mem_Ioo bounds).ne'
  have vertical := fixedAxis_vertical roll pitch yaw
  have forward := fixedAxis_forward roll pitch yaw
  have pitchEq : -Real.arcsin (fixedAxis roll pitch yaw 2 0) = pitch := by
    simp [vertical, Real.arcsin_neg,
      Real.arcsin_sin bounds.1.le bounds.2.le]
  have forwardX :
      fixedAxis roll pitch yaw 0 0 = Real.cos yaw * Real.cos pitch :=
    congrFun forward 0
  have forwardY :
      fixedAxis roll pitch yaw 1 0 = Real.sin yaw * Real.cos pitch :=
    congrFun forward 1
  have verticalY :
      fixedAxis roll pitch yaw 2 1 = Real.cos pitch * Real.sin roll :=
    congrFun vertical 1
  have verticalZ :
      fixedAxis roll pitch yaw 2 2 = Real.cos pitch * Real.cos roll :=
    congrFun vertical 2
  have rollEq := arg_scaled_coe one_pos roll
  have yawEq := arg_scaled_coe one_pos yaw
  rw [one_mul, one_mul] at rollEq yawEq
  simp only [anglesOf, pitchEq, verticalY, verticalZ, forwardX, forwardY,
    mul_div_cancel_left₀ _ cosNonzero, mul_div_cancel_right₀ _ cosNonzero]
  exact ⟨rollEq, trivial, yawEq⟩

/-- The documentation can be met. -/
theorem Tf2.reference_documented : Tf2.reference.Documented where
  length2 _ := rfl
  normalize _ _ := rfl
  inverse _ := rfl
  mul _ _ := rfl
  setRPY_normSq roll pitch yaw := normSq_ofRollPitchYaw roll pitch yaw
  setRPY roll pitch yaw := rotation_ofRollPitchYaw roll pitch yaw
  getRPY q roll pitch yaw _ within denotes := by
    have angles := anglesOf_fixedAxis roll yaw within
    rw [← denotes] at angles
    exact angles

end Go2Navigation.Attitude

end
