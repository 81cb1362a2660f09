import Mathlib.Algebra.Quaternion
import Mathlib.Analysis.SpecialFunctions.Complex.Arg
import Mathlib.Analysis.SpecialFunctions.Trigonometric.Angle
import Mathlib.LinearAlgebra.Matrix.Notation
import Mathlib.LinearAlgebra.Matrix.NonsingularInverse

/-!
# Rotations of three-dimensional space

Rotations about the coordinate axes, the fixed-axis composition of roll,
pitch and yaw, and the rotation matrix of a nonzero quaternion.  The matrix
of a quaternion does not depend on its scale, and is multiplicative because
its homogeneous form is.
-/

noncomputable section

namespace Go2Navigation.Geometry

open Matrix
open scoped Quaternion

/-- A three-by-three real matrix. -/
abbrev Matrix3 := Matrix (Fin 3) (Fin 3) ℝ

/-! ## Rotations about the axes -/

def rotX (angle : ℝ) : Matrix3 :=
  !![1, 0, 0;
     0, Real.cos angle, -Real.sin angle;
     0, Real.sin angle, Real.cos angle]

def rotY (angle : ℝ) : Matrix3 :=
  !![Real.cos angle, 0, Real.sin angle;
     0, 1, 0;
     -Real.sin angle, 0, Real.cos angle]

def rotZ (angle : ℝ) : Matrix3 :=
  !![Real.cos angle, -Real.sin angle, 0;
     Real.sin angle, Real.cos angle, 0;
     0, 0, 1]

/-- Roll, pitch and yaw about fixed axes, in this order. -/
def fixedAxis (roll pitch yaw : ℝ) : Matrix3 :=
  rotZ yaw * rotY pitch * rotX roll

theorem rotX_mul_transpose (angle : ℝ) :
    rotX angle * (rotX angle)ᵀ = 1 := by
  ext row column
  fin_cases row <;> fin_cases column <;>
    simp [rotX, Matrix.mul_apply, Fin.sum_univ_three] <;>
    nlinarith [Real.sin_sq_add_cos_sq angle]

theorem rotY_mul_transpose (angle : ℝ) :
    rotY angle * (rotY angle)ᵀ = 1 := by
  ext row column
  fin_cases row <;> fin_cases column <;>
    simp [rotY, Matrix.mul_apply, Fin.sum_univ_three] <;>
    nlinarith [Real.sin_sq_add_cos_sq angle]

theorem rotZ_mul_transpose (angle : ℝ) :
    rotZ angle * (rotZ angle)ᵀ = 1 := by
  ext row column
  fin_cases row <;> fin_cases column <;>
    simp [rotZ, Matrix.mul_apply, Fin.sum_univ_three] <;>
    nlinarith [Real.sin_sq_add_cos_sq angle]

@[simp]
theorem rotX_zero : rotX 0 = 1 := by
  ext row column
  fin_cases row <;> fin_cases column <;> simp [rotX]

@[simp]
theorem rotY_zero : rotY 0 = 1 := by
  ext row column
  fin_cases row <;> fin_cases column <;> simp [rotY]

@[simp]
theorem rotZ_zero : rotZ 0 = 1 := by
  ext row column
  fin_cases row <;> fin_cases column <;> simp [rotZ]

@[simp]
theorem fixedAxis_yaw (yaw : ℝ) : fixedAxis 0 0 yaw = rotZ yaw := by
  simp [fixedAxis]

@[simp]
theorem fixedAxis_tilt (roll pitch : ℝ) :
    fixedAxis roll pitch 0 = rotY pitch * rotX roll := by
  simp [fixedAxis]

/-- The inverse of an orthogonal matrix is its transpose. -/
theorem inv_eq_transpose {rotation : Matrix3}
    (orthogonal : rotation * rotationᵀ = 1) :
    rotation⁻¹ = rotationᵀ :=
  Matrix.inv_eq_right_inv orthogonal

theorem mul_mul_transpose {first second : Matrix3}
    (firstOrthogonal : first * firstᵀ = 1)
    (secondOrthogonal : second * secondᵀ = 1) :
    first * second * (first * second)ᵀ = 1 := by
  rw [Matrix.transpose_mul, Matrix.mul_assoc,
    ← Matrix.mul_assoc second, secondOrthogonal, Matrix.one_mul,
    firstOrthogonal]

/-- The roll and pitch of an attitude undone from it leave its yaw. -/
theorem fixedAxis_mul_inv_tilt (roll pitch yaw : ℝ) :
    fixedAxis roll pitch yaw * (rotY pitch * rotX roll)⁻¹ = rotZ yaw := by
  have tiltOrthogonal :=
    mul_mul_transpose (rotY_mul_transpose pitch) (rotX_mul_transpose roll)
  rw [inv_eq_transpose tiltOrthogonal, fixedAxis, Matrix.mul_assoc (rotZ yaw),
    Matrix.mul_assoc, tiltOrthogonal, Matrix.mul_one]

/-- The yaw of an attitude undone from it leaves its roll and pitch. -/
theorem transpose_rotZ_mul_fixedAxis (roll pitch yaw : ℝ) :
    (rotZ yaw)ᵀ * fixedAxis roll pitch yaw = rotY pitch * rotX roll := by
  have orthogonal : (rotZ yaw)ᵀ * rotZ yaw = 1 :=
    mul_eq_one_comm.mp (rotZ_mul_transpose yaw)
  rw [fixedAxis, Matrix.mul_assoc (rotZ yaw), ← Matrix.mul_assoc,
    orthogonal, Matrix.one_mul]

/-- The vertical, in the axes of the body. -/
theorem transpose_mulVec_vertical (attitude : Matrix3) :
    attitudeᵀ *ᵥ ![0, 0, 1] = attitude 2 := by
  ext column
  simp [Matrix.mulVec, dotProduct, Fin.sum_univ_three]

/-- The last row of an attitude: the vertical, seen from the body. -/
theorem fixedAxis_vertical (roll pitch yaw : ℝ) :
    fixedAxis roll pitch yaw 2 =
      ![-Real.sin pitch, Real.cos pitch * Real.sin roll,
        Real.cos pitch * Real.cos roll] := by
  ext column
  fin_cases column <;>
    simp [fixedAxis, rotX, rotY, rotZ, Matrix.mul_apply,
      Fin.sum_univ_three]

/-- The first column of an attitude: where the body points. -/
theorem fixedAxis_forward (roll pitch yaw : ℝ) :
    (fixedAxis roll pitch yaw).col 0 =
      ![Real.cos yaw * Real.cos pitch, Real.sin yaw * Real.cos pitch,
        -Real.sin pitch] := by
  ext row
  fin_cases row <;>
    simp [fixedAxis, rotX, rotY, rotZ]

/-! ## Rotation matrix of a quaternion -/

/-- The rotation matrix scaled by the squared norm, polynomial in the quaternion. -/
def homogeneous (q : ℍ[ℝ]) : Matrix3 :=
  !![q.re ^ 2 + q.imI ^ 2 - q.imJ ^ 2 - q.imK ^ 2,
      2 • (q.imI * q.imJ - q.re * q.imK),
      2 • (q.imI * q.imK + q.re * q.imJ);
     2 • (q.imI * q.imJ + q.re * q.imK),
      q.re ^ 2 - q.imI ^ 2 + q.imJ ^ 2 - q.imK ^ 2,
      2 • (q.imJ * q.imK - q.re * q.imI);
     2 • (q.imI * q.imK - q.re * q.imJ),
      2 • (q.imJ * q.imK + q.re * q.imI),
      q.re ^ 2 - q.imI ^ 2 - q.imJ ^ 2 + q.imK ^ 2]

/-- The rotation of a quaternion, whatever its scale. -/
def rotation (q : ℍ[ℝ]) : Matrix3 :=
  (Quaternion.normSq q)⁻¹ • homogeneous q

theorem homogeneous_mul (p q : ℍ[ℝ]) :
    homogeneous (p * q) = homogeneous p * homogeneous q := by
  ext row column
  fin_cases row <;> fin_cases column <;>
    simp [homogeneous, Matrix.mul_apply, Fin.sum_univ_three] <;>
    ring

theorem homogeneous_star (q : ℍ[ℝ]) :
    homogeneous (star q) = (homogeneous q)ᵀ := by
  ext row column
  fin_cases row <;> fin_cases column <;>
    simp [homogeneous] <;>
    ring

theorem homogeneous_smul (scale : ℝ) (q : ℍ[ℝ]) :
    homogeneous (scale • q) = scale ^ 2 • homogeneous q := by
  ext row column
  fin_cases row <;> fin_cases column <;>
    simp [homogeneous] <;>
    ring

/-- Composing rotations is multiplying quaternions. -/
theorem rotation_mul (p q : ℍ[ℝ]) :
    rotation (p * q) = rotation p * rotation q := by
  rw [rotation, rotation, rotation, homogeneous_mul, map_mul, mul_inv,
    Matrix.smul_mul, Matrix.mul_smul, smul_smul]

@[simp]
theorem rotation_star (q : ℍ[ℝ]) : rotation (star q) = (rotation q)ᵀ := by
  rw [rotation, rotation, homogeneous_star, Quaternion.normSq_star,
    Matrix.transpose_smul]

/-- The rotation of a quaternion does not depend on its scale or its sign. -/
theorem rotation_smul {scale : ℝ} (nonzero : scale ≠ 0) (q : ℍ[ℝ]) :
    rotation (scale • q) = rotation q := by
  rw [rotation, rotation, homogeneous_smul, Quaternion.normSq_smul,
    mul_inv, smul_smul, mul_right_comm,
    inv_mul_cancel₀ (pow_ne_zero 2 nonzero), one_mul]

/-! ## Half-angle quaternions -/

def aboutX (angle : ℝ) : ℍ[ℝ] :=
  ⟨Real.cos (angle / (2 : ℕ)), Real.sin (angle / (2 : ℕ)), 0, 0⟩

def aboutY (angle : ℝ) : ℍ[ℝ] :=
  ⟨Real.cos (angle / (2 : ℕ)), 0, Real.sin (angle / (2 : ℕ)), 0⟩

def aboutZ (angle : ℝ) : ℍ[ℝ] :=
  ⟨Real.cos (angle / (2 : ℕ)), 0, 0, Real.sin (angle / (2 : ℕ))⟩

@[simp]
theorem normSq_aboutX (angle : ℝ) :
    Quaternion.normSq (aboutX angle) = 1 := by
  rw [Quaternion.normSq_def']
  simp [aboutX]

@[simp]
theorem normSq_aboutY (angle : ℝ) :
    Quaternion.normSq (aboutY angle) = 1 := by
  rw [Quaternion.normSq_def']
  simp [aboutY]

@[simp]
theorem normSq_aboutZ (angle : ℝ) :
    Quaternion.normSq (aboutZ angle) = 1 := by
  rw [Quaternion.normSq_def']
  simp [aboutZ]

theorem cos_eq_half (angle : ℝ) :
    Real.cos angle = Real.cos (angle / 2) ^ 2 - Real.sin (angle / 2) ^ 2 := by
  rw [← Real.cos_two_mul', mul_div_cancel₀ angle two_ne_zero]

theorem sin_eq_half (angle : ℝ) :
    Real.sin angle = 2 * (Real.cos (angle / 2) * Real.sin (angle / 2)) := by
  rw [mul_comm (Real.cos _), ← mul_assoc, ← Real.sin_two_mul,
    mul_div_cancel₀ angle two_ne_zero]

theorem rotation_aboutX (angle : ℝ) :
    rotation (aboutX angle) = rotX angle := by
  rw [rotation, normSq_aboutX, inv_one, one_smul]
  ext row column
  fin_cases row <;> fin_cases column <;>
    simp [homogeneous, aboutX, rotX, cos_eq_half angle, sin_eq_half angle]

theorem rotation_aboutY (angle : ℝ) :
    rotation (aboutY angle) = rotY angle := by
  rw [rotation, normSq_aboutY, inv_one, one_smul]
  ext row column
  fin_cases row <;> fin_cases column <;>
    simp [homogeneous, aboutY, rotY, cos_eq_half angle, sin_eq_half angle]

theorem rotation_aboutZ (angle : ℝ) :
    rotation (aboutZ angle) = rotZ angle := by
  rw [rotation, normSq_aboutZ, inv_one, one_smul]
  ext row column
  fin_cases row <;> fin_cases column <;>
    simp [homogeneous, aboutZ, rotZ, cos_eq_half angle, sin_eq_half angle]

/-- The quaternion of roll, pitch and yaw about fixed axes. -/
def ofRollPitchYaw (roll pitch yaw : ℝ) : ℍ[ℝ] :=
  aboutZ yaw * aboutY pitch * aboutX roll

@[simp]
theorem normSq_ofRollPitchYaw (roll pitch yaw : ℝ) :
    Quaternion.normSq (ofRollPitchYaw roll pitch yaw) = 1 := by
  simp [ofRollPitchYaw]

@[simp]
theorem rotation_ofRollPitchYaw (roll pitch yaw : ℝ) :
    rotation (ofRollPitchYaw roll pitch yaw) =
      fixedAxis roll pitch yaw := by
  rw [ofRollPitchYaw, rotation_mul, rotation_mul, rotation_aboutZ,
    rotation_aboutY, rotation_aboutX, fixedAxis]

/-! ## Angles modulo a full turn -/

theorem rotX_congr {left right : ℝ}
    (same : (left : Real.Angle) = right) : rotX left = rotX right := by
  rw [rotX, rotX, ← Real.Angle.cos_coe, ← Real.Angle.sin_coe, same,
    Real.Angle.cos_coe, Real.Angle.sin_coe]

theorem rotZ_congr {left right : ℝ}
    (same : (left : Real.Angle) = right) : rotZ left = rotZ right := by
  rw [rotZ, rotZ, ← Real.Angle.cos_coe, ← Real.Angle.sin_coe, same,
    Real.Angle.cos_coe, Real.Angle.sin_coe]

theorem scaled_direction (scale angle : ℝ) :
    (⟨scale * Real.cos angle, scale * Real.sin angle⟩ : ℂ) =
      scale * (Real.cos angle + Real.sin angle * Complex.I) := by
  apply Complex.ext <;> simp [-Complex.ofReal_cos, -Complex.ofReal_sin]

/-- The angle of a scaled direction, up to full turns. -/
theorem arg_scaled_coe {scale : ℝ} (positive : 0 < scale) (angle : ℝ) :
    (Complex.arg ⟨scale * Real.cos angle, scale * Real.sin angle⟩ :
        Real.Angle) = angle := by
  rw [scaled_direction]
  exact
    Complex.arg_mul_cos_add_sin_mul_I_coe_angle positive
      (angle : Real.Angle)

/-- The angle of a scaled direction within half a turn. -/
theorem arg_scaled_eq {scale : ℝ} (positive : 0 < scale) {angle : ℝ}
    (within : angle ∈ Set.Ioc (-Real.pi) Real.pi) :
    Complex.arg ⟨scale * Real.cos angle, scale * Real.sin angle⟩ =
      angle := by
  rw [scaled_direction, Complex.ofReal_cos, Complex.ofReal_sin]
  exact Complex.arg_mul_cos_add_sin_mul_I positive within

/-- The angle of a scaled direction in the right half plane. -/
theorem arg_scaled_eq_of_abs_lt {scale : ℝ} (positive : 0 < scale)
    {angle : ℝ} (within : |angle| < Real.pi / 2) :
    Complex.arg ⟨scale * Real.cos angle, scale * Real.sin angle⟩ =
      angle := by
  have pi_pos := Real.pi_pos
  have bounds := abs_lt.mp within
  exact arg_scaled_eq positive ⟨by linarith, by linarith⟩

end Go2Navigation.Geometry

end
