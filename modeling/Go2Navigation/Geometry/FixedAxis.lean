import Go2Navigation.Geometry.Rotation
import Mathlib.Analysis.SpecialFunctions.Trigonometric.Inverse
import Mathlib.LinearAlgebra.Matrix.Determinant.Basic
import Mathlib.LinearAlgebra.UnitaryGroup

/-!
# The fixed-axis angles of a rotation

Every rotation of space which does not point straight up or down is a roll, a
pitch and a yaw.  Its last row gives pitch and roll; undoing them leaves a
rotation about the vertical, which gives the yaw.
-/

noncomputable section

namespace Go2Navigation.Geometry

open Matrix

/-- The last row of a tilt. -/
theorem tilt_vertical (roll pitch : ℝ) :
    (rotY pitch * rotX roll) 2 =
      ![-Real.sin pitch, Real.cos pitch * Real.sin roll,
        Real.cos pitch * Real.cos roll] := by
  rw [← fixedAxis_tilt, fixedAxis_vertical]

/-- Undoing a roll subtracts it. -/
theorem rotX_mul_transpose_rotX (angle undone : ℝ) :
    rotX angle * (rotX undone)ᵀ = rotX (angle - undone) := by
  ext row column
  fin_cases row <;> fin_cases column <;>
    simp [rotX, Matrix.mul_apply, Fin.sum_univ_three, Real.cos_sub,
      Real.sin_sub] <;>
    ring

/-- The rotations of space. -/
abbrev Rotations : Submonoid Matrix3 :=
  Matrix.specialOrthogonalGroup (Fin 3) ℝ

theorem mem_rotations_iff {attitude : Matrix3} :
    attitude ∈ Rotations ↔
      attitude * attitudeᵀ = 1 ∧ attitude.det = 1 := by
  rw [Matrix.mem_specialOrthogonalGroup_iff,
    Matrix.mem_orthogonalGroup_iff]

theorem rotX_mem (angle : ℝ) : rotX angle ∈ Rotations := by
  refine mem_rotations_iff.mpr ⟨rotX_mul_transpose angle, ?_⟩
  rw [rotX, Matrix.det_fin_three]
  simp
  linarith [Real.sin_sq_add_cos_sq angle]

theorem rotY_mem (angle : ℝ) : rotY angle ∈ Rotations := by
  refine mem_rotations_iff.mpr ⟨rotY_mul_transpose angle, ?_⟩
  rw [rotY, Matrix.det_fin_three]
  simp
  linarith [Real.sin_sq_add_cos_sq angle]

theorem tilt_mem (roll pitch : ℝ) : rotY pitch * rotX roll ∈ Rotations :=
  mul_mem (rotY_mem pitch) (rotX_mem roll)

theorem transpose_mem {attitude : Matrix3} (member : attitude ∈ Rotations) :
    attitudeᵀ ∈ Rotations := by
  rw [mem_rotations_iff] at member ⊢
  rw [Matrix.transpose_transpose, Matrix.det_transpose]
  exact ⟨mul_eq_one_comm.mp member.1, member.2⟩

/-- The rows of a rotation are orthonormal. -/
theorem row_dotProduct_row {attitude : Matrix3}
    (member : attitude ∈ Rotations) (first second : Fin 3) :
    attitude first 0 * attitude second 0 +
          attitude first 1 * attitude second 1 +
        attitude first 2 * attitude second 2 =
      (1 : Matrix3) first second := by
  rw [← (mem_rotations_iff.mp member).1, Matrix.mul_apply,
    Fin.sum_univ_three]
  rfl

/-- A rotation which keeps the vertical is about the vertical. -/
theorem exists_rotZ {attitude : Matrix3} (member : attitude ∈ Rotations)
    (vertical : attitude 2 = ![0, 0, 1]) : ∃ yaw, attitude = rotZ yaw := by
  have row0 : attitude 2 0 = 0 := congrFun vertical 0
  have row1 : attitude 2 1 = 0 := congrFun vertical 1
  have row2 : attitude 2 2 = 1 := congrFun vertical 2
  have xVertical := row_dotProduct_row member 0 2
  have yVertical := row_dotProduct_row member 1 2
  have x := row_dotProduct_row member 0 0
  have y := row_dotProduct_row member 1 1
  have volume := (mem_rotations_iff.mp member).2
  have column0 : attitude 0 2 = 0 := by
    simpa [row0, row1, row2] using xVertical
  have column1 : attitude 1 2 = 0 := by
    simpa [row0, row1, row2] using yVertical
  rw [Matrix.det_fin_three, row0, row1, row2, column0, column1] at volume
  rw [column0, Matrix.one_apply_eq] at x
  rw [column1, Matrix.one_apply_eq] at y
  have squares :
      (attitude 1 1 - attitude 0 0) ^ 2 +
        (attitude 1 0 + attitude 0 1) ^ 2 = 0 := by
    linear_combination x + y - 2 * volume
  have zeros :=
    (add_eq_zero_iff_of_nonneg (sq_nonneg _) (sq_nonneg _)).mp squares
  have diagonal : attitude 1 1 = attitude 0 0 :=
    sub_eq_zero.mp ((pow_eq_zero_iff two_ne_zero).mp zeros.1)
  have offDiagonal : attitude 0 1 = -attitude 1 0 :=
    eq_neg_of_add_eq_zero_right
      ((pow_eq_zero_iff two_ne_zero).mp zeros.2)
  let forward : ℂ := ⟨attitude 0 0, attitude 1 0⟩
  have unit : ‖forward‖ = 1 := by
    rw [Complex.norm_def, Complex.normSq_mk, Real.sqrt_eq_one]
    rw [offDiagonal] at x
    linarith
  have cosEq : Real.cos forward.arg = attitude 0 0 := by
    simpa [unit] using Complex.norm_mul_cos_arg forward
  have sinEq : Real.sin forward.arg = attitude 1 0 := by
    simpa [unit] using Complex.norm_mul_sin_arg forward
  refine ⟨forward.arg, ?_⟩
  ext row column
  fin_cases row <;> fin_cases column <;>
    simp [rotZ, cosEq, sinEq, row0, row1, row2, column0, column1,
      diagonal, offDiagonal]

/-- A rotation with the last row of another tilt is that tilt and a yaw. -/
theorem exists_yaw {attitude : Matrix3} (member : attitude ∈ Rotations)
    {roll pitch : ℝ}
    (vertical : attitude 2 = (rotY pitch * rotX roll) 2) :
    ∃ yaw, attitude = fixedAxis roll pitch yaw := by
  have tilt := tilt_mem roll pitch
  have rest :=
    exists_rotZ (mul_mem member (transpose_mem tilt))
      (by
        ext column
        rw [Matrix.mul_apply, Fin.sum_univ_three, vertical]
        refine (row_dotProduct_row tilt 2 column).trans ?_
        fin_cases column <;> simp [Matrix.one_apply])
  rcases rest with ⟨yaw, restEq⟩
  refine ⟨yaw, ?_⟩
  have undone :
      (rotY pitch * rotX roll)ᵀ * (rotY pitch * rotX roll) = 1 :=
    mul_eq_one_comm.mp (mem_rotations_iff.mp tilt).1
  rw [fixedAxis, Matrix.mul_assoc (rotZ yaw), ← restEq,
    Matrix.mul_assoc, undone, Matrix.mul_one]

/-- Away from the pitch singularity a rotation has fixed-axis angles. -/
theorem exists_fixedAxis {attitude : Matrix3}
    (member : attitude ∈ Rotations) (regular : |attitude 2 0| ≠ 1) :
    ∃ roll pitch yaw,
      |pitch| < Real.pi / 2 ∧ attitude = fixedAxis roll pitch yaw := by
  have norm := row_dotProduct_row member 2 2
  rw [Matrix.one_apply_eq] at norm
  have within : |attitude 2 0| < 1 := by
    refine lt_of_le_of_ne ?_ regular
    apply abs_le_one_iff_mul_self_le_one.mpr
    linarith [mul_self_nonneg (attitude 2 1),
      mul_self_nonneg (attitude 2 2)]
  have bounds := abs_lt.mp within
  let pitch := -Real.arcsin (attitude 2 0)
  let planar : ℂ := ⟨attitude 2 2, attitude 2 1⟩
  have pitchWithin : |pitch| < Real.pi / 2 := by
    rw [abs_neg, abs_lt]
    exact
      ⟨Real.neg_pi_div_two_lt_arcsin.mpr bounds.1,
        Real.arcsin_lt_pi_div_two.mpr bounds.2⟩
  have sinEq : Real.sin pitch = -attitude 2 0 := by
    rw [Real.sin_neg, Real.sin_arcsin bounds.1.le bounds.2.le]
  have planarNorm : ‖planar‖ = Real.cos pitch := by
    rw [Complex.norm_def, Complex.normSq_mk, Real.cos_neg,
      Real.cos_arcsin]
    congr 1
    linarith
  have rollCos := Complex.norm_mul_cos_arg planar
  have rollSin := Complex.norm_mul_sin_arg planar
  rw [planarNorm] at rollCos rollSin
  have vertical :
      attitude 2 = (rotY pitch * rotX planar.arg) 2 := by
    rw [← fixedAxis_tilt, fixedAxis_vertical, sinEq, rollCos, rollSin]
    ext column
    fin_cases column <;> simp [planar]
  rcases exists_yaw member vertical with ⟨yaw, attitudeEq⟩
  exact ⟨planar.arg, pitch, yaw, pitchWithin, attitudeEq⟩

end Go2Navigation.Geometry

end
