import Go2Navigation.Numeric.NearestEven
import Mathlib.Data.Rat.Floor

/-!
# Doubles, and their narrowing to binary32

A double is a rational number, one of the two infinities or a NaN.  Ordered
comparisons with a NaN are false.  Narrowing to binary32 rounds to nearest
with ties to even; a magnitude which rounds past the largest binary32 number
becomes an infinity of its sign.
-/

namespace Go2Navigation.Numeric

/-- A double over the rational numbers. -/
inductive Double where
  | finite (value : ℚ)
  | posInf
  | negInf
  | nan
deriving DecidableEq

/-- A binary32 number, an infinity or a NaN. -/
inductive Binary32 where
  | finite (value : ℚ)
  | posInf
  | negInf
  | nan
deriving DecidableEq

namespace Double

def isFinite : Double → Bool
  | .finite _ => true
  | _ => false

/-- The comparison `left < right`. -/
def lt : Double → Double → Bool
  | .finite left, .finite right => decide (left < right)
  | .finite _, .posInf => true
  | .negInf, .finite _ => true
  | .negInf, .posInf => true
  | _, _ => false

/-- The comparison `left <= right`. -/
def le : Double → Double → Bool
  | .nan, _ => false
  | _, .nan => false
  | left, right => !lt right left

def neg : Double → Double
  | .finite value => .finite (-value)
  | .posInf => .negInf
  | .negInf => .posInf
  | .nan => .nan

def abs : Double → Double
  | .finite value => .finite |value|
  | .posInf => .posInf
  | .negInf => .posInf
  | .nan => .nan

/-- Division by two. -/
def half : Double → Double
  | .finite value => .finite (value / 2)
  | other => other

/-- `std::clamp`: the bounds win over the value, in this order. -/
def clamp (value low high : Double) : Double :=
  if lt value low then low
  else if lt high value then high
  else value

@[simp]
theorem lt_finite (left right : ℚ) :
    lt (.finite left) (.finite right) = decide (left < right) :=
  rfl

@[simp]
theorem le_finite (left right : ℚ) :
    le (.finite left) (.finite right) = decide (left ≤ right) := by
  simp [le, ← not_lt]

/-- Clamping to a symmetric finite interval caps the magnitude. -/
theorem clamp_finite (value : ℚ) {limit : ℚ} (nonneg : 0 ≤ limit) :
    ∃ clamped : ℚ,
      clamp (.finite value) (.finite (-limit)) (.finite limit) =
          .finite clamped ∧
        |clamped| = min |value| limit := by
  unfold clamp
  simp only [lt_finite, decide_eq_true_eq]
  split_ifs with below above
  · refine ⟨-limit, rfl, ?_⟩
    rw [abs_neg, abs_of_nonneg nonneg, min_eq_right]
    exact (by linarith : limit ≤ -value).trans (neg_le_abs value)
  · refine ⟨limit, rfl, ?_⟩
    rw [abs_of_nonneg nonneg, min_eq_right]
    exact above.le.trans (le_abs_self value)
  · refine ⟨value, rfl, ?_⟩
    rw [min_eq_left]
    exact abs_le.mpr ⟨not_lt.mp below, not_lt.mp above⟩

end Double

/-- The format of IEEE binary32. -/
def binary32 : BinaryFormat where
  precision := 24
  quantumMin := -149
  exponentMax := 128
  precision_pos := by decide
  top_normal := by decide

/-- The least magnitude which overflows binary32. -/
def binary32Overflow : ℚ :=
  binary32.overflowThreshold

/-- The largest magnitude which narrows to zero. -/
def binary32Underflow : ℚ :=
  2 ^ (-150 : ℤ)

/-- `static_cast<float>`, rounding to nearest with ties to even. -/
def Double.toBinary32 : Double → Binary32
  | .finite value =>
      if |binary32.roundTo value| < 2 ^ (128 : ℤ) then
        .finite (binary32.roundTo value)
      else if value < 0 then .negInf
      else .posInf
  | .posInf => .posInf
  | .negInf => .negInf
  | .nan => .nan

namespace Binary32

def isFinite : Binary32 → Bool
  | .finite _ => true
  | _ => false

end Binary32

theorem toBinary32_of_lt {value : ℚ} (below : |value| < binary32Overflow) :
    (Double.finite value).toBinary32 = .finite (binary32.roundTo value) := by
  have inside := (binary32.abs_roundTo_lt_iff value).mpr below
  simp only [Double.toBinary32]
  exact if_pos inside

/-- Narrowing keeps a finite value finite exactly below the overflow threshold. -/
theorem toBinary32_isFinite_iff (value : ℚ) :
    (Double.finite value).toBinary32.isFinite = true ↔
      |value| < binary32Overflow := by
  constructor
  · intro finite
    by_contra overflows
    have outside :
        ¬ |binary32.roundTo value| < (2 : ℚ) ^ (128 : ℤ) := fun inside =>
      overflows ((binary32.abs_roundTo_lt_iff value).mp inside)
    simp only [Double.toBinary32, if_neg outside] at finite
    split_ifs at finite <;> simp [Binary32.isFinite] at finite
  · intro below
    rw [toBinary32_of_lt below]
    rfl

/-- Narrowing gives zero exactly up to the underflow threshold. -/
theorem toBinary32_eq_zero_iff (value : ℚ) :
    (Double.finite value).toBinary32 = .finite 0 ↔
      |value| ≤ binary32Underflow := by
  have roundedZero := binary32.roundTo_eq_zero_iff value
  have exponentEq : binary32.quantumMin - 1 = -150 := by decide
  rw [exponentEq] at roundedZero
  constructor
  · intro narrowed
    apply roundedZero.mp
    simp only [Double.toBinary32] at narrowed
    split_ifs at narrowed
    exact Binary32.finite.inj narrowed
  · intro small
    have rounded := roundedZero.mpr small
    have inside : |binary32.roundTo value| < (2 : ℚ) ^ (128 : ℤ) := by
      rw [rounded, abs_zero]
      positivity
    simp only [Double.toBinary32]
    rw [if_pos inside, rounded]

end Go2Navigation.Numeric
