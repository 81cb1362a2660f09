import Mathlib.Algebra.Order.Floor.Ring
import Mathlib.Algebra.Ring.Int.Parity
import Mathlib.Data.Int.Log
import Mathlib.Tactic.FieldSimp
import Mathlib.Tactic.Linarith
import Mathlib.Tactic.NormNum
import Mathlib.Tactic.Ring

/-!
# Rounding to nearest, ties to even, in a binary floating-point format

A binary format is given by its precision, the exponent of its least quantum
and the exponent at which magnitudes overflow.  A number is rounded by
scaling it to the quantum of its binade, rounding the scaled value to the
nearest integer with ties to the even neighbour, and scaling back.

The two adjunction-like characterisations of the integer rounding carry every
later order fact: rounding is monotone and odd, it fixes the powers of two of
the format, and both its overflow threshold and its underflow threshold are
exact.
-/

namespace Go2Navigation.Numeric

section Integer

variable {K : Type*} [Field K] [LinearOrder K] [FloorRing K]

/-- The nearest integer; a tie goes to the even neighbour. -/
def roundHalfEven (value : K) : ℤ :=
  if value - ⌊value⌋ < 1 / 2 then ⌊value⌋
  else if 1 / 2 < value - ⌊value⌋ then ⌊value⌋ + 1
  else if Even ⌊value⌋ then ⌊value⌋
  else ⌊value⌋ + 1

variable [IsStrictOrderedRing K]

/-- An integer is at most the rounded value exactly from its lower tie on. -/
theorem le_roundHalfEven_iff (bound : ℤ) (value : K) :
    bound ≤ roundHalfEven value ↔
      (bound : K) - 1 / 2 < value ∨
        ((bound : K) - 1 / 2 = value ∧ Even bound) := by
  have floorLe : (⌊value⌋ : K) ≤ value := Int.floor_le value
  have ltFloor : value < (⌊value⌋ : K) + 1 := Int.lt_floor_add_one value
  rcases lt_trichotomy bound (⌊value⌋ + 1) with below | equal | above
  · have belowFloor : bound ≤ ⌊value⌋ := by omega
    have castBelow : (bound : K) ≤ ⌊value⌋ := by exact_mod_cast belowFloor
    have rounded : ⌊value⌋ ≤ roundHalfEven value := by
      unfold roundHalfEven
      split_ifs <;> omega
    constructor
    · intro _
      exact Or.inl (by linarith)
    · intro _
      exact belowFloor.trans rounded
  · have castEqual : (bound : K) = ⌊value⌋ + 1 := by
      exact_mod_cast equal
    have parity : Even bound ↔ ¬ Even ⌊value⌋ := by
      rw [equal, Int.even_add_one]
    unfold roundHalfEven
    split_ifs with small large even
    · constructor
      · intro impossible
        omega
      · rintro (strict | ⟨tie, _⟩) <;> linarith
    · constructor
      · intro _
        exact Or.inl (by linarith)
      · intro _
        exact equal.le
    · constructor
      · intro impossible
        omega
      · rintro (strict | ⟨_, boundEven⟩)
        · linarith
        · exact absurd even (parity.mp boundEven)
    · constructor
      · intro _
        have tie : (bound : K) - 1 / 2 = value := by linarith
        exact Or.inr ⟨tie, parity.mpr even⟩
      · intro _
        exact equal.le
  · have castAbove : (⌊value⌋ : K) + 2 ≤ bound := by
      have integerAbove : ⌊value⌋ + 2 ≤ bound := by omega
      exact_mod_cast integerAbove
    have rounded : roundHalfEven value ≤ ⌊value⌋ + 1 := by
      unfold roundHalfEven
      split_ifs <;> omega
    constructor
    · intro boundLe
      omega
    · rintro (strict | ⟨tie, _⟩) <;> linarith

/-- The rounded value lies strictly below an integer up to its lower tie. -/
theorem roundHalfEven_lt_iff (bound : ℤ) (value : K) :
    roundHalfEven value < bound ↔
      value < (bound : K) - 1 / 2 ∨
        (value = (bound : K) - 1 / 2 ∧ ¬ Even bound) := by
  rw [← not_le, le_roundHalfEven_iff, not_or, not_lt, not_and]
  constructor
  · rintro ⟨atMost, odd⟩
    rcases atMost.lt_or_eq with strict | tie
    · exact Or.inl strict
    · exact Or.inr ⟨tie, odd tie.symm⟩
  · rintro (strict | ⟨tie, odd⟩)
    · exact ⟨strict.le, fun equal => absurd equal.symm strict.ne⟩
    · exact ⟨tie.le, fun _ => odd⟩

theorem roundHalfEven_mono {left right : K} (ordered : left ≤ right) :
    roundHalfEven left ≤ roundHalfEven right := by
  rw [le_roundHalfEven_iff]
  rcases (le_roundHalfEven_iff (roundHalfEven left) left).mp le_rfl
    with strict | ⟨tie, even⟩
  · exact Or.inl (strict.trans_le ordered)
  · rcases ordered.lt_or_eq with strictly | equal
    · exact Or.inl (tie.trans_lt strictly)
    · exact Or.inr ⟨tie.trans equal, even⟩

@[simp]
theorem roundHalfEven_intCast (value : ℤ) :
    roundHalfEven (value : K) = value := by
  simp [roundHalfEven]

@[simp]
theorem roundHalfEven_zero : roundHalfEven (0 : K) = 0 := by
  simpa using roundHalfEven_intCast (K := K) 0

/-- Rounding is odd: ties go to the even neighbour on either side of zero. -/
theorem roundHalfEven_neg (value : K) :
    roundHalfEven (-value) = -roundHalfEven value := by
  apply le_antisymm
  · apply Int.lt_add_one_iff.mp
    rw [roundHalfEven_lt_iff]
    push_cast
    rcases (le_roundHalfEven_iff (roundHalfEven value) value).mp le_rfl
      with strict | ⟨tie, even⟩
    · exact Or.inl (by linarith)
    · refine Or.inr ⟨by linarith, ?_⟩
      rw [Int.even_add_one, not_not, even_neg]
      exact even
  · rw [le_roundHalfEven_iff]
    push_cast
    rcases
        (roundHalfEven_lt_iff (roundHalfEven value + 1) value).mp
          (Int.lt_add_one_iff.mpr le_rfl)
      with strict | ⟨tie, odd⟩
    · push_cast at strict
      exact Or.inl (by linarith)
    · push_cast at tie
      rw [Int.even_add_one, not_not] at odd
      exact Or.inr ⟨by linarith, even_neg.mpr odd⟩

end Integer

/-! ## Formats -/

/--
A binary format: significands of `precision` bits, a least quantum
`2 ^ quantumMin`, and magnitudes below `2 ^ exponentMax`.  The top binade has
a normal significand.
-/
structure BinaryFormat where
  precision : ℕ
  quantumMin : ℤ
  exponentMax : ℤ
  precision_pos : 0 < precision
  top_normal : quantumMin + precision ≤ exponentMax

namespace BinaryFormat

variable {K : Type*} [Field K] [LinearOrder K] [FloorRing K]

/-- Exponent of the distance between neighbours in the binade of a value. -/
def quantum (format : BinaryFormat) (value : K) : ℤ :=
  if value = 0 then format.quantumMin
  else max format.quantumMin (Int.log 2 |value| - format.precision + 1)

/-- Rounding into the format with an unbounded exponent range upwards. -/
def roundTo (format : BinaryFormat) (value : K) : K :=
  roundHalfEven (value / 2 ^ format.quantum value) *
    2 ^ format.quantum value

/-- The least magnitude which rounds to `2 ^ exponentMax`. -/
def overflowThreshold (format : BinaryFormat) : K :=
  2 ^ format.exponentMax - 2 ^ (format.exponentMax - format.precision - 1)

theorem quantumMin_le_quantum (format : BinaryFormat) (value : K) :
    format.quantumMin ≤ format.quantum value := by
  unfold quantum
  split_ifs
  · exact le_rfl
  · exact le_max_left _ _

@[simp]
theorem quantum_neg (format : BinaryFormat) (value : K) :
    format.quantum (-value) = format.quantum value := by
  simp [quantum]

variable [IsStrictOrderedRing K]

@[simp]
theorem roundTo_neg (format : BinaryFormat) (value : K) :
    format.roundTo (-value) = -format.roundTo value := by
  simp [roundTo, neg_div, roundHalfEven_neg]

theorem abs_lt_zpow_quantum (format : BinaryFormat) (value : K) :
    |value| < 2 ^ (format.quantum value + format.precision) := by
  by_cases zero : value = 0
  · subst value
    simpa using zpow_pos (two_pos : (0 : K) < 2) _
  · have bound : |value| < (2 : K) ^ (Int.log 2 |value| + 1) := by
      exact_mod_cast Int.lt_zpow_succ_log_self (by norm_num : 1 < 2) |value|
    refine bound.trans_le (zpow_le_zpow_right₀ one_le_two ?_)
    have atLeast := le_max_right format.quantumMin
      (Int.log 2 |value| - format.precision + 1)
    simp only [quantum, if_neg zero]
    omega

/-- Above the subnormal range the scaled magnitude has full precision. -/
theorem zpow_le_abs_of_quantumMin_lt (format : BinaryFormat) {value : K}
    (normal : format.quantumMin < format.quantum value) :
    2 ^ (format.quantum value + format.precision - 1) ≤ |value| := by
  by_cases zero : value = 0
  · simp [quantum, zero] at normal
  · have quantumEq :
        format.quantum value =
          Int.log 2 |value| - format.precision + 1 := by
      simp only [quantum, if_neg zero] at normal ⊢
      omega
    have exponentEq :
        format.quantum value + format.precision - 1 =
          Int.log 2 |value| := by omega
    rw [exponentEq]
    exact_mod_cast
      Int.zpow_log_le_self (by norm_num : 1 < 2) (abs_pos.mpr zero)

theorem quantum_mono (format : BinaryFormat) {left right : K}
    (nonneg : 0 ≤ left) (ordered : left ≤ right) :
    format.quantum left ≤ format.quantum right := by
  by_cases zero : left = 0
  · simpa [quantum, zero] using format.quantumMin_le_quantum right
  · have leftPos : 0 < left := lt_of_le_of_ne nonneg (Ne.symm zero)
    have rightPos : 0 < right := leftPos.trans_le ordered
    have logLe := Int.log_mono_right (b := 2) leftPos ordered
    simp only [quantum, if_neg zero, if_neg rightPos.ne',
      abs_of_pos leftPos, abs_of_pos rightPos]
    omega

/-- An integer multiple of the quantum bounds the rounded value from below. -/
theorem mul_zpow_le_roundTo (format : BinaryFormat) {value : K} {count : ℤ}
    (bound : (count : K) * 2 ^ format.quantum value ≤ value) :
    (count : K) * 2 ^ format.quantum value ≤ format.roundTo value := by
  have quantumPos : (0 : K) < 2 ^ format.quantum value := zpow_pos two_pos _
  have scaled : (count : K) ≤ value / 2 ^ format.quantum value :=
    (le_div_iff₀ quantumPos).mpr bound
  have rounded : count ≤ roundHalfEven (value / 2 ^ format.quantum value) := by
    simpa using roundHalfEven_mono scaled
  exact mul_le_mul_of_nonneg_right (by exact_mod_cast rounded) quantumPos.le

/-- An integer multiple of the quantum bounds the rounded value from above. -/
theorem roundTo_le_mul_zpow (format : BinaryFormat) {value : K} {count : ℤ}
    (bound : value ≤ (count : K) * 2 ^ format.quantum value) :
    format.roundTo value ≤ (count : K) * 2 ^ format.quantum value := by
  have quantumPos : (0 : K) < 2 ^ format.quantum value := zpow_pos two_pos _
  have scaled : value / 2 ^ format.quantum value ≤ (count : K) :=
    (div_le_iff₀ quantumPos).mpr bound
  have rounded : roundHalfEven (value / 2 ^ format.quantum value) ≤ count := by
    simpa using roundHalfEven_mono scaled
  exact mul_le_mul_of_nonneg_right (by exact_mod_cast rounded) quantumPos.le

theorem roundTo_nonneg (format : BinaryFormat) {value : K}
    (nonneg : 0 ≤ value) : 0 ≤ format.roundTo value := by
  have bound : ((0 : ℤ) : K) * 2 ^ format.quantum value ≤ value := by
    simpa
  simpa using format.mul_zpow_le_roundTo bound

/-- A rounded magnitude stays within the closed binade of its argument. -/
theorem roundTo_le_zpow (format : BinaryFormat) (value : K) :
    format.roundTo value ≤ 2 ^ (format.quantum value + format.precision) := by
  have split :
      (2 : K) ^ (format.quantum value + format.precision) =
        ((2 ^ format.precision : ℤ) : K) * 2 ^ format.quantum value := by
    push_cast
    rw [add_comm, zpow_add₀ two_ne_zero, zpow_natCast]
  rw [split]
  apply format.roundTo_le_mul_zpow
  rw [← split]
  exact (le_abs_self value).trans (format.abs_lt_zpow_quantum value).le

/-- Above the subnormal range rounding keeps the full-precision lower bound. -/
theorem zpow_le_roundTo (format : BinaryFormat) {value : K}
    (nonneg : 0 ≤ value)
    (normal : format.quantumMin < format.quantum value) :
    2 ^ (format.quantum value + format.precision - 1) ≤
      format.roundTo value := by
  obtain ⟨bits, bitsEq⟩ : ∃ bits, format.precision = bits + 1 :=
    ⟨format.precision - 1, by have := format.precision_pos; omega⟩
  have split :
      (2 : K) ^ (format.quantum value + format.precision - 1) =
        ((2 ^ bits : ℤ) : K) * 2 ^ format.quantum value := by
    have exponentEq :
        format.quantum value + format.precision - 1 =
          bits + format.quantum value := by
      rw [bitsEq]
      push_cast
      ring
    rw [exponentEq, zpow_add₀ two_ne_zero]
    push_cast
    rw [zpow_natCast]
  rw [split]
  apply format.mul_zpow_le_roundTo
  rw [← split]
  simpa [abs_of_nonneg nonneg] using
    format.zpow_le_abs_of_quantumMin_lt normal

theorem roundTo_mono_of_nonneg (format : BinaryFormat) {left right : K}
    (nonneg : 0 ≤ left) (ordered : left ≤ right) :
    format.roundTo left ≤ format.roundTo right := by
  rcases (format.quantum_mono nonneg ordered).eq_or_lt with same | finer
  · unfold roundTo
    rw [same]
    have quantumPos : (0 : K) < 2 ^ format.quantum right := zpow_pos two_pos _
    have rounded :=
      roundHalfEven_mono (div_le_div_of_nonneg_right ordered quantumPos.le)
    exact mul_le_mul_of_nonneg_right (by exact_mod_cast rounded) quantumPos.le
  · have normal : format.quantumMin < format.quantum right :=
      (format.quantumMin_le_quantum left).trans_lt finer
    calc
      format.roundTo left
          ≤ 2 ^ (format.quantum left + format.precision) :=
        format.roundTo_le_zpow left
      _ ≤ 2 ^ (format.quantum right + format.precision - 1) :=
        zpow_le_zpow_right₀ one_le_two (by omega)
      _ ≤ format.roundTo right :=
        format.zpow_le_roundTo (nonneg.trans ordered) normal

theorem abs_roundTo (format : BinaryFormat) (value : K) :
    |format.roundTo value| = format.roundTo |value| := by
  rcases le_total 0 value with nonneg | nonpos
  · rw [abs_of_nonneg nonneg, abs_of_nonneg (format.roundTo_nonneg nonneg)]
  · rw [abs_of_nonpos nonpos, roundTo_neg, abs_of_nonpos]
    have := format.roundTo_nonneg (neg_nonneg.mpr nonpos)
    rw [roundTo_neg] at this
    linarith

/-- Rounding is monotone in the magnitude. -/
theorem abs_roundTo_mono (format : BinaryFormat) {left right : K}
    (ordered : |left| ≤ |right|) :
    |format.roundTo left| ≤ |format.roundTo right| := by
  rw [abs_roundTo, abs_roundTo]
  exact format.roundTo_mono_of_nonneg (abs_nonneg left) ordered

/-- Powers of two from the least quantum on are fixed by rounding. -/
theorem roundTo_zpow (format : BinaryFormat) {exponent : ℤ}
    (representable : format.quantumMin ≤ exponent) :
    format.roundTo ((2 : K) ^ exponent) = 2 ^ exponent := by
  have powPos : (0 : K) < 2 ^ exponent := zpow_pos two_pos _
  have logEq : Int.log 2 |(2 : K) ^ exponent| = exponent := by
    rw [abs_of_pos powPos]
    exact_mod_cast Int.log_zpow (R := K) (by norm_num : 1 < 2) exponent
  have quantumLe : format.quantum ((2 : K) ^ exponent) ≤ exponent := by
    have := format.precision_pos
    simp only [quantum, if_neg powPos.ne', logEq]
    omega
  obtain ⟨shift, shiftEq⟩ := Int.le.dest quantumLe
  have scaled :
      (2 : K) ^ exponent / 2 ^ format.quantum ((2 : K) ^ exponent) =
        ((2 ^ shift : ℤ) : K) := by
    rw [← zpow_sub₀ two_ne_zero]
    push_cast
    rw [← zpow_natCast]
    congr 1
    omega
  unfold roundTo
  rw [scaled, roundHalfEven_intCast, ← scaled]
  exact div_mul_cancel₀ _ (zpow_pos two_pos _).ne'

/-! ## The two thresholds -/

theorem quantum_eq_of_top_binade (format : BinaryFormat) {value : K}
    (lower : 2 ^ (format.exponentMax - 1) ≤ value)
    (upper : value < 2 ^ format.exponentMax) :
    format.quantum value = format.exponentMax - format.precision := by
  have valuePos : 0 < value := (zpow_pos two_pos _).trans_le lower
  have logLower : format.exponentMax - 1 ≤ Int.log 2 value :=
    (Int.zpow_le_iff_le_log (by norm_num : 1 < 2) valuePos).mp
      (by exact_mod_cast lower)
  have logUpper : Int.log 2 value < format.exponentMax :=
    (Int.lt_zpow_iff_log_lt (by norm_num : 1 < 2) valuePos).mp
      (by exact_mod_cast upper)
  have topNormal := format.top_normal
  simp only [quantum, if_neg valuePos.ne', abs_of_pos valuePos]
  omega

/-- The top of the format, written as a multiple of its top quantum. -/
theorem zpow_exponentMax_eq (format : BinaryFormat) :
    (2 : K) ^ format.exponentMax =
      2 ^ format.precision *
        2 ^ (format.exponentMax - format.precision) := by
  have twoPos : (0 : K) < 2 := two_pos
  rw [← zpow_natCast, ← zpow_add₀ twoPos.ne']
  congr 1
  ring

/-- The overflow threshold is half a quantum below the top of the format. -/
theorem overflowThreshold_eq (format : BinaryFormat) :
    (format.overflowThreshold : K) =
      (2 ^ format.precision - 1 / 2) *
        2 ^ (format.exponentMax - format.precision) := by
  unfold overflowThreshold
  rw [zpow_exponentMax_eq, zpow_sub_one₀ two_ne_zero]
  ring

theorem zpow_le_overflowThreshold (format : BinaryFormat) :
    (2 : K) ^ (format.exponentMax - 1) ≤ format.overflowThreshold := by
  have precisionPos := format.precision_pos
  have finer :
      (2 : K) ^ (format.exponentMax - format.precision - 1) ≤
        2 ^ (format.exponentMax - 1) :=
    zpow_le_zpow_right₀ one_le_two (by omega)
  have double :
      (2 : K) ^ format.exponentMax = 2 ^ (format.exponentMax - 1) * 2 := by
    rw [← zpow_add_one₀ two_ne_zero]
    congr 1
    ring
  unfold overflowThreshold
  linarith

theorem overflowThreshold_lt (format : BinaryFormat) :
    (format.overflowThreshold : K) < 2 ^ format.exponentMax :=
  sub_lt_self _ (zpow_pos two_pos _)

/-- The tie at the top of the format goes up: its lower neighbour is odd. -/
theorem zpow_exponentMax_le_roundTo (format : BinaryFormat) {value : K}
    (overflows : format.overflowThreshold ≤ value) :
    2 ^ format.exponentMax ≤ format.roundTo value := by
  have quantumPos :
      (0 : K) < 2 ^ (format.exponentMax - format.precision) :=
    zpow_pos two_pos _
  have quantumEq :
      format.quantum (format.overflowThreshold : K) =
        format.exponentMax - format.precision :=
    format.quantum_eq_of_top_binade
      format.zpow_le_overflowThreshold format.overflowThreshold_lt
  have scaled :
      (format.overflowThreshold : K) /
          2 ^ (format.exponentMax - format.precision) =
        2 ^ format.precision - 1 / 2 := by
    rw [overflowThreshold_eq, mul_div_cancel_right₀ _ quantumPos.ne']
  have even : Even (2 ^ format.precision : ℤ) :=
    even_two.pow_of_ne_zero format.precision_pos.ne'
  have rounded :
      (2 ^ format.precision : ℤ) ≤
        roundHalfEven ((2 : K) ^ format.precision - 1 / 2) :=
    (le_roundHalfEven_iff _ _).mpr (Or.inr ⟨by push_cast; rfl, even⟩)
  have atThreshold :
      (2 : K) ^ format.exponentMax ≤
        format.roundTo (format.overflowThreshold : K) := by
    unfold roundTo
    rw [quantumEq, scaled, zpow_exponentMax_eq]
    exact
      mul_le_mul_of_nonneg_right (by exact_mod_cast rounded) quantumPos.le
  have thresholdNonneg : (0 : K) ≤ format.overflowThreshold :=
    (zpow_pos two_pos _).le.trans format.zpow_le_overflowThreshold
  exact
    atThreshold.trans
      (format.roundTo_mono_of_nonneg thresholdNonneg overflows)

theorem roundTo_lt_zpow_exponentMax (format : BinaryFormat) {value : K}
    (nonneg : 0 ≤ value) (below : value < format.overflowThreshold) :
    format.roundTo value < 2 ^ format.exponentMax := by
  have precisionPos := format.precision_pos
  have topNormal := format.top_normal
  rcases lt_or_ge value (2 ^ (format.exponentMax - 1)) with low | top
  · calc
      format.roundTo value
          ≤ format.roundTo (2 ^ (format.exponentMax - 1)) :=
        format.roundTo_mono_of_nonneg nonneg low.le
      _ = 2 ^ (format.exponentMax - 1) :=
        format.roundTo_zpow (by omega)
      _ < 2 ^ format.exponentMax :=
        zpow_lt_zpow_right₀ one_lt_two (by omega)
  · have quantumPos :
        (0 : K) < 2 ^ (format.exponentMax - format.precision) :=
      zpow_pos two_pos _
    have quantumEq := format.quantum_eq_of_top_binade top
      (below.trans format.overflowThreshold_lt)
    rw [overflowThreshold_eq, ← div_lt_iff₀ quantumPos] at below
    have rounded :
        roundHalfEven
            (value / 2 ^ (format.exponentMax - format.precision)) <
          (2 ^ format.precision : ℤ) :=
      (roundHalfEven_lt_iff _ _).mpr (Or.inl (by push_cast; exact below))
    unfold roundTo
    rw [quantumEq, zpow_exponentMax_eq]
    exact mul_lt_mul_of_pos_right (by exact_mod_cast rounded) quantumPos

/-- Exactly the magnitudes below the overflow threshold round inside the format. -/
theorem abs_roundTo_lt_iff (format : BinaryFormat) (value : K) :
    |format.roundTo value| < 2 ^ format.exponentMax ↔
      |value| < format.overflowThreshold := by
  rw [abs_roundTo]
  constructor
  · intro inside
    by_contra outside
    exact
      absurd (format.zpow_exponentMax_le_roundTo (not_lt.mp outside))
        (not_le.mpr inside)
  · exact format.roundTo_lt_zpow_exponentMax (abs_nonneg value)

/-- Exactly the magnitudes up to half the least quantum round to zero. -/
theorem roundTo_eq_zero_iff (format : BinaryFormat) (value : K) :
    format.roundTo value = 0 ↔ |value| ≤ 2 ^ (format.quantumMin - 1) := by
  have halfQuantum :
      (2 : K) ^ (format.quantumMin - 1) = 1 / 2 * 2 ^ format.quantumMin := by
    rw [zpow_sub_one₀ two_ne_zero]
    ring
  have leastPos : (0 : K) < 2 ^ format.quantumMin := zpow_pos two_pos _
  rw [← abs_eq_zero, abs_roundTo, halfQuantum, ← div_le_iff₀ leastPos]
  rcases (format.quantumMin_le_quantum |value|).eq_or_lt with least | normal
  · have scaledNonneg : 0 ≤ |value| / 2 ^ format.quantumMin :=
      div_nonneg (abs_nonneg value) leastPos.le
    have roundedNonneg :
        0 ≤ roundHalfEven (|value| / 2 ^ format.quantumMin) := by
      simpa using roundHalfEven_mono scaledNonneg
    have belowOne :=
      roundHalfEven_lt_iff 1 (|value| / 2 ^ format.quantumMin)
    unfold roundTo
    rw [← least, mul_eq_zero, or_iff_left leastPos.ne', Int.cast_eq_zero]
    constructor
    · intro zero
      rcases belowOne.mp (by omega) with strict | ⟨tie, _⟩
      · push_cast at strict
        linarith
      · push_cast at tie
        linarith
    · intro small
      have rounded :
          roundHalfEven (|value| / 2 ^ format.quantumMin) < 1 := by
        apply belowOne.mpr
        push_cast
        rcases small.lt_or_eq with strict | tie
        · exact Or.inl (by linarith)
        · exact Or.inr ⟨by linarith, by decide⟩
      omega
  · have roundedPos : 0 < format.roundTo |value| :=
      (zpow_pos two_pos _).trans_le
        (format.zpow_le_roundTo (abs_nonneg value) normal)
    have precisionPos := format.precision_pos
    have large :
        (2 : K) ^ format.quantumMin ≤ |value| := by
      have fullPrecision := format.zpow_le_abs_of_quantumMin_lt normal
      rw [abs_abs] at fullPrecision
      exact
        (zpow_le_zpow_right₀ one_le_two (by omega)).trans fullPrecision
    constructor
    · intro zero
      exact absurd zero roundedPos.ne'
    · intro small
      have atLeastOne : 1 ≤ |value| / 2 ^ format.quantumMin :=
        (one_le_div leastPos).mpr large
      linarith

end BinaryFormat

end Go2Navigation.Numeric
