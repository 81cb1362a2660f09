import Mathlib.Data.BitVec
import Mathlib.Data.List.Basic

/-!
# Cyclic redundancy checks

A register of any width is shifted towards its most significant bit; a
polynomial is added whenever the bit that leaves it differs from the bit that
is fed.  Feeding is linear, a register fed its own leading bits only shifts,
and a polynomial with a constant term makes every step reversible.  From these
come the computation by table, the vanishing of a message followed by its own
check value, and the detection of every burst no longer than the register.
-/

namespace Go2Navigation.Foundation

variable {width : ℕ}

/-- What the polynomial adds when a bit is fed back. -/
def feedback (polynomial : BitVec width) (bit : Bool) : BitVec width :=
  if bit then polynomial else 0

def shiftStep
    (polynomial register : BitVec width) (bit : Bool) : BitVec width :=
  (register <<< 1) ^^^ feedback polynomial (register.msb ^^ bit)

/-- The register after a message, from its most significant bits on. -/
def shiftRegister
    (polynomial register : BitVec width) (bits : List Bool) :
    BitVec width :=
  bits.foldl (shiftStep polynomial) register

/-- The leading bits of a register, most significant first. -/
def leadingBits : ℕ → BitVec width → List Bool
  | 0, _ => []
  | count + 1, register =>
      register.msb :: leadingBits count (register <<< 1)

@[simp]
theorem shiftRegister_nil (polynomial register : BitVec width) :
    shiftRegister polynomial register [] = register :=
  rfl

@[simp]
theorem shiftRegister_cons
    (polynomial register : BitVec width) (bit : Bool) (bits : List Bool) :
    shiftRegister polynomial register (bit :: bits) =
      shiftRegister polynomial (shiftStep polynomial register bit) bits :=
  rfl

theorem shiftRegister_append
    (polynomial register : BitVec width) (left right : List Bool) :
    shiftRegister polynomial register (left ++ right) =
      shiftRegister polynomial
        (shiftRegister polynomial register left) right :=
  List.foldl_append

@[simp]
theorem length_leadingBits (count : ℕ) (register : BitVec width) :
    (leadingBits count register).length = count := by
  induction count generalizing register with
  | zero => rfl
  | succ count induction => simp [leadingBits, induction]

@[simp]
theorem getElem_leadingBits
    (count : ℕ) (register : BitVec width) (index : ℕ)
    (inside : index < (leadingBits count register).length) :
    (leadingBits count register)[index] = register.getMsbD index := by
  induction count generalizing register index with
  | zero => simp [leadingBits] at inside
  | succ count induction =>
      cases index with
      | zero => rfl
      | succ index => simp [leadingBits, induction]

theorem leadingBits_add
    (left right : ℕ) (register : BitVec width) :
    leadingBits (left + right) register =
      leadingBits left register ++ leadingBits right (register <<< left) := by
  induction left generalizing register with
  | zero => simp [leadingBits]
  | succ left induction =>
      rw [Nat.succ_add, leadingBits, leadingBits, induction, List.cons_append,
        ← BitVec.shiftLeft_add, Nat.add_comm 1 left]

/-- The bits of two registers side by side. -/
theorem leadingBits_append
    {left right : ℕ} (high : BitVec left) (low : BitVec right) :
    leadingBits (left + right) (high ++ low) =
      leadingBits left high ++ leadingBits right low := by
  refine List.ext_getElem (by simp) fun index inside _ => ?_
  rw [length_leadingBits] at inside
  rw [List.getElem_append, getElem_leadingBits, BitVec.getMsbD_append]
  split_ifs with front behind behind <;> simp at front behind ⊢ <;> omega

theorem leadingBits_xor (count : ℕ) (left right : BitVec width) :
    leadingBits count (left ^^^ right) =
      List.zipWith (· ^^ ·) (leadingBits count left)
        (leadingBits count right) := by
  induction count generalizing left right with
  | zero => rfl
  | succ count induction =>
      simp only [leadingBits, List.zipWith_cons_cons, BitVec.msb_xor,
        BitVec.shiftLeft_xor_distrib, induction]

@[simp]
theorem leadingBits_zero (count : ℕ) :
    leadingBits count 0#(width) = List.replicate count false := by
  induction count with
  | zero => rfl
  | succ count induction =>
      simp [leadingBits, induction, List.replicate_succ]

/-! ## Linearity -/

theorem feedback_xor (polynomial : BitVec width) (left right : Bool) :
    feedback polynomial (left ^^ right) =
      feedback polynomial left ^^^ feedback polynomial right := by
  cases left <;> cases right <;> simp [feedback]

theorem shiftStep_xor
    (polynomial left right : BitVec width) (leftBit rightBit : Bool) :
    shiftStep polynomial (left ^^^ right) (leftBit ^^ rightBit) =
      shiftStep polynomial left leftBit ^^^
        shiftStep polynomial right rightBit := by
  simp only [shiftStep, BitVec.shiftLeft_xor_distrib, BitVec.msb_xor,
    feedback_xor]
  ac_rfl

/-- Feeding is linear in the register and in the message. -/
theorem shiftRegister_xor
    (polynomial left right : BitVec width) (leftBits rightBits : List Bool)
    (sameLength : leftBits.length = rightBits.length) :
    shiftRegister polynomial (left ^^^ right)
        (List.zipWith (· ^^ ·) leftBits rightBits) =
      shiftRegister polynomial left leftBits ^^^
        shiftRegister polynomial right rightBits := by
  induction leftBits generalizing left right rightBits with
  | nil =>
      rw [List.length_nil, eq_comm, List.length_eq_zero_iff] at sameLength
      rw [sameLength]
      rfl
  | cons leftBit leftBits induction =>
      rcases rightBits with _ | ⟨rightBit, rightBits⟩
      · simp at sameLength
      · simp only [List.zipWith_cons_cons, shiftRegister_cons, shiftStep_xor]
        exact induction _ _ _ (by simpa using sameLength)

/-! ## A register fed its own leading bits -/

/-- A register fed its own leading bits shifts without feedback. -/
theorem shiftRegister_leadingBits
    (polynomial : BitVec width) (count : ℕ) (register : BitVec width) :
    shiftRegister polynomial register (leadingBits count register) =
      register <<< count := by
  induction count generalizing register with
  | zero => simp [leadingBits]
  | succ count induction =>
      have step :
          shiftStep polynomial register register.msb = register <<< 1 := by
        simp [shiftStep, feedback]
      rw [leadingBits, shiftRegister_cons, step, induction,
        ← BitVec.shiftLeft_add, Nat.add_comm]

/-- A message followed by its own check value leaves an empty register. -/
theorem shiftRegister_append_check
    (polynomial register : BitVec width) (bits : List Bool) :
    shiftRegister polynomial register
        (bits ++
          leadingBits width (shiftRegister polynomial register bits)) =
      0#(width) := by
  rw [shiftRegister_append, shiftRegister_leadingBits,
    BitVec.shiftLeft_eq_zero le_rfl]

/-- Several bits at once: a shift, and the check value of what differs. -/
theorem shiftRegister_eq_table
    (polynomial register : BitVec width) (bits : List Bool) :
    shiftRegister polynomial register bits =
      (register <<< bits.length) ^^^
        shiftRegister polynomial 0#(width)
          (List.zipWith (· ^^ ·) (leadingBits bits.length register)
            bits) := by
  have linear :=
    shiftRegister_xor polynomial register 0#(width)
      (leadingBits bits.length register)
      (List.zipWith (· ^^ ·) (leadingBits bits.length register) bits)
      (by simp)
  have fed :
      List.zipWith (· ^^ ·) (leadingBits bits.length register)
          (List.zipWith (· ^^ ·) (leadingBits bits.length register) bits) =
        bits := by
    refine List.ext_getElem (by simp) ?_
    intro index _ _
    simp
  rw [fed, BitVec.xor_zero, shiftRegister_leadingBits] at linear
  exact linear

/-! ## Bursts -/

/-- With a constant term, a step forgets nothing of the register. -/
theorem shiftStep_injective
    {polynomial : BitVec width} (constant : polynomial.getLsbD 0 = true)
    (bit : Bool) :
    Function.Injective fun register => shiftStep polynomial register bit := by
  intro left right same
  have zero : shiftStep polynomial (left ^^^ right) false = 0#(width) := by
    have linear := shiftStep_xor polynomial left right bit bit
    rw [Bool.xor_self] at linear
    rw [linear]
    exact BitVec.xor_eq_zero_iff.mpr same
  suffices left ^^^ right = 0#(width) from BitVec.xor_eq_zero_iff.mp this
  generalize left ^^^ right = difference at zero
  have positive : 0 < width := by
    by_contra empty
    rw [BitVec.getLsbD_of_ge _ _ (Nat.le_of_not_lt empty)] at constant
    cases constant
  have silent : difference.msb = false := by
    have lowest := congrArg (BitVec.getLsbD · 0) zero
    cases leaving : difference.msb with
    | false => rfl
    | true => simp [shiftStep, feedback, leaving, constant] at lowest
  have shifted : difference <<< 1 = 0#(width) := by
    simpa [shiftStep, feedback, silent] using zero
  refine BitVec.eq_of_getLsbD_eq fun index inside => ?_
  rcases Nat.lt_or_ge (index + 1) width with within | outside
  · have bit := congrArg (BitVec.getLsbD · (index + 1)) shifted
    simpa only [BitVec.getLsbD_shiftLeft, within, decide_true,
      Nat.add_sub_cancel, Bool.true_and, Nat.not_lt.mpr (Nat.le_add_left 1 _),
      decide_false, Bool.not_false, BitVec.getLsbD_zero] using bit
  · rw [BitVec.msb_eq_getLsbD_last] at silent
    rw [show index = width - 1 by omega, silent]
    simp

theorem shiftRegister_injective
    {polynomial : BitVec width} (constant : polynomial.getLsbD 0 = true)
    (bits : List Bool) :
    Function.Injective fun register =>
      shiftRegister polynomial register bits := by
  induction bits with
  | nil => exact fun _ _ same => same
  | cons bit bits induction =>
      intro left right same
      exact shiftStep_injective constant bit (induction same)

/-- Every short message is what some register starts with, and all of it. -/
theorem exists_leadingBits (bits : List Bool) (short : bits.length ≤ width) :
    ∃ register : BitVec width,
      leadingBits bits.length register = bits ∧
        register <<< bits.length = 0#(width) := by
  induction bits with
  | nil => exact ⟨0#(width), rfl, by simp⟩
  | cons bit bits induction =>
      rw [List.length_cons] at short
      rcases induction (by omega) with ⟨rest, leading, cleared⟩
      have lowest : rest.getLsbD 0 = false := by
        have bit := congrArg (BitVec.getLsbD · bits.length) cleared
        have inside : bits.length < width := by omega
        simpa only [BitVec.getLsbD_shiftLeft, inside, decide_true,
          Nat.lt_irrefl, decide_false, Bool.not_false, Bool.true_and,
          Nat.sub_self, BitVec.getLsbD_zero] using bit
      let register : BitVec width :=
        (rest >>> 1) ^^^ feedback (BitVec.twoPow width (width - 1)) bit
      have shifted : register <<< 1 = rest := by
        refine BitVec.eq_of_getLsbD_eq fun index inside => ?_
        rcases index with _ | index
        · simp [lowest]
        · have apart : ¬ index = width - 1 := by omega
          cases bit <;>
            simp [register, feedback, inside, apart, Nat.add_comm 1 index]
      have leads : register.msb = bit := by
        have last : width - 1 < width := by omega
        have beyond : rest.getLsbD (1 + (width - 1)) = false :=
          BitVec.getLsbD_of_ge _ _ (by omega)
        cases bit <;>
          simp [register, feedback, BitVec.msb_eq_getLsbD_last, last, beyond]
      refine ⟨register, ?_, ?_⟩
      · rw [List.length_cons, leadingBits, leads, shifted, leading]
      · rw [List.length_cons, Nat.add_comm, BitVec.shiftLeft_add, shifted,
          cleared]

/-- No short message but that of zeros leaves an empty register empty. -/
theorem eq_replicate_of_shiftRegister_eq_zero
    {polynomial : BitVec width} (constant : polynomial.getLsbD 0 = true)
    {bits : List Bool} (short : bits.length ≤ width)
    (empty : shiftRegister polynomial 0#(width) bits = 0#(width)) :
    bits = List.replicate bits.length false := by
  rcases exists_leadingBits bits short with ⟨register, leading, cleared⟩
  have fed : shiftRegister polynomial register bits = 0#(width) := by
    rw [← leading, shiftRegister_leadingBits, cleared]
  have same : register = 0#(width) :=
    shiftRegister_injective constant bits (fed.trans empty.symm)
  rw [same, leadingBits_zero] at leading
  exact leading.symm

/--
A change confined to as many consecutive bits as the register holds changes
the check value.
-/
theorem shiftRegister_burst
    {polynomial : BitVec width} (constant : polynomial.getLsbD 0 = true)
    (register : BitVec width) (before after : List Bool)
    {left right : List Bool} (sameLength : left.length = right.length)
    (short : left.length ≤ width)
    (same :
      shiftRegister polynomial register (before ++ left ++ after) =
        shiftRegister polynomial register (before ++ right ++ after)) :
    left = right := by
  simp only [shiftRegister_append] at same
  have middle := shiftRegister_injective constant after same
  have linear :=
    shiftRegister_xor polynomial
      (shiftRegister polynomial register before)
      (shiftRegister polynomial register before) left right sameLength
  rw [BitVec.xor_self, BitVec.xor_eq_zero_iff.mpr middle] at linear
  have silent :=
    eq_replicate_of_shiftRegister_eq_zero constant
      (by simpa [sameLength] using short) linear
  refine List.ext_getElem sameLength fun index inLeft inRight => ?_
  have bit := congrArg (fun bits => bits[index]?) silent
  simpa [List.getElem?_replicate, inLeft, inRight, sameLength] using bit

theorem leadingBits_injective :
    Function.Injective fun check : BitVec width => leadingBits width check := by
  intro left right same
  refine BitVec.eq_of_getMsbD_eq fun index inside => ?_
  have bit := congrArg (fun bits => bits[index]?) same
  simpa [inside] using bit

/-- The register ends empty exactly on a message with its own check value. -/
theorem shiftRegister_append_eq_zero_iff
    {polynomial : BitVec width} (constant : polynomial.getLsbD 0 = true)
    (register check : BitVec width) (bits : List Bool) :
    shiftRegister polynomial register (bits ++ leadingBits width check) =
        0#(width) ↔
      check = shiftRegister polynomial register bits := by
  have own := shiftRegister_append_check polynomial register bits
  constructor
  · intro empty
    refine leadingBits_injective
      (shiftRegister_burst constant register bits [] (by simp) (by simp) ?_)
    rw [List.append_nil, List.append_nil, empty, own]
  · rintro rfl
    exact own

end Go2Navigation.Foundation
