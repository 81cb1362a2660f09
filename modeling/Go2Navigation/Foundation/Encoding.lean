import Mathlib.Data.List.Basic

/-!
# Encodings of fixed size

Encodings whose outputs all have one length can be told apart inside a
concatenation.  Words are written in either byte order, and read back.
-/

namespace Go2Navigation.Foundation

universe u v

/-- Every value is written with the same number of items, and can be read. -/
structure FixedSize
    {Value : Type u} {Item : Type v} (size : ℕ)
    (encode : Value → List Item) : Prop where
  length_eq : ∀ value, (encode value).length = size
  injective : Function.Injective encode

namespace FixedSize

variable {Value : Type u} {Item : Type v}

/-- The values at the front of two equal concatenations are equal. -/
theorem append_inj
    {size : ℕ} {encode : Value → List Item} (fixed : FixedSize size encode)
    {left right : Value} {leftRest rightRest : List Item}
    (same : encode left ++ leftRest = encode right ++ rightRest) :
    left = right ∧ leftRest = rightRest := by
  have sameLength : (encode left).length = (encode right).length :=
    (fixed.length_eq left).trans (fixed.length_eq right).symm
  rcases List.append_inj same sameLength with ⟨front, rest⟩
  exact ⟨fixed.injective front, rest⟩

theorem singleton : FixedSize 1 fun item : Item => [item] where
  length_eq _ := rfl
  injective _ _ same := List.singleton_injective same

theorem length_flatMap
    {size : ℕ} {encode : Value → List Item} (fixed : FixedSize size encode)
    (values : List Value) :
    (values.flatMap encode).length = values.length * size := by
  induction values with
  | nil => simp
  | cons value values induction =>
      simp [induction, fixed.length_eq, Nat.succ_mul, Nat.add_comm]

/-- As many values, written one after the other, can be read back. -/
theorem flatMap_inj
    {size : ℕ} {encode : Value → List Item} (fixed : FixedSize size encode)
    {left right : List Value} (sameLength : left.length = right.length)
    (same : left.flatMap encode = right.flatMap encode) : left = right := by
  induction left generalizing right with
  | nil => exact (List.length_eq_zero_iff.mp sameLength.symm).symm
  | cons value values induction =>
      rcases right with _ | ⟨other, others⟩
      · simp at sameLength
      · rw [List.flatMap_cons, List.flatMap_cons] at same
        rcases fixed.append_inj same with ⟨valueEq, restEq⟩
        rw [valueEq, induction (by simpa using sameLength) restEq]

theorem vector
    {size : ℕ} {encode : Value → List Item} (fixed : FixedSize size encode)
    (count : ℕ) :
    FixedSize (count * size) fun values : Vector Value count =>
      values.toList.flatMap encode where
  length_eq values := by
    rw [fixed.length_flatMap, Vector.length_toList]
  injective left right same :=
    Vector.toList_inj.mp (fixed.flatMap_inj (by simp) same)

end FixedSize

/-! ## Words -/

def littleEndian16 (word : UInt16) : List UInt8 :=
  [word.toUInt8, (word >>> 8).toUInt8]

def littleEndian (word : UInt32) : List UInt8 :=
  [word.toUInt8, (word >>> 8).toUInt8, (word >>> 16).toUInt8,
    (word >>> 24).toUInt8]

def bigEndian (word : UInt32) : List UInt8 :=
  (littleEndian word).reverse

def wordOfBytes16 (low high : UInt8) : UInt16 :=
  ⟨high.toBitVec ++ low.toBitVec⟩

@[simp]
theorem wordOfBytes16_littleEndian16 (word : UInt16) :
    wordOfBytes16 word.toUInt8 (word >>> 8).toUInt8 = word := by
  have append :
      ((word.toBitVec >>> 8).setWidth 8 ++ word.toBitVec.setWidth 8 :
        BitVec 16) = word.toBitVec := by
    refine BitVec.eq_of_getLsbD_eq fun index inside => ?_
    simp only [BitVec.getLsbD_append, BitVec.getLsbD_setWidth,
      BitVec.getLsbD_ushiftRight]
    grind
  rw [← UInt16.toBitVec_inj]
  exact append

/-- The word whose bytes are given from the least significant on. -/
def wordOfBytes (first second third fourth : UInt8) : UInt32 :=
  ⟨fourth.toBitVec ++ third.toBitVec ++ second.toBitVec ++ first.toBitVec⟩

theorem append_bytes (word : BitVec 32) :
    ((word >>> 24).setWidth 8 ++ (word >>> 16).setWidth 8 ++
        (word >>> 8).setWidth 8 ++ word.setWidth 8 : BitVec 32) = word := by
  refine BitVec.eq_of_getLsbD_eq fun index inside => ?_
  simp only [BitVec.getLsbD_append, BitVec.getLsbD_setWidth,
    BitVec.getLsbD_ushiftRight]
  split_ifs with first second third
  all_goals
    simp only [show index - 8 - 8 - 8 < 8 by omega, decide_true,
      Bool.true_and, *]
  all_goals congr 1; omega

@[simp]
theorem wordOfBytes_littleEndian (word : UInt32) :
    wordOfBytes word.toUInt8 (word >>> 8).toUInt8 (word >>> 16).toUInt8
        (word >>> 24).toUInt8 = word := by
  rw [← UInt32.toBitVec_inj]
  exact append_bytes word.toBitVec

/-- The byte at a multiple of eight bits of four bytes side by side. -/
theorem shiftRight_append_bytes (fourth third second first : BitVec 8) :
    (fourth ++ third ++ second ++ first).setWidth 8 = first ∧
      ((fourth ++ third ++ second ++ first) >>> 8).setWidth 8 = second ∧
      ((fourth ++ third ++ second ++ first) >>> 16).setWidth 8 = third ∧
      ((fourth ++ third ++ second ++ first) >>> 24).setWidth 8 =
        fourth := by
  refine ⟨?_, ?_, ?_, ?_⟩ <;>
    refine BitVec.eq_of_getLsbD_eq fun index inside => ?_
  all_goals
    simp only [BitVec.getLsbD_setWidth, BitVec.getLsbD_ushiftRight,
      BitVec.getLsbD_append, inside, decide_true, Bool.true_and]
    grind

@[simp]
theorem littleEndian_wordOfBytes (first second third fourth : UInt8) :
    littleEndian (wordOfBytes first second third fourth) =
      [first, second, third, fourth] := by
  rcases shiftRight_append_bytes fourth.toBitVec third.toBitVec
      second.toBitVec first.toBitVec with
    ⟨firstEq, secondEq, thirdEq, fourthEq⟩
  simp only [littleEndian, List.cons.injEq, and_true, ← UInt8.toBitVec_inj]
  exact ⟨firstEq, secondEq, thirdEq, fourthEq⟩

theorem littleEndian_fixedSize : FixedSize 4 littleEndian where
  length_eq _ := rfl
  injective left right same := by
    simp only [littleEndian, List.cons.injEq, and_true] at same
    rcases same with ⟨first, second, third, fourth⟩
    rw [← wordOfBytes_littleEndian left, first, second, third, fourth,
      wordOfBytes_littleEndian]

theorem littleEndian16_fixedSize : FixedSize 2 littleEndian16 where
  length_eq _ := rfl
  injective left right same := by
    simp only [littleEndian16, List.cons.injEq, and_true] at same
    rcases same with ⟨low, high⟩
    have lowEq := congrArg UInt8.toNat low
    have highEq := congrArg UInt8.toNat high
    have leftLt := left.toNat_lt
    have rightLt := right.toNat_lt
    simp only [UInt16.toNat_toUInt8, UInt16.toNat_shiftRight,
      UInt16.toNat_ofNat, Nat.shiftRight_eq_div_pow, Nat.reducePow,
      Nat.reduceMod] at lowEq highEq
    rw [← UInt16.toNat_inj]
    omega

/-- Bytes read as words, four at a time. -/
def wordsOf : List UInt8 → List UInt32
  | first :: second :: third :: fourth :: rest =>
      wordOfBytes first second third fourth :: wordsOf rest
  | _ => []

theorem wordsOf_append_littleEndian (word : UInt32) (rest : List UInt8) :
    wordsOf (littleEndian word ++ rest) = word :: wordsOf rest := by
  simp [littleEndian, wordsOf]

theorem flatMap_wordsOf
    {bytes : List UInt8} (whole : 4 ∣ bytes.length) :
    (wordsOf bytes).flatMap littleEndian = bytes := by
  induction bytes using wordsOf.induct with
  | case1 first second third fourth rest induction =>
      have wholeRest : 4 ∣ rest.length := by
        simp only [List.length_cons] at whole
        omega
      simp [wordsOf, induction wholeRest]
  | case2 bytes short =>
      rcases bytes with _ | ⟨first, _ | ⟨second, _ | ⟨third, rest⟩⟩⟩
      · rfl
      · simp at whole
      · simp at whole
      · rcases rest with _ | ⟨fourth, rest⟩
        · simp at whole
        · exact (short _ _ _ _ _ rfl).elim

theorem wordsOf_append
    {bytes : List UInt8} (whole : 4 ∣ bytes.length) (rest : List UInt8) :
    wordsOf (bytes ++ rest) = wordsOf bytes ++ wordsOf rest := by
  have words : ∀ words : List UInt32,
      wordsOf (words.flatMap littleEndian ++ rest) =
        words ++ wordsOf rest := by
    intro words
    induction words with
    | nil => rfl
    | cons word words induction =>
        rw [List.flatMap_cons, List.append_assoc,
          wordsOf_append_littleEndian, induction, List.cons_append]
  have split := words (wordsOf bytes)
  rwa [flatMap_wordsOf whole] at split

theorem length_wordsOf
    {bytes : List UInt8} (whole : 4 ∣ bytes.length) :
    4 * (wordsOf bytes).length = bytes.length := by
  have total := congrArg List.length (flatMap_wordsOf whole)
  simpa [littleEndian, List.length_flatMap, Nat.mul_comm] using total

end Go2Navigation.Foundation
