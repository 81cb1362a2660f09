import Go2Navigation.Foundation.ShiftRegister

/-!
# The check values of the lidar driver

`CRCInit` fills a table of 256 words and `CRCCalc` reads it once for every
byte, and once for every zero that pads a message.  Together they compute the
bitwise check of the message and its padding.
-/

namespace Go2Navigation.Lidar

open Go2Navigation.Foundation

/-- The bits of a byte, most significant first. -/
def byteBits (byte : UInt8) : List Bool :=
  leadingBits 8 byte.toBitVec

/-- The polynomial of the table, without its leading term. -/
def crcPolynomial : BitVec 32 := 0x04c11db7#32

theorem crcPolynomial_constant : crcPolynomial.getLsbD 0 = true := rfl

/-- The loop over `j` in `CRCInit`, cut off after a number of rounds. -/
def crcInitLoop : ℕ → UInt32 → UInt32 → Option UInt32
  | 0, _, _ => none
  | rounds + 1, j, k =>
      if j ≠ 0x80000000 then
        crcInitLoop rounds (j <<< 1)
          ((k <<< 1) ^^^
            (if (k ^^^ j) &&& 0x80000000 ≠ 0 then 0x04c11db7 else 0))
      else some k

def crcInit (rounds : ℕ) : Option (List UInt32) :=
  (List.range 256).mapM fun i =>
    crcInitLoop rounds ((UInt32.ofNat i <<< 24) ||| 0x800000) 0

/-- The body of the loops of `CRCCalc`. -/
def crcByte (mCRCTable : List UInt32) (iCrc : UInt32) (byte : UInt8) :
    UInt32 :=
  (iCrc <<< 8) ^^^
    mCRCTable.getD (((iCrc >>> 24) ^^^ byte.toUInt32) &&& 0xff).toNat 0

def crcCalc
    (mCRCTable : List UInt32) (bytes : List UInt8) (zerosNum : ℕ) : UInt32 :=
  (List.replicate zerosNum 0).foldl (crcByte mCRCTable)
    (bytes.foldl (crcByte mCRCTable) 0xffffffff)

/-- The check of a message, bit by bit. -/
def crcOfBits (bits : List Bool) : BitVec 32 :=
  shiftRegister crcPolynomial (BitVec.allOnes 32) bits

/-! ## The table -/

theorem and_top_eq_zero_iff (word : UInt32) :
    word &&& 0x80000000 = 0 ↔ word.toBitVec.msb = false := by
  have mask :
      word.toBitVec &&& 0x80000000#32 =
        if word.toBitVec.getLsbD 31 then BitVec.twoPow 32 31 else 0#32 :=
    BitVec.and_twoPow word.toBitVec 31
  rw [← UInt32.toBitVec_inj, BitVec.msb_eq_getLsbD_last]
  change word.toBitVec &&& 0x80000000#32 = 0#32 ↔ _
  rw [mask]
  cases word.toBitVec.getLsbD (32 - 1) <;> decide

/-- The loop of `CRCInit` shifts by one bit in every round. -/
theorem crcInitLoop_step (j k : UInt32) :
    ((k <<< 1) ^^^
        (if (k ^^^ j) &&& 0x80000000 ≠ 0 then 0x04c11db7 else 0)).toBitVec =
      shiftStep crcPolynomial k.toBitVec j.toBitVec.msb := by
  have leaving := and_top_eq_zero_iff (k ^^^ j)
  rw [UInt32.toBitVec_xor, BitVec.msb_xor] at leaving
  rw [shiftStep, feedback, UInt32.toBitVec_xor]
  cases bit : (k.toBitVec.msb ^^ j.toBitVec.msb) with
  | false =>
      rw [if_neg (not_not.mpr (leaving.mpr bit))]
      rfl
  | true =>
      rw [if_pos fun clear => by simp [leaving.mp clear] at bit]
      rfl

theorem crcInitLoop_eq
    {count rounds : ℕ} {j : UInt32} (k : UInt32)
    (sentinel : j.toBitVec <<< count = 0x80000000#32)
    (enough : count < rounds) :
    crcInitLoop rounds j k =
      some ⟨shiftRegister crcPolynomial k.toBitVec
        (leadingBits count j.toBitVec)⟩ := by
  induction count generalizing rounds j k with
  | zero =>
      rcases rounds with _ | rounds
      · omega
      · have last : j = 0x80000000 := by
          simpa [← UInt32.toBitVec_inj] using sentinel
        simp [crcInitLoop, last, leadingBits]
  | succ count induction =>
      rcases rounds with _ | rounds
      · omega
      · have more : j ≠ 0x80000000 := by
          rintro rfl
          rw [Nat.add_comm, BitVec.shiftLeft_add] at sentinel
          simp at sentinel
        have sentinelNext :
            (j <<< 1).toBitVec <<< count = 0x80000000#32 := by
          rw [← sentinel, Nat.add_comm, BitVec.shiftLeft_add]
          rfl
        rw [crcInitLoop, if_pos more, induction _ sentinelNext (by omega),
          crcInitLoop_step]
        rfl

/-- The table entry of a byte: the check of its bits alone. -/
def crcEntry (byte : BitVec 8) : UInt32 :=
  ⟨shiftRegister crcPolynomial 0 (leadingBits 8 byte)⟩

theorem leadingBits_entry (word : BitVec 32) :
    leadingBits 8 ((word <<< 24) ||| 0x800000#32) =
      leadingBits 8 (word.setWidth 8) := by
  refine List.ext_getElem (by simp) fun index inside _ => ?_
  rw [length_leadingBits] at inside
  have sentinel :
      ∀ index : Fin 8, (0x800000#32).getMsbD index = false := by
    decide
  have clear := sentinel ⟨index, inside⟩
  simp only [getElem_leadingBits, BitVec.getMsbD_or, clear,
    BitVec.getMsbD_shiftLeft, BitVec.getMsbD_setWidth]
  simp

/-- `CRCInit` ends, after eight rounds for every entry. -/
theorem crcInit_eq {rounds : ℕ} (enough : 8 < rounds) :
    crcInit rounds =
      some ((List.range 256).map fun i => crcEntry (BitVec.ofNat 8 i)) := by
  have entry : ∀ i : ℕ,
      crcInitLoop rounds ((UInt32.ofNat i <<< 24) ||| 0x800000) 0 =
        some (crcEntry (BitVec.ofNat 8 i)) := by
    intro i
    have sentinel :
        ((UInt32.ofNat i <<< 24) ||| 0x800000).toBitVec <<< 8 =
          0x80000000#32 := by
      change ((BitVec.ofNat 32 i <<< 24) ||| 0x800000#32) <<< 8 = _
      rw [BitVec.shiftLeft_or_distrib, ← BitVec.shiftLeft_add]
      simp
    rw [crcInitLoop_eq 0 sentinel enough]
    change some (UInt32.ofBitVec (shiftRegister _ _
      (leadingBits 8 ((BitVec.ofNat 32 i <<< 24) ||| 0x800000#32)))) = _
    rw [leadingBits_entry, BitVec.setWidth_ofNat_of_le (by decide)]
    rfl
  simp only [crcInit, entry]
  exact List.mapM_pure

/-! ## Messages -/

/-- The table is indexed by the byte and the byte that leaves the register. -/
theorem leadingBits_index (register : BitVec 32) (byte : BitVec 8) :
    leadingBits 8
        ((((register >>> 24) ^^^ byte.setWidth 32) &&& 0xff#32).setWidth 8) =
      List.zipWith (· ^^ ·) (leadingBits 8 register)
        (leadingBits 8 byte) := by
  refine List.ext_getElem (by simp) fun index inside _ => ?_
  rw [length_leadingBits] at inside
  have mask : ∀ index : Fin 8, (0xff#8).getMsbD index = true := by decide
  have kept := mask ⟨index, inside⟩
  have within : index + 24 < 32 := by omega
  simp [BitVec.getMsbD_setWidth, kept, within]

/-- A byte, fed through the table, is its bits. -/
theorem crcByte_eq {rounds : ℕ} {mCRCTable : List UInt32}
    (initialised : crcInit rounds = some mCRCTable) (enough : 8 < rounds)
    (iCrc : UInt32) (byte : UInt8) :
    (crcByte mCRCTable iCrc byte).toBitVec =
      shiftRegister crcPolynomial iCrc.toBitVec (byteBits byte) := by
  rw [crcInit_eq enough, Option.some_inj] at initialised
  have inside :
      (((iCrc >>> 24) ^^^ byte.toUInt32) &&& 0xff).toNat < 256 := by
    have bound := UInt32.toNat_and ((iCrc >>> 24) ^^^ byte.toUInt32) 0xff
    rw [bound]
    exact Nat.lt_of_le_of_lt Nat.and_le_right (by decide)
  have index :
      leadingBits 8
          (BitVec.ofNat 8
            (((iCrc >>> 24) ^^^ byte.toUInt32) &&& 0xff).toNat) =
        List.zipWith (· ^^ ·) (leadingBits 8 iCrc.toBitVec)
          (byteBits byte) := by
    have word := leadingBits_index iCrc.toBitVec byte.toBitVec
    rw [← BitVec.ofNat_toNat] at word
    exact word
  rw [crcByte, ← initialised]
  simp only [List.getD_eq_getElem?_getD, List.getElem?_map,
    List.getElem?_range inside, Option.map_some, Option.getD_some, crcEntry,
    UInt32.toBitVec_xor, index]
  rw [shiftRegister_eq_table crcPolynomial iCrc.toBitVec (byteBits byte),
    byteBits, length_leadingBits]
  rfl

theorem crcBytes_eq {rounds : ℕ} {mCRCTable : List UInt32}
    (initialised : crcInit rounds = some mCRCTable) (enough : 8 < rounds)
    (iCrc : UInt32) (bytes : List UInt8) :
    (bytes.foldl (crcByte mCRCTable) iCrc).toBitVec =
      shiftRegister crcPolynomial iCrc.toBitVec
        (bytes.flatMap byteBits) := by
  induction bytes generalizing iCrc with
  | nil => rfl
  | cons byte bytes induction =>
      rw [List.foldl_cons, induction, crcByte_eq initialised enough,
        List.flatMap_cons, shiftRegister_append]

/-- `CRCCalc` computes the bitwise check of a message and its padding. -/
theorem crcCalc_eq {rounds : ℕ} {mCRCTable : List UInt32}
    (initialised : crcInit rounds = some mCRCTable) (enough : 8 < rounds)
    (bytes : List UInt8) (zerosNum : ℕ) :
    (crcCalc mCRCTable bytes zerosNum).toBitVec =
      crcOfBits ((bytes ++ List.replicate zerosNum 0).flatMap byteBits) := by
  rw [crcCalc, crcBytes_eq initialised enough, crcBytes_eq initialised enough,
    ← shiftRegister_append, ← List.flatMap_append]
  rfl

end Go2Navigation.Lidar
