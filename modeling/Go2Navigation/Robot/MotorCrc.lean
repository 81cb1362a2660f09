import Go2Navigation.Bridge.Command
import Go2Navigation.Foundation.Encoding
import Go2Navigation.Lidar.Checksum

/-!
# The check value of a low-level command

`get_crc` copies a `LowCmd` into a structure of the controller's layout and
runs `crc32_core` over its words, all but the last.  The routine is the check
of the lidar driver, read most significant byte first, and a command changed
within 32 consecutive bits, its check value included, no longer carries the
check value that `get_crc` gives it.
-/

namespace Go2Navigation.Robot

open Go2Navigation.Bridge
open Go2Navigation.Foundation
open Go2Navigation.Lidar

/-! ## The routine -/

/-- The body of the inner loop of `crc32_core`, on `CRC32` and `xbit`. -/
def crc32Bit (data : UInt32) (state : UInt32 × UInt32) : UInt32 × UInt32 :=
  let shifted :=
    if state.1 &&& 0x80000000 ≠ 0 then (state.1 <<< 1) ^^^ 0x04c11db7
    else state.1 <<< 1
  (if data &&& state.2 ≠ 0 then shifted ^^^ 0x04c11db7 else shifted,
    state.2 >>> 1)

/-- The body of the outer loop of `crc32_core`. -/
def crc32Word (crc32 data : UInt32) : UInt32 :=
  ((crc32Bit data)^[32] (crc32, 0x80000000)).1

def crc32Core (ptr : List UInt32) (len : ℕ) : UInt32 :=
  (ptr.take len).foldl crc32Word 0xffffffff

/-- The bits of a word, most significant first. -/
def wordBits (word : UInt32) : List Bool :=
  leadingBits 32 word.toBitVec

/-- The mask selects the bit that leads the word once shifted as far. -/
theorem and_mask_eq_zero_iff
    (data : BitVec 32) {past : ℕ} (inside : past < 32) :
    data &&& (0x80000000#32 >>> past) = 0#32 ↔
      (data <<< past).msb = false := by
  have twoPow : 0x80000000#32 >>> past = BitVec.twoPow 32 (31 - past) := by
    refine BitVec.eq_of_getLsbD_eq fun index within => ?_
    rw [show 0x80000000#32 = BitVec.twoPow 32 31 from rfl,
      BitVec.getLsbD_ushiftRight, BitVec.getLsbD_twoPow,
      BitVec.getLsbD_twoPow]
    grind
  have selected : (data <<< past).msb = data.getLsbD (31 - past) := by
    rw [BitVec.msb_eq_getMsbD_zero, BitVec.getMsbD_shiftLeft,
      BitVec.getMsbD_eq_getLsbD, Nat.zero_add]
    simp [inside]
  have nonzero : BitVec.twoPow 32 (31 - past) ≠ 0#32 := by
    intro zero
    have bit := congrArg (BitVec.getLsbD · (31 - past)) zero
    simp [BitVec.getLsbD_twoPow] at bit
    omega
  rw [twoPow, BitVec.and_twoPow, selected]
  cases data.getLsbD (31 - past) <;> simp [nonzero]

theorem crc32Bit_eq
    {data crc32 xbit : UInt32} {past : ℕ} (inside : past < 32)
    (mask : xbit.toBitVec = 0x80000000#32 >>> past) :
    (crc32Bit data (crc32, xbit)).1.toBitVec =
        shiftStep crcPolynomial crc32.toBitVec
          (data.toBitVec <<< past).msb ∧
      (crc32Bit data (crc32, xbit)).2.toBitVec =
        0x80000000#32 >>> (past + 1) := by
  have leaving := and_top_eq_zero_iff crc32
  have fed : data &&& xbit = 0 ↔ (data.toBitVec <<< past).msb = false := by
    rw [← UInt32.toBitVec_inj, UInt32.toBitVec_and, mask]
    exact and_mask_eq_zero_iff data.toBitVec inside
  constructor
  · simp only [crc32Bit, ne_eq, leaving, fed]
    cases leads : crc32.toBitVec.msb with
    | false =>
        cases (data.toBitVec <<< past).msb <;>
          simp [shiftStep, feedback, crcPolynomial, leads]
    | true =>
        cases (data.toBitVec <<< past).msb with
        | false => simp [shiftStep, feedback, crcPolynomial, leads]
        | true =>
            -- a leading bit and a bit of the data cancel
            simp only [Bool.true_eq_false, not_false_eq_true, if_true,
              UInt32.toBitVec_xor, BitVec.xor_assoc, BitVec.xor_self,
              BitVec.xor_zero, shiftStep, feedback, leads,
              bne_self_eq_false, Bool.false_eq_true, if_false]
            simp
  · rw [BitVec.shiftRight_add, ← mask]
    rfl

/-- Rounds of the inner loop feed as many bits of the word. -/
theorem crc32Bit_iterate
    {data crc32 xbit : UInt32} {past rounds : ℕ} (inside : past + rounds ≤ 32)
    (mask : xbit.toBitVec = 0x80000000#32 >>> past) :
    ((crc32Bit data)^[rounds] (crc32, xbit)).1.toBitVec =
      shiftRegister crcPolynomial crc32.toBitVec
        (leadingBits rounds (data.toBitVec <<< past)) := by
  induction rounds generalizing past crc32 xbit with
  | zero => rfl
  | succ rounds induction =>
      have here : past < 32 := by omega
      rcases (crc32Bit_eq here mask : _ ∧ _) with ⟨fed, maskNext⟩
      rw [Function.iterate_succ_apply,
        ← Prod.mk.eta (p := crc32Bit data (crc32, xbit)),
        induction (by omega) maskNext, fed, leadingBits, shiftRegister_cons,
        BitVec.shiftLeft_add]

theorem crc32Word_eq (crc32 data : UInt32) :
    (crc32Word crc32 data).toBitVec =
      shiftRegister crcPolynomial crc32.toBitVec (wordBits data) := by
  rw [crc32Word, crc32Bit_iterate (by omega : 0 + 32 ≤ 32) (by simp)]
  simp [wordBits]

theorem crc32Words_eq (crc32 : UInt32) (words : List UInt32) :
    (words.foldl crc32Word crc32).toBitVec =
      shiftRegister crcPolynomial crc32.toBitVec
        (words.flatMap wordBits) := by
  induction words generalizing crc32 with
  | nil => rfl
  | cons word words induction =>
      rw [List.foldl_cons, induction, crc32Word_eq, List.flatMap_cons,
        shiftRegister_append]

/-- `crc32_core` computes the bitwise check of the words it is given. -/
theorem crc32Core_eq (ptr : List UInt32) (len : ℕ) :
    (crc32Core ptr len).toBitVec =
      crcOfBits ((ptr.take len).flatMap wordBits) :=
  crc32Words_eq _ _

theorem leadingBits_bytes (fourth third second first : BitVec 8) :
    leadingBits 32 (fourth ++ third ++ second ++ first) =
      leadingBits 8 fourth ++ leadingBits 8 third ++ leadingBits 8 second ++
        leadingBits 8 first := by
  have upper := leadingBits_append fourth third
  have middle := leadingBits_append (fourth ++ third) second
  have whole := leadingBits_append (fourth ++ third ++ second) first
  exact whole.trans (by rw [middle, upper])

/-- The routine reads a word from its most significant byte on. -/
theorem wordBits_eq (word : UInt32) :
    wordBits word = (bigEndian word).flatMap byteBits := by
  rw [wordBits, ← append_bytes word.toBitVec, leadingBits_bytes]
  simp [bigEndian, littleEndian, byteBits]

/--
The table of the driver is filled in bounded time, and its routine, padded or
not, and that of the controller compute one check.
-/
theorem crc_routines_agree (rounds : ℕ) (enough : 8 < rounds) :
    ∃ mCRCTable, crcInit rounds = some mCRCTable ∧
      (∀ bytes zerosNum,
        (crcCalc mCRCTable bytes zerosNum).toBitVec =
          crcOfBits
            ((bytes ++ List.replicate zerosNum 0).flatMap byteBits)) ∧
      ∀ words,
        crc32Core words words.length =
          crcCalc mCRCTable (words.flatMap bigEndian) 0 := by
  refine ⟨_, crcInit_eq enough, ?_, ?_⟩
  · exact crcCalc_eq (crcInit_eq enough) enough
  · intro words
    rw [← UInt32.toBitVec_inj, crc32Core_eq,
      crcCalc_eq (crcInit_eq enough) enough]
    have bits : wordBits = fun word => (bigEndian word).flatMap byteBits :=
      funext wordBits_eq
    simp [List.flatMap_assoc, bits]

theorem crc_routines_agree_nine :
    8 < 9 ∧
      ∃ mCRCTable, crcInit 9 = some mCRCTable ∧
        (∀ bytes zerosNum,
          (crcCalc mCRCTable bytes zerosNum).toBitVec =
            crcOfBits
              ((bytes ++ List.replicate zerosNum 0).flatMap byteBits)) ∧
        ∀ words,
          crc32Core words words.length =
            crcCalc mCRCTable (words.flatMap bigEndian) 0 :=
  ⟨by decide, crc_routines_agree 9 (by decide)⟩

/-! ## The command -/

/-- A motor command; each number of type `float` is given by its bits. -/
structure MotorCmd where
  mode : UInt8
  q : UInt32
  dq : UInt32
  tau : UInt32
  kp : UInt32
  kd : UInt32
  reserve : Vector UInt32 3
deriving DecidableEq

structure LowCmd where
  head : Vector UInt8 2
  levelFlag : UInt8
  frameReserve : UInt8
  sn : Vector UInt32 2
  version : Vector UInt32 2
  bandwidth : UInt16
  motorCmd : Vector MotorCmd 20
  bmsCmd : BmsCmd
  wirelessRemote : Vector UInt8 40
  led : Vector UInt8 12
  fan : Vector UInt8 2
  gpio : UInt8
  reserve : UInt32
  crc : UInt32
deriving DecidableEq

def byteOf (byte : UInt8) : List UInt8 :=
  [byte]

/-- `raw.motorCmd[i]` in memory: `mode` is followed by three pad bytes. -/
def MotorCmd.raw (cmd : MotorCmd) : List UInt8 :=
  [byteOf cmd.mode, [0, 0, 0], littleEndian cmd.q, littleEndian cmd.dq,
    littleEndian cmd.tau, littleEndian cmd.kp, littleEndian cmd.kd,
    cmd.reserve.toList.flatMap littleEndian].flatten

/-- `raw.bms` in memory. -/
def rawBms (cmd : BmsCmd) : List UInt8 :=
  [byteOf cmd.off, cmd.reserve.toList.flatMap byteOf].flatten

/-- The members of `raw` before its check value, in memory. -/
def LowCmd.raw (msg : LowCmd) : List UInt8 :=
  [msg.head.toList.flatMap byteOf, byteOf msg.levelFlag,
    byteOf msg.frameReserve, msg.sn.toList.flatMap littleEndian,
    msg.version.toList.flatMap littleEndian, littleEndian16 msg.bandwidth,
    [0, 0], msg.motorCmd.toList.flatMap MotorCmd.raw, rawBms msg.bmsCmd,
    msg.wirelessRemote.toList.flatMap byteOf, msg.led.toList.flatMap byteOf,
    msg.fan.toList.flatMap byteOf, byteOf msg.gpio, [0],
    littleEndian msg.reserve].flatten

/-- The words of `raw`, with a value of its last member `crc`. -/
def LowCmd.words (msg : LowCmd) (crc : UInt32) : List UInt32 :=
  wordsOf (msg.raw ++ littleEndian crc)

def sizeofLowCmd : ℕ := 812

def getCrc (msg : LowCmd) : LowCmd :=
  { msg with crc := crc32Core (msg.words 0) (sizeofLowCmd / 4 - 1) }

theorem byteOf_fixedSize : FixedSize 1 byteOf :=
  FixedSize.singleton

theorem MotorCmd.raw_fixedSize : FixedSize 36 MotorCmd.raw where
  length_eq cmd := by
    simp [raw, byteOf, littleEndian, List.length_flatMap]
  injective left right same := by
    simp only [raw, List.flatten_cons] at same
    rcases byteOf_fixedSize.append_inj same with ⟨mode, same⟩
    rcases littleEndian_fixedSize.append_inj (List.append_cancel_left same)
      with ⟨q, same⟩
    rcases littleEndian_fixedSize.append_inj same with ⟨dq, same⟩
    rcases littleEndian_fixedSize.append_inj same with ⟨tau, same⟩
    rcases littleEndian_fixedSize.append_inj same with ⟨kp, same⟩
    rcases littleEndian_fixedSize.append_inj same with ⟨kd, same⟩
    rcases (littleEndian_fixedSize.vector 3).append_inj same with
      ⟨reserve, -⟩
    cases left
    cases right
    simp_all

theorem rawBms_fixedSize : FixedSize 4 rawBms where
  length_eq cmd := by
    simp [rawBms, byteOf, List.length_flatMap]
  injective left right same := by
    simp only [rawBms, List.flatten_cons] at same
    rcases byteOf_fixedSize.append_inj same with ⟨off, same⟩
    rcases (byteOf_fixedSize.vector 3).append_inj same with ⟨reserve, -⟩
    cases left
    cases right
    simp_all

theorem LowCmd.length_raw (msg : LowCmd) : msg.raw.length = 808 := by
  have sn := (littleEndian_fixedSize.vector 2).length_eq msg.sn
  have version := (littleEndian_fixedSize.vector 2).length_eq msg.version
  have motors := (MotorCmd.raw_fixedSize.vector 20).length_eq msg.motorCmd
  have head := (byteOf_fixedSize.vector 2).length_eq msg.head
  have remote := (byteOf_fixedSize.vector 40).length_eq msg.wirelessRemote
  have led := (byteOf_fixedSize.vector 12).length_eq msg.led
  have fan := (byteOf_fixedSize.vector 2).length_eq msg.fan
  simp [raw, byteOf_fixedSize.length_eq, littleEndian16_fixedSize.length_eq,
    littleEndian_fixedSize.length_eq, rawBms_fixedSize.length_eq, sn,
    version, motors, head, remote, led, fan]

/-- `raw` loses no member of the message but its check value. -/
theorem LowCmd.eq_of_raw_eq
    {left right : LowCmd} (same : left.raw = right.raw)
    (sameCrc : left.crc = right.crc) : left = right := by
  simp only [raw, List.flatten_cons] at same
  rcases (byteOf_fixedSize.vector 2).append_inj same with ⟨head, same⟩
  rcases byteOf_fixedSize.append_inj same with ⟨levelFlag, same⟩
  rcases byteOf_fixedSize.append_inj same with ⟨frameReserve, same⟩
  rcases (littleEndian_fixedSize.vector 2).append_inj same with ⟨sn, same⟩
  rcases (littleEndian_fixedSize.vector 2).append_inj same with
    ⟨version, same⟩
  rcases littleEndian16_fixedSize.append_inj same with ⟨bandwidth, same⟩
  rcases (MotorCmd.raw_fixedSize.vector 20).append_inj
      (List.append_cancel_left same) with ⟨motorCmd, same⟩
  rcases rawBms_fixedSize.append_inj same with ⟨bmsCmd, same⟩
  rcases (byteOf_fixedSize.vector 40).append_inj same with
    ⟨wirelessRemote, same⟩
  rcases (byteOf_fixedSize.vector 12).append_inj same with ⟨led, same⟩
  rcases (byteOf_fixedSize.vector 2).append_inj same with ⟨fan, same⟩
  rcases byteOf_fixedSize.append_inj same with ⟨gpio, same⟩
  rcases littleEndian_fixedSize.append_inj (List.append_cancel_left same)
    with ⟨reserve, -⟩
  cases left
  cases right
  simp_all

/-! ## What the check value guards -/

theorem LowCmd.whole (msg : LowCmd) : 4 ∣ msg.raw.length := by
  rw [msg.length_raw]
  decide

theorem LowCmd.length_words (msg : LowCmd) :
    (wordsOf msg.raw).length = sizeofLowCmd / 4 - 1 := by
  have count := length_wordsOf msg.whole
  rw [msg.length_raw] at count
  rw [sizeofLowCmd]
  omega

theorem LowCmd.words_eq (msg : LowCmd) (crc : UInt32) :
    msg.words crc = wordsOf msg.raw ++ [crc] := by
  have last := wordsOf_append_littleEndian crc []
  rw [List.append_nil] at last
  rw [words, wordsOf_append msg.whole, last]
  rfl

theorem LowCmd.getCrc_eq (msg : LowCmd) :
    (getCrc msg).crc.toBitVec =
      crcOfBits ((wordsOf msg.raw).flatMap wordBits) := by
  simp only [getCrc, crc32Core_eq, words_eq]
  rw [List.take_left' msg.length_words]

theorem wordBits_fixedSize : FixedSize 32 wordBits where
  length_eq word := length_leadingBits 32 word.toBitVec
  injective _ _ same := UInt32.toBitVec_inj.mp (leadingBits_injective same)

/-- The bits of a command with its check value, as `crc32_core` reads them. -/
def LowCmd.bits (msg : LowCmd) : List Bool :=
  (msg.words msg.crc).flatMap wordBits

theorem LowCmd.bits_eq (msg : LowCmd) :
    msg.bits =
      (wordsOf msg.raw).flatMap wordBits ++ wordBits msg.crc := by
  simp [bits, words_eq]

/-- A command carries its check value exactly if its bits check to nothing. -/
theorem LowCmd.crcOfBits_eq_zero_iff (msg : LowCmd) :
    crcOfBits msg.bits = 0#32 ↔ getCrc msg = msg := by
  have residue :=
    shiftRegister_append_eq_zero_iff crcPolynomial_constant
      (BitVec.allOnes 32) msg.crc.toBitVec
      ((wordsOf msg.raw).flatMap wordBits)
  have own :
      msg.crc.toBitVec =
          crcOfBits ((wordsOf msg.raw).flatMap wordBits) ↔
        getCrc msg = msg := by
    rw [← msg.getCrc_eq, UInt32.toBitVec_inj]
    constructor
    · intro same
      have finished :
          getCrc msg = { msg with crc := (getCrc msg).crc } :=
        rfl
      rw [finished, ← same]
    · intro same
      rw [same]
  rw [bits_eq]
  exact residue.trans own

theorem getCrc_getCrc (msg : LowCmd) : getCrc (getCrc msg) = getCrc msg :=
  rfl

theorem LowCmd.bits_injective : Function.Injective LowCmd.bits := by
  intro left right same
  have words : left.words left.crc = right.words right.crc :=
    wordBits_fixedSize.flatMap_inj
      (by simp [words_eq, length_words]) same
  rw [words_eq, words_eq] at words
  rcases List.append_inj words (by rw [length_words, length_words]) with
    ⟨members, crc⟩
  have raw := congrArg (List.flatMap littleEndian) members
  rw [flatMap_wordsOf left.whole, flatMap_wordsOf right.whole] at raw
  exact LowCmd.eq_of_raw_eq raw (List.singleton_injective crc)

/--
Whatever is changed within 32 consecutive bits of a finished command, its
check value included, no longer carries the check value it ought to carry.
-/
theorem getCrc_guards
    (sent received : LowCmd) (before after sentPart receivedPart : List Bool)
    (sentBits : (getCrc sent).bits = before ++ sentPart ++ after)
    (receivedBits : received.bits = before ++ receivedPart ++ after)
    (sameLength : sentPart.length = receivedPart.length)
    (short : sentPart.length ≤ 32) :
    getCrc received = received ↔ received = getCrc sent := by
  constructor
  · intro carries
    have sentEmpty :=
      (getCrc sent).crcOfBits_eq_zero_iff.mpr (getCrc_getCrc sent)
    have receivedEmpty := received.crcOfBits_eq_zero_iff.mpr carries
    rw [sentBits] at sentEmpty
    rw [receivedBits] at receivedEmpty
    have samePart : sentPart = receivedPart :=
      shiftRegister_burst crcPolynomial_constant _ before after
        sameLength short (sentEmpty.trans receivedEmpty.symm)
    refine LowCmd.bits_injective ?_
    rw [receivedBits, sentBits, samePart]
  · rintro rfl
    exact getCrc_getCrc sent

/-- The command `InitLowCmd` prepares in a fresh message. -/
def initLowCmd : LowCmd where
  head := #v[0xfe, 0xef]
  levelFlag := 0xff
  frameReserve := 0
  sn := Vector.replicate 2 0
  version := Vector.replicate 2 0
  bandwidth := 0
  motorCmd :=
    Vector.replicate 20 ⟨1, 0x4effd2b9, 0x467a0000, 0, 0, 0,
      Vector.replicate 3 0⟩
  bmsCmd := ⟨0, Vector.replicate 3 0⟩
  wirelessRemote := Vector.replicate 40 0
  led := Vector.replicate 12 0
  fan := Vector.replicate 2 0
  gpio := 0
  reserve := 0
  crc := 0

/-- A finished command, given another level. -/
def damagedLowCmd : LowCmd :=
  { getCrc initLowCmd with levelFlag := 0xee }

/-- The first word of `raw`. -/
def LowCmd.firstWord (msg : LowCmd) : UInt32 :=
  wordOfBytes (msg.head.toList.getD 0 0) (msg.head.toList.getD 1 0)
    msg.levelFlag msg.frameReserve

/-- Only the first word of `raw` depends on `levelFlag`. -/
theorem LowCmd.words_levelFlag
    (msg : LowCmd) (levelFlag : UInt8) (crc : UInt32) :
    { msg with levelFlag := levelFlag }.words crc =
      { msg with levelFlag := levelFlag }.firstWord ::
        (msg.words crc).tail := by
  obtain ⟨first, second, bytes⟩ : ∃ first second,
      msg.head.toList = [first, second] :=
    List.length_eq_two.mp (by simp)
  simp only [words, raw, firstWord, bytes, List.flatten_cons,
    List.flatMap_cons, byteOf, List.cons_append, List.flatMap_nil,
    List.nil_append, wordsOf, List.tail_cons, List.getD_cons_zero,
    List.getD_cons_succ]

/-- The bits of a message after those of its first word. -/
def LowCmd.laterBits (msg : LowCmd) : List Bool :=
  (msg.words msg.crc).tail.flatMap wordBits

theorem LowCmd.bits_levelFlag (msg : LowCmd) (levelFlag : UInt8) :
    { msg with levelFlag := levelFlag }.bits =
      [] ++ wordBits { msg with levelFlag := levelFlag }.firstWord ++
        msg.laterBits := by
  rw [bits, words_levelFlag]
  rfl

theorem LowCmd.bits_own (msg : LowCmd) :
    msg.bits = [] ++ wordBits msg.firstWord ++ msg.laterBits :=
  msg.bits_levelFlag msg.levelFlag

theorem getCrc_guards_damaged :
    getCrc damagedLowCmd = damagedLowCmd ↔
      damagedLowCmd = getCrc initLowCmd :=
  getCrc_guards initLowCmd damagedLowCmd [] (getCrc initLowCmd).laterBits
    _ _ (getCrc initLowCmd).bits_own
    ((getCrc initLowCmd).bits_levelFlag 0xee)
    (by simp [wordBits]) (by simp [wordBits])

end Go2Navigation.Robot
