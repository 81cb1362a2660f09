import Go2Navigation.Foundation.Reactor
import Mathlib.Algebra.BigOperators.Group.List.Basic
import Mathlib.Algebra.Order.Ring.Int
import Mathlib.Data.BitVec
import Mathlib.Data.Int.ConditionallyCompleteOrder
import Mathlib.Data.Int.Interval
import Mathlib.Order.ConditionallyCompleteLattice.Basic
import Mathlib.Tactic.Ring

/-!
# Counting lost packets

`CalPktLoss` reads the sequence numbers of the packets of one sensor.  They
wrap at `max_sequence`, the 32 bit counts at their own size; what has been
counted is logged and cleared about once a second.
-/

namespace Go2Navigation.Lidar

open Go2Navigation.Foundation

/-- `PacketSeqnumLossMessage`. -/
structure PacketSeqnumLossMessage where
  lastTotalPackageCount : BitVec 64
  lastSeqnum : BitVec 32
  lossCount : BitVec 32
  startTime : BitVec 32
  totalLossCount : BitVec 32
  totalPacketCount : BitVec 64
  maxSequence : BitVec 32
  isPacketLoss : Bool
  isInit : Bool
deriving DecidableEq

/-- A packet, and what `GetMicroTickCount` returns while it is counted. -/
structure SeqnumPacket where
  seqnum : BitVec 32
  firstTick : BitVec 32
  secondTick : BitVec 32

/-- The two numbers of `pkt loss freq`. -/
structure LossLog where
  lossCount : BitVec 32
  packetCount : BitVec 64
deriving DecidableEq

namespace PacketSeqnumLossMessage

/-- The constructor. -/
def construct : PacketSeqnumLossMessage :=
  ⟨0, 0, 0, 0, 0, 0, 0xFFFFFFFF, false, false⟩

/-- The first packet. -/
def initialise (packet : SeqnumPacket)
    (message : PacketSeqnumLossMessage) : PacketSeqnumLossMessage :=
  { message with
    lossCount := 0
    totalLossCount := 0
    startTime := packet.firstTick
    lastTotalPackageCount := 0
    totalPacketCount := 0
    lastSeqnum := packet.seqnum
    isInit := true }

def diff (message : PacketSeqnumLossMessage) (seqnum : BitVec 32) :
    BitVec 32 :=
  if message.lastSeqnum ≤ seqnum then seqnum - message.lastSeqnum
  else message.maxSequence - message.lastSeqnum + seqnum + 1

def addDiff (diff : BitVec 32) (message : PacketSeqnumLossMessage) :
    PacketSeqnumLossMessage :=
  let message :=
    { message with
      totalPacketCount := message.totalPacketCount + diff.setWidth 64 }
  if 1 < diff then
    { message with
      lossCount := message.lossCount + (diff - 1)
      totalLossCount := message.totalLossCount + (diff - 1)
      isPacketLoss := true }
  else message

/-- The log, at most once every 1000000 ticks. -/
def printLoss (packet : SeqnumPacket) (message : PacketSeqnumLossMessage) :
    PacketSeqnumLossMessage × List LossLog :=
  if message.lossCount ≠ 0 ∧
      1000000 ≤ packet.firstTick - message.startTime then
    ({ message with
        lossCount := 0
        startTime := packet.secondTick
        lastTotalPackageCount := message.totalPacketCount },
      [⟨message.lossCount,
        message.totalPacketCount - message.lastTotalPackageCount⟩])
  else (message, [])

/-- `CalPktLoss`. -/
def calPktLoss (enablePacketLossTool : Bool)
    (message : PacketSeqnumLossMessage) (packet : SeqnumPacket) :
    PacketSeqnumLossMessage × List LossLog :=
  if enablePacketLossTool = false then (message, [])
  else
    let message := { message with isPacketLoss := false }
    if message.isInit = false then (message.initialise packet, [])
    else
      let printed :=
        (message.addDiff (message.diff packet.seqnum)).printLoss packet
      ({ printed.1 with lastSeqnum := packet.seqnum }, printed.2)

end PacketSeqnumLossMessage

/-- The parser, for the packets it is given. -/
def lossReactor (enablePacketLossTool : Bool) :
    Reactor PacketSeqnumLossMessage SeqnumPacket LossLog :=
  ⟨PacketSeqnumLossMessage.calPktLoss enablePacketLossTool⟩

/-! ## Numbered packets -/

/-- A packet with the number it would have without wrapping. -/
structure Arrival where
  number : ℤ
  firstTick : BitVec 32
  secondTick : BitVec 32

/-- The packet a sensor with this `max_sequence` sends. -/
def Arrival.packet (maxSequence : BitVec 32) (arrival : Arrival) :
    SeqnumPacket where
  seqnum := BitVec.ofInt 32 (arrival.number % (maxSequence.toNat + 1))
  firstTick := arrival.firstTick
  secondTick := arrival.secondTick

/-- The number of the packet received last. -/
def lastNumber : ℤ → List Arrival → ℤ
  | number, [] => number
  | _, arrival :: rest => lastNumber arrival.number rest

/-- How many packets came after one with a larger number. -/
def backward : ℤ → List Arrival → ℕ
  | _, [] => 0
  | number, arrival :: rest =>
      (if arrival.number < number then 1 else 0) +
        backward arrival.number rest

/-- How many packets were no repetition of the one before. -/
def changed : ℤ → List Arrival → ℕ
  | _, [] => 0
  | number, arrival :: rest =>
      (if arrival.number = number then 0 else 1) +
        changed arrival.number rest

/-- How far the packets were ahead of one another. -/
def travelled (maxSequence : BitVec 32) (number : ℤ)
    (arrivals : List Arrival) : ℤ :=
  lastNumber number arrivals - number +
    backward number arrivals * (maxSequence.toNat + 1)

/-- Neighbours are less than one round of the sequence numbers apart. -/
def Close (maxSequence : BitVec 32) : ℤ → List Arrival → Prop
  | _, [] => True
  | number, arrival :: rest =>
      |arrival.number - number| < maxSequence.toNat + 1 ∧
        Close maxSequence arrival.number rest

namespace PacketSeqnumLossMessage

/-- The counts after these packets. -/
def received (message : PacketSeqnumLossMessage) (arrivals : List Arrival) :
    PacketSeqnumLossMessage :=
  (lossReactor true).final message
    (arrivals.map (Arrival.packet message.maxSequence))

/-- What has been logged after these packets. -/
def logged (message : PacketSeqnumLossMessage) (arrivals : List Arrival) :
    List LossLog :=
  (lossReactor true).outputs message
    (arrivals.map (Arrival.packet message.maxSequence))

end PacketSeqnumLossMessage

/-! ## One packet -/

variable {maxSequence : BitVec 32} {number : ℤ}

/-- The number a packet is ahead of the one before, in one round. -/
def advance (maxSequence : BitVec 32) (number next : ℤ) : ℤ :=
  next - number +
    if next < number then (maxSequence.toNat + 1 : ℤ) else 0

/-- The parser after a packet with this number. -/
structure PacketSeqnumLossMessage.After
    (message : PacketSeqnumLossMessage) (maxSequence : BitVec 32)
    (number : ℤ) : Prop where
  isInit : message.isInit = true
  maxSequence_eq : message.maxSequence = maxSequence
  lastSeqnum :
    message.lastSeqnum =
      BitVec.ofInt 32 (number % (maxSequence.toNat + 1))

theorem toNat_seqnum (maxSequence : BitVec 32) (number : ℤ) :
    ((BitVec.ofInt 32 (number % (maxSequence.toNat + 1))).toNat : ℤ) =
      number % (maxSequence.toNat + 1) := by
  have small := maxSequence.isLt
  have nonneg :=
    Int.emod_nonneg number (by omega : (maxSequence.toNat + 1 : ℤ) ≠ 0)
  have below :=
    Int.emod_lt_of_pos number (by omega : (0 : ℤ) < maxSequence.toNat + 1)
  rw [BitVec.toNat_ofInt, Int.toNat_of_nonneg (by omega)]
  exact Int.emod_eq_of_lt nonneg (by omega)

theorem advance_nonneg {next : ℤ}
    (close : |next - number| < maxSequence.toNat + 1) :
    0 ≤ advance maxSequence number next := by
  rw [abs_lt] at close
  rw [advance]
  split <;> omega

theorem advance_lt {next : ℤ}
    (close : |next - number| < maxSequence.toNat + 1) :
    advance maxSequence number next < maxSequence.toNat + 1 := by
  rw [abs_lt] at close
  rw [advance]
  split <;> omega

/-- Both branches give the difference within one round. -/
theorem PacketSeqnumLossMessage.toNat_diff
    {message : PacketSeqnumLossMessage} {seqnum : BitVec 32}
    (last : message.lastSeqnum ≤ message.maxSequence)
    (inside : seqnum ≤ message.maxSequence) :
    ((message.diff seqnum).toNat : ℤ) =
      ((seqnum.toNat : ℤ) - message.lastSeqnum.toNat) %
        (message.maxSequence.toNat + 1) := by
  rw [BitVec.le_def] at last inside
  rw [diff]
  split
  · next ordered =>
    rw [BitVec.le_def] at ordered
    rw [BitVec.toNat_sub_of_le (BitVec.le_def.mpr ordered),
      Int.emod_eq_of_lt (by omega) (by omega)]
    omega
  · next reversed =>
    rw [BitVec.le_def] at reversed
    have one : (1 : BitVec 32).toNat = 1 := rfl
    rw [← Int.add_emod_right, Int.emod_eq_of_lt (by omega) (by omega),
      BitVec.toNat_add, BitVec.toNat_add,
      BitVec.toNat_sub_of_le (BitVec.le_def.mpr last), one]
    omega

theorem PacketSeqnumLossMessage.After.toNat_diff
    {message : PacketSeqnumLossMessage}
    (after : message.After maxSequence number) {next : ℤ}
    (close : |next - number| < maxSequence.toNat + 1) :
    ((message.diff
        (BitVec.ofInt 32 (next % (maxSequence.toNat + 1)))).toNat : ℤ) =
      advance maxSequence number next := by
  have seqnum := toNat_seqnum maxSequence next
  have last := toNat_seqnum maxSequence number
  have seqnumRange :=
    Int.emod_lt_of_pos next (by omega : (0 : ℤ) < maxSequence.toNat + 1)
  have lastRange :=
    Int.emod_lt_of_pos number (by omega : (0 : ℤ) < maxSequence.toNat + 1)
  rw [message.toNat_diff, seqnum, after.lastSeqnum, last,
    after.maxSequence_eq, ← Int.sub_emod,
    ← Int.emod_eq_of_lt (advance_nonneg close) (advance_lt close), advance]
  · split
    · rw [Int.add_emod_right]
    · rw [Int.add_zero]
  · rw [after.lastSeqnum, after.maxSequence_eq, BitVec.le_def]
    omega
  · rw [after.maxSequence_eq, BitVec.le_def]
    omega

/-- The packets missing before one that is this far ahead. -/
def skipped (ahead : ℤ) : ℤ :=
  ahead - if ahead = 0 then 0 else 1

theorem setWidth_eq_intCast {diff : BitVec 32} {ahead : ℤ}
    (same : (diff.toNat : ℤ) = ahead) :
    diff.setWidth 64 = (ahead : BitVec 64) := by
  rw [← same, Int.cast_natCast, BitVec.natCast_eq_ofNat,
    BitVec.ofNat_toNat]

theorem sub_one_eq_skipped {diff : BitVec 32} {ahead : ℤ}
    (same : (diff.toNat : ℤ) = ahead) :
    (if 1 < diff then diff - 1 else 0) = (skipped ahead : BitVec 32) := by
  have zero : (0 : BitVec 32).toNat = 0 := rfl
  have one : (1 : BitVec 32).toNat = 1 := rfl
  have cast : (ahead : BitVec 32) = diff := by
    rw [← same, Int.cast_natCast, BitVec.natCast_eq_ofNat,
      BitVec.ofNat_toNat, BitVec.setWidth_eq]
  rw [skipped, Int.cast_sub, cast]
  rcases Nat.lt_trichotomy diff.toNat 1 with none | single | several
  · rw [if_neg (by rw [BitVec.lt_def]; omega), if_pos (by omega),
      Int.cast_zero, sub_zero]
    exact (BitVec.toNat_inj.mp (by omega : diff.toNat = _)).symm
  · rw [if_neg (by rw [BitVec.lt_def]; omega), if_neg (by omega),
      Int.cast_one, BitVec.toNat_inj.mp (single.trans one.symm), sub_self]
  · rw [if_pos (by rw [BitVec.lt_def]; omega), if_neg (by omega),
      Int.cast_one]

namespace PacketSeqnumLossMessage

variable {message : PacketSeqnumLossMessage}

/-- What a part of a run adds to the counts. -/
structure Counted
    (message next : PacketSeqnumLossMessage) (logs : List LossLog)
    (ahead missing : ℤ) : Prop where
  totalPacketCount :
    next.totalPacketCount = message.totalPacketCount + (ahead : BitVec 64)
  totalLossCount :
    next.totalLossCount = message.totalLossCount + (missing : BitVec 32)
  lossCount :
    (logs.map LossLog.lossCount).sum + next.lossCount =
      message.lossCount + (missing : BitVec 32)
  lastTotalPackageCount :
    (logs.map LossLog.packetCount).sum + message.lastTotalPackageCount =
      next.lastTotalPackageCount

theorem counted_nothing : Counted message message [] 0 0 := by
  constructor <;> simp

theorem Counted.append {between next : PacketSeqnumLossMessage}
    {first second : List LossLog} {ahead missing further more : ℤ}
    (counted : Counted message between first ahead missing)
    (later : Counted between next second further more) :
    Counted message next (first ++ second) (ahead + further)
      (missing + more) where
  totalPacketCount := by
    rw [later.totalPacketCount, counted.totalPacketCount, Int.cast_add,
      add_assoc]
  totalLossCount := by
    rw [later.totalLossCount, counted.totalLossCount, Int.cast_add,
      add_assoc]
  lossCount := by
    rw [List.map_append, List.sum_append, add_assoc, later.lossCount,
      ← add_assoc, counted.lossCount, Int.cast_add, add_assoc]
  lastTotalPackageCount := by
    rw [List.map_append, List.sum_append, add_right_comm,
      counted.lastTotalPackageCount, add_comm, later.lastTotalPackageCount]

theorem counted_addDiff {diff : BitVec 32} {ahead : ℤ}
    (same : (diff.toNat : ℤ) = ahead) :
    Counted message (message.addDiff diff) [] ahead (skipped ahead) := by
  constructor
  · rw [← setWidth_eq_intCast same, addDiff]
    split <;> rfl
  · rw [← sub_one_eq_skipped same, addDiff]
    split <;> simp
  · rw [← sub_one_eq_skipped same, addDiff]
    split <;> simp
  · rw [addDiff]
    split <;> simp

/-- What is printed is what the counts lose. -/
theorem counted_printLoss (packet : SeqnumPacket) :
    Counted message (message.printLoss packet).1
      (message.printLoss packet).2 0 0 := by
  rw [printLoss]
  split
  · constructor <;> simp
  · exact counted_nothing

theorem addDiff_kept (diff : BitVec 32) :
    (message.addDiff diff).isInit = message.isInit ∧
      (message.addDiff diff).maxSequence = message.maxSequence := by
  rw [addDiff]
  split <;> exact ⟨rfl, rfl⟩

theorem printLoss_kept (packet : SeqnumPacket) :
    (message.printLoss packet).1.isInit = message.isInit ∧
      (message.printLoss packet).1.maxSequence = message.maxSequence := by
  rw [printLoss]
  split <;> exact ⟨rfl, rfl⟩

theorem calPktLoss_of_isInit (isInit : message.isInit = true)
    (packet : SeqnumPacket) :
    message.calPktLoss true packet =
      ({ (({ message with isPacketLoss := false }.addDiff
            (message.diff packet.seqnum)).printLoss packet).1 with
          lastSeqnum := packet.seqnum },
        (({ message with isPacketLoss := false }.addDiff
          (message.diff packet.seqnum)).printLoss packet).2) := by
  simp only [calPktLoss, isInit, Bool.true_eq_false, if_false]
  rfl

theorem After.calPktLoss
    (after : message.After maxSequence number) (arrival : Arrival)
    (close : |arrival.number - number| < maxSequence.toNat + 1) :
    (message.calPktLoss true (arrival.packet maxSequence)).1.After
        maxSequence arrival.number ∧
      Counted message
        (message.calPktLoss true (arrival.packet maxSequence)).1
        (message.calPktLoss true (arrival.packet maxSequence)).2
        (advance maxSequence number arrival.number)
        (skipped (advance maxSequence number arrival.number)) := by
  rw [calPktLoss_of_isInit after.isInit]
  constructor
  · refine ⟨?_, ?_, rfl⟩
    · exact (printLoss_kept _).1.trans ((addDiff_kept _).1.trans after.isInit)
    · exact
        (printLoss_kept _).2.trans
          ((addDiff_kept _).2.trans after.maxSequence_eq)
  · have counted :
        Counted { message with isPacketLoss := false } _ _ _ _ :=
      (counted_addDiff (after.toNat_diff close)).append
        (counted_printLoss (arrival.packet maxSequence))
    rw [add_zero, add_zero, List.nil_append] at counted
    exact
      ⟨counted.totalPacketCount, counted.totalLossCount, counted.lossCount,
        counted.lastTotalPackageCount⟩

end PacketSeqnumLossMessage

/-! ## A run -/

theorem advance_add_travelled
    (maxSequence : BitVec 32) (number : ℤ) (arrival : Arrival)
    (rest : List Arrival) :
    advance maxSequence number arrival.number +
        travelled maxSequence arrival.number rest =
      travelled maxSequence number (arrival :: rest) := by
  simp only [travelled, lastNumber, backward, advance]
  split <;> push_cast <;> ring

theorem skipped_advance {next : ℤ}
    (close : |next - number| < maxSequence.toNat + 1) :
    skipped (advance maxSequence number next) =
      advance maxSequence number next -
        if next = number then 0 else 1 := by
  have moved : advance maxSequence number next = 0 ↔ next = number := by
    rw [abs_lt] at close
    rw [advance]
    split <;> omega
  simp only [skipped, moved]

theorem skipped_add_travelled {arrival : Arrival} (rest : List Arrival)
    (close : |arrival.number - number| < maxSequence.toNat + 1) :
    skipped (advance maxSequence number arrival.number) +
        (travelled maxSequence arrival.number rest -
          changed arrival.number rest) =
      travelled maxSequence number (arrival :: rest) -
        changed number (arrival :: rest) := by
  rw [← advance_add_travelled, skipped_advance close]
  simp only [changed]
  split <;> push_cast <;> ring

namespace PacketSeqnumLossMessage

variable {message : PacketSeqnumLossMessage}

/-- Each step back counts as the rest of a round. -/
theorem After.counted_run
    (after : message.After maxSequence number) {arrivals : List Arrival}
    (close : Close maxSequence number arrivals) :
    message.Counted
      ((lossReactor true).final message
        (arrivals.map (Arrival.packet maxSequence)))
      ((lossReactor true).outputs message
        (arrivals.map (Arrival.packet maxSequence)))
      (travelled maxSequence number arrivals)
      (travelled maxSequence number arrivals - changed number arrivals) := by
  induction arrivals generalizing number message with
  | nil =>
      simp only [travelled, lastNumber, backward, changed, sub_self,
        Nat.cast_zero, zero_mul, add_zero]
      exact counted_nothing
  | cons arrival rest induction =>
      rcases close with ⟨here, close⟩
      rcases after.calPktLoss arrival here with ⟨afterNext, counted⟩
      have run := counted.append (induction afterNext close)
      rw [advance_add_travelled, skipped_add_travelled rest here] at run
      rw [List.map_cons, Reactor.outputs_cons]
      exact run

theorem counted_received (fresh : message.isInit = false)
    {first : Arrival} {arrivals : List Arrival}
    (close : Close message.maxSequence first.number arrivals) :
    (message.initialise (first.packet message.maxSequence)).Counted
      (message.received (first :: arrivals))
      (message.logged (first :: arrivals))
      (travelled message.maxSequence first.number arrivals)
      (travelled message.maxSequence first.number arrivals -
        changed first.number arrivals) := by
  have begun :
      message.calPktLoss true (first.packet message.maxSequence) =
        ({ message with isPacketLoss := false }.initialise
          (first.packet message.maxSequence), []) := by
    simp only [calPktLoss, fresh, Bool.true_eq_false, if_false, if_true]
  have after :
      ({ message with isPacketLoss := false }.initialise
          (first.packet message.maxSequence)).After message.maxSequence
        first.number :=
    ⟨rfl, rfl, rfl⟩
  have run := after.counted_run close
  rw [received, logged, List.map_cons, Reactor.outputs_cons, Reactor.final]
  simp only [lossReactor, begun, List.nil_append]
  exact
    ⟨run.totalPacketCount, run.totalLossCount, run.lossCount,
      run.lastTotalPackageCount⟩

end PacketSeqnumLossMessage

/--
Every packet is accounted for, in any order: the total counts are the distance
of the first and the last number, with one round more for each step back, and
what has been logged together with what is still open is the total.
-/
theorem loss_accounting
    (message : PacketSeqnumLossMessage) (fresh : message.isInit = false)
    (first : Arrival) (arrivals : List Arrival)
    (close : Close message.maxSequence first.number arrivals) :
    (message.received (first :: arrivals)).totalPacketCount =
        (travelled message.maxSequence first.number arrivals : BitVec 64) ∧
      (message.received (first :: arrivals)).totalLossCount =
        ((travelled message.maxSequence first.number arrivals -
          changed first.number arrivals : ℤ) : BitVec 32) ∧
      ((message.logged (first :: arrivals)).map LossLog.lossCount).sum +
          (message.received (first :: arrivals)).lossCount =
        (message.received (first :: arrivals)).totalLossCount ∧
      ((message.logged (first :: arrivals)).map LossLog.packetCount).sum =
        (message.received (first :: arrivals)).lastTotalPackageCount := by
  have run := PacketSeqnumLossMessage.counted_received fresh close
  have window := run.lossCount
  have logged := run.lastTotalPackageCount
  have packetCount := run.totalPacketCount
  have lossCount := run.totalLossCount
  simp only [PacketSeqnumLossMessage.initialise, zero_add,
    add_zero] at window logged packetCount lossCount
  exact ⟨packetCount, lossCount, window.trans lossCount.symm, logged⟩

/-- The numbers of a JT sensor; one packet is late. -/
theorem loss_accounting_late :
    let message :=
      { PacketSeqnumLossMessage.construct with maxSequence := 0xFFFF }
    let arrivals : List Arrival :=
      [⟨65536, 2000000, 2000001⟩, ⟨65535, 2000500, 2000501⟩, ⟨65538, 0, 0⟩]
    (message.received (⟨65533, 0, 1⟩ :: arrivals)).totalPacketCount =
        (travelled message.maxSequence 65533 arrivals : BitVec 64) ∧
      (message.received (⟨65533, 0, 1⟩ :: arrivals)).totalLossCount =
        ((travelled message.maxSequence 65533 arrivals -
          changed 65533 arrivals : ℤ) : BitVec 32) ∧
      ((message.logged (⟨65533, 0, 1⟩ :: arrivals)).map
            LossLog.lossCount).sum +
          (message.received (⟨65533, 0, 1⟩ :: arrivals)).lossCount =
        (message.received (⟨65533, 0, 1⟩ :: arrivals)).totalLossCount ∧
      ((message.logged (⟨65533, 0, 1⟩ :: arrivals)).map
          LossLog.packetCount).sum =
        (message.received
          (⟨65533, 0, 1⟩ :: arrivals)).lastTotalPackageCount :=
  loss_accounting
    { PacketSeqnumLossMessage.construct with maxSequence := 0xFFFF } rfl
    ⟨65533, 0, 1⟩
    [⟨65536, 2000000, 2000001⟩, ⟨65535, 2000500, 2000501⟩, ⟨65538, 0, 0⟩]
    ⟨by decide, by decide, by decide, trivial⟩

/-! ## Packets in order -/

theorem backward_eq_zero {arrivals : List Arrival}
    (ordered :
      (number :: arrivals.map Arrival.number).Pairwise (· ≤ ·)) :
    backward number arrivals = 0 := by
  induction arrivals generalizing number with
  | nil => rfl
  | cons arrival rest induction =>
      rw [List.map_cons, List.pairwise_cons] at ordered
      have behind := ordered.1 _ List.mem_cons_self
      rw [backward, if_neg (by omega), induction ordered.2]

theorem card_numbers {arrivals : List Arrival}
    (ordered :
      (number :: arrivals.map Arrival.number).Pairwise (· ≤ ·)) :
    (number :: arrivals.map Arrival.number).toFinset.card =
      changed number arrivals + 1 := by
  induction arrivals generalizing number with
  | nil => rfl
  | cons arrival rest induction =>
      rw [List.map_cons, List.pairwise_cons] at ordered
      have behind := ordered.1 _ List.mem_cons_self
      have later := induction ordered.2
      rw [List.map_cons, List.toFinset_cons, changed]
      split
      · next same =>
        rw [← same, Finset.insert_eq_of_mem (by simp), later]
        omega
      · next other =>
        have outside :
            number ∉
              (arrival.number :: rest.map Arrival.number).toFinset := by
          rw [List.mem_toFinset, List.mem_cons, not_or]
          refine ⟨Ne.symm other, fun again => ?_⟩
          have ahead := (List.pairwise_cons.mp ordered.2).1 _ again
          omega
        rw [Finset.card_insert_of_notMem outside, later]
        omega

theorem lastNumber_bounds {arrivals : List Arrival}
    (ordered :
      (number :: arrivals.map Arrival.number).Pairwise (· ≤ ·)) :
    ∀ other ∈ number :: arrivals.map Arrival.number,
      number ≤ other ∧ other ≤ lastNumber number arrivals := by
  induction arrivals generalizing number with
  | nil => simp [lastNumber]
  | cons arrival rest induction =>
      rw [List.map_cons] at ordered ⊢
      have ahead := (List.pairwise_cons.mp ordered).1
      have later := induction (List.pairwise_cons.mp ordered).2
      have next := later _ List.mem_cons_self
      have behind := ahead _ List.mem_cons_self
      rw [lastNumber, List.forall_mem_cons]
      refine ⟨⟨le_rfl, by omega⟩, fun other member => ?_⟩
      exact ⟨ahead other member, (later other member).2⟩

/--
As long as the packets come in order, `total_loss_count` is the number of the
missing ones.
-/
theorem missing_counted
    (message : PacketSeqnumLossMessage) (fresh : message.isInit = false)
    (first : Arrival) (arrivals : List Arrival)
    (close : Close message.maxSequence first.number arrivals)
    (ordered :
      ((first :: arrivals).map Arrival.number).Pairwise (· ≤ ·)) :
    (message.received (first :: arrivals)).totalPacketCount =
        ((lastNumber first.number arrivals - first.number : ℤ) :
          BitVec 64) ∧
      (message.received (first :: arrivals)).totalLossCount =
        ((Finset.Icc first.number (lastNumber first.number arrivals) \
            ((first :: arrivals).map Arrival.number).toFinset).card :
          BitVec 32) := by
  have run := PacketSeqnumLossMessage.counted_received fresh close
  have packetCount := run.totalPacketCount
  have lossCount := run.totalLossCount
  have bounds := lastNumber_bounds ordered
  have straight :
      travelled message.maxSequence first.number arrivals =
        lastNumber first.number arrivals - first.number := by
    rw [travelled, backward_eq_zero ordered, Nat.cast_zero, zero_mul,
      add_zero]
  have inside :
      ((first :: arrivals).map Arrival.number).toFinset ⊆
        Finset.Icc first.number (lastNumber first.number arrivals) := by
    intro other member
    rw [List.mem_toFinset] at member
    exact Finset.mem_Icc.mpr (bounds other member)
  have last := (bounds _ List.mem_cons_self).2
  have missing :
      ((Finset.Icc first.number (lastNumber first.number arrivals) \
          ((first :: arrivals).map Arrival.number).toFinset).card : ℤ) =
        lastNumber first.number arrivals - first.number -
          changed first.number arrivals := by
    have count := Finset.card_sdiff_add_card_eq_card inside
    rw [List.map_cons, card_numbers ordered, Int.card_Icc] at count
    rw [List.map_cons]
    omega
  simp only [PacketSeqnumLossMessage.initialise, zero_add, straight,
    ← missing, Int.cast_natCast] at packetCount lossCount
  exact ⟨packetCount, lossCount⟩

/-- Five packets are lost where the numbers wrap. -/
theorem missing_counted_wrap :
    let arrivals : List Arrival := [⟨4294967294, 0, 0⟩, ⟨4294967300, 0, 0⟩]
    (PacketSeqnumLossMessage.construct.received
          (⟨4294967293, 0, 0⟩ :: arrivals)).totalPacketCount =
        ((lastNumber 4294967293 arrivals - 4294967293 : ℤ) : BitVec 64) ∧
      (PacketSeqnumLossMessage.construct.received
          (⟨4294967293, 0, 0⟩ :: arrivals)).totalLossCount =
        ((Finset.Icc 4294967293 (lastNumber 4294967293 arrivals) \
            (((⟨4294967293, 0, 0⟩ : Arrival) :: arrivals).map
              Arrival.number).toFinset).card :
          BitVec 32) :=
  missing_counted PacketSeqnumLossMessage.construct rfl ⟨4294967293, 0, 0⟩
    [⟨4294967294, 0, 0⟩, ⟨4294967300, 0, 0⟩]
    ⟨by decide, by decide, trivial⟩ (by decide)

end Go2Navigation.Lidar
