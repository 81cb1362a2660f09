import Mathlib.Algebra.Group.Int.Defs
import Mathlib.Order.Nat

/-!
# Where one frame ends and the next begins

`IsNeedFrameSplit` sees the azimuths of three packets, in hundredths of a
degree, and decides whether the sensor has passed the start of a frame.  It
takes the direction of rotation from the smaller of the two distances between
them, and recognises the jump from 36000 to 0 by its size.
-/

namespace Go2Navigation.Lidar

/-- What the parser remembers of earlier packets, and `rotation_flag`. -/
structure AzimuthHistory where
  lastAzimuth : ℤ
  lastLastAzimuth : ℤ
  rotationFlag : ℤ
deriving DecidableEq

/-- `UpdateRotation`. -/
def updateRotation (rotationFlag rotation : ℤ) : ℤ :=
  if rotationFlag.natAbs = 10240 then rotationFlag
  else
    (if 128 * 8 < rotationFlag.natAbs then rotationFlag.tdiv 128
      else rotationFlag) + rotation

namespace AzimuthHistory

/-- The smaller of `division1` and `division2`. -/
def division (history : AzimuthHistory) (azimuth : ℕ) : ℤ :=
  let division1 := (history.lastAzimuth - history.lastLastAzimuth).natAbs
  let division2 := (history.lastAzimuth - azimuth).natAbs
  if division2 < division1 then division2 else division1

/-- The branch of a sensor that turns towards larger azimuths. -/
def forwardSplit
    (frameStartAzimuth azimuth : ℕ) (history : AzimuthHistory) : Bool :=
  if history.division azimuth < history.lastAzimuth - azimuth then
    history.lastAzimuth < frameStartAzimuth ∨ frameStartAzimuth ≤ azimuth
  else
    history.lastAzimuth < azimuth ∧
      history.lastAzimuth < frameStartAzimuth ∧ frameStartAzimuth ≤ azimuth

/-- The branch of a sensor that turns towards smaller azimuths. -/
def reverseSplit
    (frameStartAzimuth azimuth : ℕ) (history : AzimuthHistory) : Bool :=
  if history.division azimuth < azimuth - history.lastAzimuth then
    frameStartAzimuth < history.lastAzimuth ∨ azimuth ≤ frameStartAzimuth
  else
    azimuth < history.lastAzimuth ∧
      frameStartAzimuth < history.lastAzimuth ∧ azimuth ≤ frameStartAzimuth

/-- The rotation the three azimuths show. -/
def rotation (history : AzimuthHistory) (azimuth : ℕ) : ℤ :=
  if history.lastLastAzimuth - history.lastAzimuth =
        history.division azimuth ∨
      history.lastAzimuth - azimuth = history.division azimuth then -1
  else 1

/-- `IsNeedFrameSplit`, with the `rotation_flag` it leaves. -/
def isNeedFrameSplit
    (frameStartAzimuth azimuth : ℕ) (history : AzimuthHistory) :
    Bool × ℤ :=
  if history.lastLastAzimuth ≠ -1 then
    if history.division azimuth = 0 then (false, history.rotationFlag)
    else
      let rotationFlag :=
        updateRotation history.rotationFlag (history.rotation azimuth)
      (if 0 < rotationFlag then history.forwardSplit frameStartAzimuth azimuth
        else history.reverseSplit frameStartAzimuth azimuth,
        rotationFlag)
  else (false, history.rotationFlag)

/-- What `DecodePacket` does with the azimuth of a packet. -/
def decode
    (frameStartAzimuth : ℕ) (history : AzimuthHistory) (azimuth : ℕ) :
    Bool × AzimuthHistory :=
  let split := history.isNeedFrameSplit frameStartAzimuth azimuth
  (split.1,
    if (azimuth : ℤ) ≠ history.lastAzimuth then
      ⟨azimuth, history.lastAzimuth, split.2⟩
    else { history with rotationFlag := split.2 })

/-- Which packets of a sequence end a frame. -/
def splits (frameStartAzimuth : ℕ) :
    AzimuthHistory → List ℕ → List Bool
  | _, [] => []
  | history, azimuth :: rest =>
      (history.decode frameStartAzimuth azimuth).1 ::
        splits frameStartAzimuth
          (history.decode frameStartAzimuth azimuth).2 rest

/-- What is remembered after a sequence of packets. -/
def afterPackets (frameStartAzimuth : ℕ) :
    AzimuthHistory → List ℕ → AzimuthHistory
  | history, [] => history
  | history, azimuth :: rest =>
      afterPackets frameStartAzimuth
        (history.decode frameStartAzimuth azimuth).2 rest

end AzimuthHistory

/-! ## A turning sensor -/

inductive Rotation where
  | forward
  | reverse
deriving DecidableEq

namespace Rotation

/-- The angle after a turn; it is not reduced to one revolution. -/
def turn (rotation : Rotation) (angle step : ℤ) : ℤ :=
  match rotation with
  | .forward => angle + step
  | .reverse => angle - step

/-- How often the start of a frame has been passed, from some angle on. -/
def passed (rotation : Rotation) (frameStartAzimuth : ℕ) (angle : ℤ) : ℤ :=
  match rotation with
  | .forward => (angle - frameStartAzimuth) / 36000
  | .reverse => -((angle - frameStartAzimuth - 1) / 36000)

/-- The azimuths a sensor reports after each of its steps. -/
def azimuths (rotation : Rotation) : ℤ → List ℕ → List ℕ
  | _, [] => []
  | angle, step :: rest =>
      (rotation.turn angle step % 36000).toNat ::
        rotation.azimuths (rotation.turn angle step) rest

/-- The angle after all steps. -/
def final (rotation : Rotation) : ℤ → List ℕ → ℤ
  | angle, [] => angle
  | angle, step :: rest => rotation.final (rotation.turn angle step) rest

/-- `rotation_flag` leads to the branch of this direction. -/
def Agrees (rotation : Rotation) (rotationFlag : ℤ) : Prop :=
  match rotation with
  | .forward => 0 ≤ rotationFlag
  | .reverse => rotationFlag ≤ 1

/-- The sign `UpdateRotation` is called with. -/
def sign : Rotation → ℤ
  | .forward => 1
  | .reverse => -1

end Rotation

/-- Any two steps in a row are less than a revolution together. -/
def Smooth : ℕ → List ℕ → Prop
  | _, [] => True
  | previous, step :: rest =>
      previous + step < 36000 ∧
        Smooth (if step = 0 then previous else step) rest

/-- The history of a sensor at this angle, after a step of this size. -/
structure AzimuthHistory.At
    (history : AzimuthHistory) (rotation : Rotation) (angle : ℤ)
    (previous : ℕ) : Prop where
  last : history.lastAzimuth = angle % 36000
  lastLast :
    history.lastLastAzimuth = rotation.turn angle (-previous) % 36000
  moved : 0 < previous

/-! ## One packet -/

variable {rotation : Rotation} {history : AzimuthHistory} {angle : ℤ}
  {previous step frameStartAzimuth : ℕ}

theorem Rotation.agrees_updateRotation {rotationFlag : ℤ}
    (agrees : rotation.Agrees rotationFlag) :
    rotation.Agrees (updateRotation rotationFlag rotation.sign) ∧
      (0 < updateRotation rotationFlag rotation.sign ↔
        rotation = .forward) := by
  cases rotation with
  | forward =>
      have agrees : 0 ≤ rotationFlag := agrees
      have quotient := Int.tdiv_nonneg agrees (by decide : (0 : ℤ) ≤ 128)
      simp only [Agrees, updateRotation, sign, iff_true]
      split
      · omega
      · split <;> omega
  | reverse =>
      have agrees : rotationFlag ≤ 1 := agrees
      simp only [Agrees, updateRotation, sign, reduceCtorEq, iff_false]
      split
      · omega
      · split
        · have quotient :=
            Int.tdiv_nonneg (by omega : (0 : ℤ) ≤ -rotationFlag)
              (by decide : (0 : ℤ) ≤ 128)
          rw [Int.neg_tdiv] at quotient
          omega
        · omega

/-- The azimuth a sensor reports at an angle. -/
theorem azimuth_cast (angle : ℤ) :
    ((angle % 36000).toNat : ℤ) = angle % 36000 :=
  Int.toNat_of_nonneg (Int.emod_nonneg angle (by decide))

namespace AzimuthHistory

/-- The smaller distance is not the jump, so it shows the direction. -/
theorem At.rotation_eq (here : history.At rotation angle previous)
    (moves : 0 < step) (smooth : previous + step < 36000) :
    history.division (rotation.turn angle step % 36000).toNat ≠ 0 ∧
      history.rotation (rotation.turn angle step % 36000).toNat =
        rotation.sign := by
  have last := here.last
  have lastLast := here.lastLast
  have moved := here.moved
  cases rotation with
  | forward =>
      simp only [Rotation.turn] at lastLast
      simp only [AzimuthHistory.rotation, division, Rotation.turn,
        azimuth_cast, last, lastLast, Rotation.sign]
      constructor
      · split <;> omega
      · rw [if_neg]
        split <;> omega
  | reverse =>
      simp only [Rotation.turn] at lastLast
      simp only [AzimuthHistory.rotation, division, Rotation.turn,
        azimuth_cast, last, lastLast, Rotation.sign]
      constructor
      · split <;> omega
      · rw [if_pos]
        split <;> omega

/-- The frame ends with the packet that passes its start. -/
theorem At.forwardSplit_iff (here : history.At .forward angle previous)
    (start : frameStartAzimuth < 36000) (moves : 0 < step)
    (smooth : previous + step < 36000) :
    history.forwardSplit frameStartAzimuth
        (Rotation.forward.turn angle step % 36000).toNat = true ↔
      Rotation.forward.passed frameStartAzimuth
          (Rotation.forward.turn angle step) =
        Rotation.forward.passed frameStartAzimuth angle + 1 := by
  have last := here.last
  have lastLast := here.lastLast
  have moved := here.moved
  simp only [Rotation.turn] at lastLast
  simp only [forwardSplit, division, Rotation.turn, Rotation.passed,
    azimuth_cast, last, lastLast]
  by_cases jump : angle % 36000 + step < 36000
  · rw [if_neg (by split <;> omega), decide_eq_true_eq]
    omega
  · rw [if_pos (by split <;> omega), decide_eq_true_eq]
    omega

theorem At.reverseSplit_iff (here : history.At .reverse angle previous)
    (start : frameStartAzimuth < 36000) (moves : 0 < step)
    (smooth : previous + step < 36000) :
    history.reverseSplit frameStartAzimuth
        (Rotation.reverse.turn angle step % 36000).toNat = true ↔
      Rotation.reverse.passed frameStartAzimuth
          (Rotation.reverse.turn angle step) =
        Rotation.reverse.passed frameStartAzimuth angle + 1 := by
  have last := here.last
  have lastLast := here.lastLast
  have moved := here.moved
  simp only [Rotation.turn] at lastLast
  simp only [reverseSplit, division, Rotation.turn, Rotation.passed,
    azimuth_cast, last, lastLast]
  by_cases jump : step ≤ angle % 36000
  · rw [if_neg (by split <;> omega), decide_eq_true_eq]
    omega
  · rw [if_pos (by split <;> omega), decide_eq_true_eq]
    omega

end AzimuthHistory

/-- A step of less than a revolution passes the start at most once. -/
theorem Rotation.passed_turn (rotation : Rotation) (frameStartAzimuth : ℕ)
    (angle : ℤ) (short : step < 36000) :
    rotation.passed frameStartAzimuth (rotation.turn angle step) =
        rotation.passed frameStartAzimuth angle ∨
      rotation.passed frameStartAzimuth (rotation.turn angle step) =
        rotation.passed frameStartAzimuth angle + 1 := by
  cases rotation <;> simp only [passed, turn] <;> omega

namespace AzimuthHistory

theorem At.lastLast_ne (here : history.At rotation angle previous) :
    history.lastLastAzimuth ≠ -1 := by
  have lastLast := here.lastLast
  omega

/-- A packet at another angle. -/
theorem At.decode_moved (here : history.At rotation angle previous)
    (moves : 0 < step) (smooth : previous + step < 36000) :
    (history.decode frameStartAzimuth
          (rotation.turn angle step % 36000).toNat).2 =
        ⟨rotation.turn angle step % 36000, history.lastAzimuth,
          updateRotation history.rotationFlag rotation.sign⟩ ∧
      ((history.decode frameStartAzimuth
          (rotation.turn angle step % 36000).toNat).1 =
        if 0 < updateRotation history.rotationFlag rotation.sign then
          history.forwardSplit frameStartAzimuth
            (rotation.turn angle step % 36000).toNat
        else
          history.reverseSplit frameStartAzimuth
            (rotation.turn angle step % 36000).toNat) := by
  rcases here.rotation_eq moves smooth with ⟨apart, direction⟩
  have other :
      rotation.turn angle step % 36000 ≠ history.lastAzimuth := by
    rw [here.last]
    cases rotation <;> simp only [Rotation.turn] <;> omega
  constructor
  · simp only [decode, isNeedFrameSplit, if_pos here.lastLast_ne,
      if_neg apart, direction, azimuth_cast, if_pos other]
  · simp only [decode, isNeedFrameSplit, if_pos here.lastLast_ne,
      if_neg apart, direction]

theorem moved_at (last : history.lastAzimuth = angle % 36000)
    (moves : 0 < step) (rotationFlag : ℤ) :
    (⟨rotation.turn angle step % 36000, history.lastAzimuth,
        rotationFlag⟩ : AzimuthHistory).At rotation
      (rotation.turn angle step) step where
  last := rfl
  lastLast := by
    rw [last]
    cases rotation <;> simp only [Rotation.turn] <;> omega
  moved := moves

/-- A packet at the angle of the one before. -/
theorem At.decode_repeated (here : history.At rotation angle previous)
    (short : previous < 36000) :
    history.decode frameStartAzimuth
        (rotation.turn angle (0 : ℕ) % 36000).toNat =
      (false, history) := by
  have last := here.last
  have lastLast := here.lastLast
  have moved := here.moved
  have same :
      ((rotation.turn angle (0 : ℕ) % 36000).toNat : ℤ) =
        history.lastAzimuth := by
    rw [azimuth_cast, last]
    cases rotation <;> simp [Rotation.turn]
  have together :
      history.division (rotation.turn angle (0 : ℕ) % 36000).toNat = 0 := by
    have apart :
        0 < (history.lastAzimuth - history.lastLastAzimuth).natAbs := by
      rw [last, lastLast]
      cases rotation <;> simp only [Rotation.turn] <;> omega
    rw [division, same, Int.sub_self, Int.natAbs_zero, if_pos apart]
    rfl
  simp only [decode, isNeedFrameSplit, if_pos here.lastLast_ne, together,
    if_true, same, ne_eq, not_true_eq_false, if_false]

/-- A sensor that keeps its direction splits where it passes the start. -/
theorem At.split_iff (here : history.At rotation angle previous)
    (agrees : rotation.Agrees history.rotationFlag)
    (start : frameStartAzimuth < 36000) (moves : 0 < step)
    (smooth : previous + step < 36000) :
    (history.decode frameStartAzimuth
        (rotation.turn angle step % 36000).toNat).1 = true ↔
      rotation.passed frameStartAzimuth (rotation.turn angle step) =
        rotation.passed frameStartAzimuth angle + 1 := by
  have branch := (Rotation.agrees_updateRotation agrees).2
  rw [(here.decode_moved moves smooth).2]
  cases rotation with
  | forward =>
      rw [if_pos (branch.mpr rfl)]
      exact here.forwardSplit_iff start moves smooth
  | reverse =>
      rw [if_neg fun positive => nomatch branch.mp positive]
      exact here.reverseSplit_iff start moves smooth

end AzimuthHistory

/-! ## A sequence of packets -/

/-- Every packet counts the passage it makes. -/
theorem AzimuthHistory.At.count_splits {steps : List ℕ}
    (here : history.At rotation angle previous)
    (start : frameStartAzimuth < 36000)
    (agrees : rotation.Agrees history.rotationFlag)
    (smooth : Smooth previous steps) :
    ((history.splits frameStartAzimuth
        (rotation.azimuths angle steps)).count true : ℤ) =
      rotation.passed frameStartAzimuth (rotation.final angle steps) -
        rotation.passed frameStartAzimuth angle := by
  induction steps generalizing history angle previous with
  | nil => simp [Rotation.azimuths, AzimuthHistory.splits, Rotation.final]
  | cons step rest induction =>
      rcases smooth with ⟨short, smooth⟩
      rcases Nat.eq_zero_or_pos step with rfl | moves
      · have rested : rotation.turn angle (0 : ℕ) = angle := by
          cases rotation <;> simp [Rotation.turn]
        have later := induction here agrees smooth
        rw [Rotation.azimuths, AzimuthHistory.splits,
          here.decode_repeated (by omega), Rotation.final, rested,
          List.count_cons_of_ne Bool.false_ne_true]
        exact later
      · rw [if_neg (by omega)] at smooth
        have updated := (Rotation.agrees_updateRotation agrees).1
        have later :=
          induction
            (AzimuthHistory.moved_at here.last moves
              (updateRotation history.rotationFlag rotation.sign))
            updated smooth
        have passes := here.split_iff agrees start moves short
        rw [Rotation.azimuths, AzimuthHistory.splits, Rotation.final,
          (here.decode_moved moves short).1]
        rcases rotation.passed_turn frameStartAzimuth angle
            (by omega : step < 36000) with stays | passed
        · have silent :
              (history.decode frameStartAzimuth
                (rotation.turn angle step % 36000).toNat).1 ≠ true := by
            rw [ne_eq, passes, stays]
            omega
          rw [List.count_cons_of_ne silent, later, stays]
        · rw [passes.mpr passed, List.count_cons_self, Int.natCast_add,
            later, passed]
          omega

/--
A sensor that turns smoothly in one direction, at whatever speed, ends exactly
one frame each time it passes the start.
-/
theorem splits_count
    (rotation : Rotation) (frameStartAzimuth : ℕ)
    (start : frameStartAzimuth < 36000) (history : AzimuthHistory)
    (angle : ℤ) (previous : ℕ) (steps : List ℕ)
    (here : history.At rotation angle previous)
    (agrees : rotation.Agrees history.rotationFlag)
    (smooth : Smooth previous steps) :
    ((history.splits frameStartAzimuth
        (rotation.azimuths angle steps)).count true : ℤ) =
      rotation.passed frameStartAzimuth (rotation.final angle steps) -
        rotation.passed frameStartAzimuth angle :=
  here.count_splits start agrees smooth

/-- Across the seam, with a packet repeated there. -/
theorem splits_count_seam :
    (((⟨35980, 35960, 3⟩ : AzimuthHistory).splits 0
        (Rotation.forward.azimuths 35980 [20, 0, 25])).count true : ℤ) =
      Rotation.forward.passed 0 (Rotation.forward.final 35980 [20, 0, 25]) -
        Rotation.forward.passed 0 35980 :=
  splits_count .forward 0 (by decide) _ 35980 20 [20, 0, 25]
    ⟨by decide, by decide, by decide⟩
    (by decide : (0 : ℤ) ≤ 3) (by simp [Smooth])

/-! ## Learning the direction -/

/-- `rotation_flag` stays small, and follows the rotation it is shown. -/
theorem updateRotation_sign {rotationFlag : ℤ} (rotation : Rotation)
    (small : rotationFlag.natAbs ≤ 1025) :
    (updateRotation rotationFlag rotation.sign).natAbs ≤ 1025 ∧
      (0 ≤ rotation.sign * updateRotation rotationFlag rotation.sign ∨
        rotation.sign * rotationFlag + 1 ≤
          rotation.sign * updateRotation rotationFlag rotation.sign) := by
  by_cases large : 128 * 8 < rotationFlag.natAbs
  · obtain rfl | rfl : rotationFlag = 1025 ∨ rotationFlag = -1025 := by
      omega
    · cases rotation <;> decide
    · cases rotation <;> decide
  · rw [updateRotation, if_neg (by omega), if_neg large]
    cases rotation <;> simp only [Rotation.sign] <;> omega

namespace AzimuthHistory

theorem afterPackets_append (before after : List ℕ) :
    history.afterPackets frameStartAzimuth (before ++ after) =
      (history.afterPackets frameStartAzimuth before).afterPackets
        frameStartAzimuth after := by
  induction before generalizing history with
  | nil => rfl
  | cons azimuth rest induction => exact induction

theorem decode_lastAzimuth
    (frameStartAzimuth : ℕ) (history : AzimuthHistory) (azimuth : ℕ) :
    (history.decode frameStartAzimuth azimuth).2.lastAzimuth = azimuth := by
  rw [decode]
  split
  · rfl
  · next same =>
    rw [ne_eq, not_not] at same
    exact same.symm

theorem isNeedFrameSplit_small (small : history.rotationFlag.natAbs ≤ 1025)
    (azimuth : ℕ) :
    (history.isNeedFrameSplit frameStartAzimuth azimuth).2.natAbs ≤
      1025 := by
  have direction :
      history.rotation azimuth = Rotation.reverse.sign ∨
        history.rotation azimuth = Rotation.forward.sign := by
    rw [AzimuthHistory.rotation]
    split
    · exact .inl rfl
    · exact .inr rfl
  rw [isNeedFrameSplit]
  split
  · split
    · exact small
    · rcases direction with same | same <;> rw [same] <;>
        exact (updateRotation_sign _ small).1
  · exact small

theorem decode_small (small : history.rotationFlag.natAbs ≤ 1025)
    (azimuth : ℕ) :
    (history.decode frameStartAzimuth azimuth).2.rotationFlag.natAbs ≤
      1025 := by
  rw [decode]
  split <;> exact isNeedFrameSplit_small small azimuth

theorem afterPackets_small (small : history.rotationFlag.natAbs ≤ 1025)
    (packets : List ℕ) :
    (history.afterPackets frameStartAzimuth
        packets).rotationFlag.natAbs ≤ 1025 := by
  induction packets generalizing history with
  | nil => exact small
  | cons azimuth rest induction => exact induction (decode_small small _)

/-- Every new angle brings `rotation_flag` closer to the direction. -/
theorem At.learns (frameStartAzimuth : ℕ) {steps later : List ℕ}
    (here : history.At rotation angle previous)
    (small : history.rotationFlag.natAbs ≤ 1025)
    (smooth : Smooth previous (steps ++ later)) :
    ∃ last,
      (history.afterPackets frameStartAzimuth
          (rotation.azimuths angle steps)).At rotation
        (rotation.final angle steps) last ∧
      Smooth last later ∧
      (0 ≤ rotation.sign *
          (history.afterPackets frameStartAzimuth
            (rotation.azimuths angle steps)).rotationFlag ∨
        rotation.sign * history.rotationFlag + steps.countP (0 < ·) ≤
          rotation.sign *
            (history.afterPackets frameStartAzimuth
              (rotation.azimuths angle steps)).rotationFlag) := by
  induction steps generalizing history angle previous with
  | nil =>
      exact
        ⟨previous, here, smooth,
          .inr (by simp [Rotation.azimuths, afterPackets])⟩
  | cons step rest induction =>
      rcases smooth with ⟨short, smooth⟩
      rcases Nat.eq_zero_or_pos step with rfl | moves
      · have rested : rotation.turn angle (0 : ℕ) = angle := by
          cases rotation <;> simp [Rotation.turn]
        rw [Rotation.azimuths, afterPackets,
          here.decode_repeated (by omega), Rotation.final, rested,
          List.countP_cons_of_neg (by simp)]
        exact induction here small smooth
      · rw [if_neg (by omega)] at smooth
        rcases updateRotation_sign rotation small with ⟨smaller, closer⟩
        rw [Rotation.azimuths, afterPackets, Rotation.final,
          (here.decode_moved moves short).1,
          List.countP_cons_of_pos (by simpa using moves)]
        rcases
            induction
              (moved_at here.last moves
                (updateRotation history.rotationFlag rotation.sign))
              smaller smooth with
          ⟨last, reached, smoothLater, learned⟩
        refine ⟨last, reached, smoothLater, ?_⟩
        dsimp only at learned
        omega

/-- Enough new angles turn any `rotation_flag`. -/
theorem agrees_of_closer {before after : ℤ} {angles : ℕ}
    (small : before.natAbs ≤ 1025) (enough : 1025 ≤ angles)
    (closer :
      0 ≤ rotation.sign * after ∨
        rotation.sign * before + angles ≤ rotation.sign * after) :
    rotation.Agrees after := by
  cases rotation <;>
    simp only [Rotation.sign, Rotation.Agrees] at closer ⊢ <;> omega

/-- After a first new angle the history belongs to the rotation. -/
theorem decode_new_at
    (rotation : Rotation) (frameStartAzimuth : ℕ)
    (last : history.lastAzimuth = angle % 36000)
    (small : history.rotationFlag.natAbs ≤ 1025) (moves : 0 < step)
    (short : step < 36000) :
    (history.decode frameStartAzimuth
          (rotation.turn angle step % 36000).toNat).2.At rotation
        (rotation.turn angle step) step ∧
      (history.decode frameStartAzimuth
          (rotation.turn angle step % 36000).toNat).2.rotationFlag.natAbs ≤
        1025 := by
  refine ⟨?_, decode_small small _⟩
  have other :
      rotation.turn angle step % 36000 ≠ history.lastAzimuth := by
    rw [last]
    cases rotation <;> simp only [Rotation.turn] <;> omega
  simp only [decode, azimuth_cast, if_pos other]
  exact moved_at last moves _

/-- The constructor of the parser, and of the parameters of the frame. -/
def initial : AzimuthHistory := ⟨0, 0, 0⟩

end AzimuthHistory

open AzimuthHistory in
/--
Whatever packets came before, `rotation_flag` is small, and once a smooth
rotation has shown 1025 new angles the flag agrees with its direction and the
frames are cut where the sensor passes the start.
-/
theorem splits_count_learned
    (rotation : Rotation) (frameStartAzimuth : ℕ)
    (start : frameStartAzimuth < 36000) (past : List ℕ) (angle : ℤ)
    (step : ℕ) (first second : List ℕ) (moves : 0 < step)
    (short : step < 36000) (smooth : Smooth step (first ++ second))
    (learned : 1025 ≤ first.countP (0 < ·)) :
    (initial.afterPackets frameStartAzimuth past).rotationFlag.natAbs ≤
        1025 ∧
      rotation.Agrees
        (initial.afterPackets frameStartAzimuth
          (past ++ (angle % 36000).toNat ::
            rotation.azimuths angle (step :: first))).rotationFlag ∧
      (((initial.afterPackets frameStartAzimuth
              (past ++ (angle % 36000).toNat ::
                rotation.azimuths angle (step :: first))).splits
            frameStartAzimuth
            (rotation.azimuths (rotation.final angle (step :: first))
              second)).count true : ℤ) =
        rotation.passed frameStartAzimuth
            (rotation.final (rotation.final angle (step :: first)) second) -
          rotation.passed frameStartAzimuth
            (rotation.final angle (step :: first)) := by
  have known :
      (initial.afterPackets frameStartAzimuth past).rotationFlag.natAbs ≤
        1025 :=
    afterPackets_small (by decide) past
  rw [afterPackets_append, afterPackets, Rotation.azimuths, afterPackets,
    Rotation.final]
  have arrived :=
    decode_lastAzimuth frameStartAzimuth
      (initial.afterPackets frameStartAzimuth past) (angle % 36000).toNat
  rw [azimuth_cast] at arrived
  rcases
      decode_new_at rotation frameStartAzimuth arrived
        (decode_small known _) moves short with
    ⟨here, small⟩
  rcases here.learns frameStartAzimuth small smooth with
    ⟨previous, reached, smoothLater, closer⟩
  have agrees := agrees_of_closer small learned closer
  exact ⟨known, agrees, reached.count_splits start agrees smoothLater⟩

theorem smooth_replicate (slow : step + step < 36000) (packets : ℕ) :
    Smooth step (List.replicate packets step) := by
  induction packets with
  | zero => trivial
  | succ packets induction =>
      refine ⟨slow, ?_⟩
      split <;> exact induction

/-- A revolution in the other direction, after a start the wrong way. -/
theorem splits_count_learned_reverse :
    (AzimuthHistory.initial.afterPackets 0
          [10, 20, 30]).rotationFlag.natAbs ≤ 1025 ∧
      Rotation.reverse.Agrees
        (AzimuthHistory.initial.afterPackets 0
          ([10, 20, 30] ++ ((30 : ℤ) % 36000).toNat ::
            Rotation.reverse.azimuths 30
              (20 :: List.replicate 1025 20))).rotationFlag ∧
      (((AzimuthHistory.initial.afterPackets 0
              ([10, 20, 30] ++ ((30 : ℤ) % 36000).toNat ::
                Rotation.reverse.azimuths 30
                  (20 :: List.replicate 1025 20))).splits
            0
            (Rotation.reverse.azimuths
              (Rotation.reverse.final 30 (20 :: List.replicate 1025 20))
              (List.replicate 1800 20))).count true : ℤ) =
        Rotation.reverse.passed 0
            (Rotation.reverse.final
              (Rotation.reverse.final 30 (20 :: List.replicate 1025 20))
              (List.replicate 1800 20)) -
          Rotation.reverse.passed 0
            (Rotation.reverse.final 30 (20 :: List.replicate 1025 20)) :=
  splits_count_learned .reverse 0 (by decide) [10, 20, 30] 30 20
    (List.replicate 1025 20) (List.replicate 1800 20) (by decide)
    (by decide)
    (by
      rw [List.replicate_append_replicate]
      exact smooth_replicate (by decide) _)
    (by rw [List.countP_replicate, if_pos (by decide)])

end Go2Navigation.Lidar
