import Go2Navigation.Foundation.Memory
import Mathlib.Logic.Function.Basic
import Mathlib.Order.Nat

/-!
# A frame of the lidar driver

`DecodePacket` keeps each packet of a frame in a slot of its own, and
`ComputeXYZI` writes the points of one slot into the part of `points` that
belongs to it.  When all slots are computed the parts are moved together, so
that the points of the frame stand at the front.
-/

namespace Go2Navigation.Lidar

open Go2Navigation.Foundation

def kPacketBufferSize : ℕ := 8000

def kMinPointsOfOneFrame : ℕ := 1000

/-- The fields that `DecodePacket` writes and a computation reads. -/
structure Settings where
  rotationFlag : ℤ
  returnMode : UInt16
deriving DecidableEq

/-- As the constructors leave them. -/
def Settings.initial : Settings := ⟨0, 0⟩

/-- The last of the values the settings had. -/
def latest (settings : List Settings) : List Settings :=
  settings.getLast?.toList

/-- `remake_config`, with its flag set. -/
structure Remake (Packet Point : Type) where
  /-- `max_azi_scan * max_elev_scan`. -/
  cells : ℕ
  /-- The points which `DoRemake` gives a cell, in order, each with its cell. -/
  placesOf : List Settings → Packet → List (ℕ × Point)
  /-- `T_Point{}`. -/
  blank : Point

/--
What a parser decodes with.  A frame of every parser of the driver may have
several packets, and no more than fit into the buffers between the threads.
-/
structure Decoding (Packet Point : Type) where
  maxPacketPerFrame : ℕ
  perPointsNum : ℕ
  /--
  What `ComputeXYZI` writes for a packet, in the order it writes, with what its
  reads of the settings find, one after the other.
  -/
  pointsOf : List Settings → Packet → List Point
  remake : Option (Remake Packet Point)
  /-- `multi_rate`, if `IsMultiFrameFrequency`. -/
  multiRate : Option ℕ
  several : 1 < maxPacketPerFrame
  buffered : maxPacketPerFrame ≤ kPacketBufferSize
  fits : ∀ reads packet, (pointsOf reads packet).length ≤ perPointsNum

/-- The fields of `LidarDecodedFrame` that the threads share. -/
structure Frame (Packet Point : Type) where
  packetNum : ℕ
  pointsNum : ℕ
  /-- The slots, `point_cloud_raw_data` together with `packetData`. -/
  rawData : ℕ → Packet
  points : ℕ → Point
  validPoints : ℕ → ℕ

/-- What `DecodePacket` reports of a packet. -/
inductive Outcome where
  /-- The return value is not zero. -/
  | failed
  /-- The packet belongs to no frame, and none is complete. -/
  | skipped
  /-- `scan_complete`: the frame ends before this packet. -/
  | split
  /-- The packet is kept in the next slot. -/
  | added
deriving DecidableEq

namespace Frame

variable {Packet Point : Type}

/-- `DecodePacket`, with what it reports. -/
def decodePacket
    (packet : Packet) (outcome : Outcome) (frame : Frame Packet Point) :
    Frame Packet Point :=
  match outcome with
  | .added =>
      { frame with
        rawData := Function.update frame.rawData frame.packetNum packet
        packetNum := frame.packetNum + 1 }
  | _ => frame

/-- `Update`. -/
def update (frame : Frame Packet Point) : Frame Packet Point :=
  { frame with packetNum := 0, pointsNum := 0 }

/-- `std::fill_n` on all of `points`, which only `remake_config` asks for. -/
def clearPoints
    (decoding : Decoding Packet Point) (frame : Frame Packet Point) :
    Frame Packet Point :=
  match decoding.remake with
  | none => frame
  | some remake => { frame with points := fun _ => remake.blank }

/-- Each point is written to its cell. -/
def place (points : ℕ → Point) (places : List (ℕ × Point)) : ℕ → Point :=
  places.foldl
    (fun written placed => Function.update written placed.1 placed.2) points

/-- `ComputeXYZI`, without the count it adds to. -/
def computeXYZI
    (decoding : Decoding Packet Point) (reads : List Settings)
    (frame : Frame Packet Point) (packetIndex : ℕ) : Frame Packet Point :=
  if decoding.maxPacketPerFrame ≤ packetIndex then frame
  else
    match decoding.remake with
    | none =>
        let computed := decoding.pointsOf reads (frame.rawData packetIndex)
        { frame with
          points :=
            store frame.points (packetIndex * decoding.perPointsNum) computed
          validPoints :=
            Function.update frame.validPoints packetIndex computed.length }
    | some remake =>
        let placed := remake.placesOf reads (frame.rawData packetIndex)
        { frame with
          points := place frame.points placed
          validPoints :=
            Function.update frame.validPoints packetIndex placed.length }

/-- The body of the loop that moves the parts together. -/
def compactStep
    (perPointsNum : ℕ) (validPoints : ℕ → ℕ) (done : (ℕ → Point) × ℕ)
    (i : ℕ) : (ℕ → Point) × ℕ :=
  (if done.2 ≠ i * perPointsNum then
      -- `memcpy` also where the two parts overlap
      copy done.1 done.2 (i * perPointsNum) (validPoints i)
    else done.1,
    done.2 + validPoints i)

def compactLoop
    (perPointsNum : ℕ) (validPoints : ℕ → ℕ) (points : ℕ → Point)
    (packetNum : ℕ) : (ℕ → Point) × ℕ :=
  (List.range packetNum).foldl (compactStep perPointsNum validPoints)
    (points, 0)

/-- What `Run` does with the points once they are complete. -/
def compact
    (decoding : Decoding Packet Point) (frame : Frame Packet Point) :
    Frame Packet Point :=
  let sized :=
    { frame with
      pointsNum := decoding.remake.elim frame.pointsNum Remake.cells }
  if sized.pointsNum = 0 then
    let compacted :=
      compactLoop decoding.perPointsNum sized.validPoints sized.points
        sized.packetNum
    { sized with points := compacted.1, pointsNum := compacted.2 }
  else sized

/-- The points a subscriber is given. -/
def cloud (frame : Frame Packet Point) : List Point :=
  (List.range frame.pointsNum).map frame.points

@[simp]
theorem clearPoints_packetNum
    (decoding : Decoding Packet Point) (frame : Frame Packet Point) :
    (frame.clearPoints decoding).packetNum = frame.packetNum := by
  rw [clearPoints]
  split <;> rfl

@[simp]
theorem clearPoints_pointsNum
    (decoding : Decoding Packet Point) (frame : Frame Packet Point) :
    (frame.clearPoints decoding).pointsNum = frame.pointsNum := by
  rw [clearPoints]
  split <;> rfl

@[simp]
theorem compact_packetNum
    (decoding : Decoding Packet Point) (frame : Frame Packet Point) :
    (frame.compact decoding).packetNum = frame.packetNum := by
  rw [compact]
  split <;> rfl

/-! ## One slot -/

/-- These are points of a packet, if the reads found what the settings were. -/
def Rendered
    (decoding : Decoding Packet Point) (settings : List Settings)
    (packet : Packet) (part : List Point) : Prop :=
  ∃ reads, (∀ read ∈ reads, read ∈ settings) ∧
    decoding.pointsOf reads packet = part

/-- The part of a slot holds the points of its packet. -/
def Computed
    (decoding : Decoding Packet Point) (settings : List Settings)
    (frame : Frame Packet Point) (packetIndex : ℕ) : Prop :=
  ∃ part, Rendered decoding settings (frame.rawData packetIndex) part ∧
    frame.validPoints packetIndex = part.length ∧
    Holds frame.points (packetIndex * decoding.perPointsNum) part

variable {decoding : Decoding Packet Point} {settings later : List Settings}
  {reads : List Settings} {frame : Frame Packet Point}
  {packetIndex other : ℕ}

theorem Rendered.length_le {packet : Packet} {part : List Point}
    (rendered : Rendered decoding settings packet part) :
    part.length ≤ decoding.perPointsNum := by
  rcases rendered with ⟨reads, -, rfl⟩
  exact decoding.fits reads packet

theorem Rendered.mono {packet : Packet} {part : List Point}
    (rendered : Rendered decoding settings packet part)
    (kept : settings ⊆ later) : Rendered decoding later packet part := by
  rcases rendered with ⟨reads, found, same⟩
  exact ⟨reads, fun read member => kept (found read member), same⟩

theorem Computed.mono
    (computed : frame.Computed decoding settings packetIndex)
    (kept : settings ⊆ later) :
    frame.Computed decoding later packetIndex := by
  rcases computed with ⟨part, rendered, written⟩
  exact ⟨part, rendered.mono kept, written⟩

@[simp]
theorem computeXYZI_packetNum :
    (frame.computeXYZI decoding reads packetIndex).packetNum =
      frame.packetNum := by
  rw [computeXYZI]
  split
  · rfl
  · split <;> rfl

@[simp]
theorem computeXYZI_pointsNum :
    (frame.computeXYZI decoding reads packetIndex).pointsNum =
      frame.pointsNum := by
  rw [computeXYZI]
  split
  · rfl
  · split <;> rfl

@[simp]
theorem computeXYZI_rawData :
    (frame.computeXYZI decoding reads packetIndex).rawData =
      frame.rawData := by
  rw [computeXYZI]
  split
  · rfl
  · split <;> rfl

theorem computed_computeXYZI (plain : decoding.remake = none)
    (found : ∀ read ∈ reads, read ∈ settings)
    (inside : packetIndex < decoding.maxPacketPerFrame) :
    (frame.computeXYZI decoding reads packetIndex).Computed decoding settings
      packetIndex := by
  rw [computeXYZI, if_neg (Nat.not_le_of_lt inside)]
  simp only [plain]
  exact ⟨_, ⟨reads, found, rfl⟩, Function.update_self .., holds_store⟩

/-- The parts of two slots have no address in common. -/
theorem parts_apart {left right : List Point}
    (leftFits : left.length ≤ decoding.perPointsNum)
    (rightFits : right.length ≤ decoding.perPointsNum)
    (different : other ≠ packetIndex) :
    other * decoding.perPointsNum + left.length ≤
        packetIndex * decoding.perPointsNum ∨
      packetIndex * decoding.perPointsNum + right.length ≤
        other * decoding.perPointsNum := by
  rcases Nat.lt_or_gt_of_ne different with before | after
  · have next := Nat.mul_le_mul_right decoding.perPointsNum before
    rw [Nat.succ_mul] at next
    exact .inl (by omega)
  · have next := Nat.mul_le_mul_right decoding.perPointsNum after
    rw [Nat.succ_mul] at next
    exact .inr (by omega)

theorem Computed.computeXYZI (plain : decoding.remake = none)
    (computed : frame.Computed decoding settings other)
    (different : other ≠ packetIndex) :
    (frame.computeXYZI decoding reads packetIndex).Computed decoding settings
      other := by
  rw [Frame.computeXYZI]
  split
  · exact computed
  · simp only [plain]
    rcases computed with ⟨part, rendered, valid, written⟩
    exact
      ⟨part, rendered, (Function.update_of_ne different _ _).trans valid,
        written.store
          (parts_apart rendered.length_le (decoding.fits _ _) different)⟩

theorem Computed.decodePacket
    (computed : frame.Computed decoding settings other)
    (packet : Packet) (outcome : Outcome)
    (different : other ≠ frame.packetNum) :
    (frame.decodePacket packet outcome).Computed decoding settings other := by
  cases outcome with
  | failed | skipped | split => exact computed
  | added =>
      rw [Computed] at computed ⊢
      simpa only [Frame.decodePacket, Function.update_of_ne different] using
        computed

/-! ## The frame -/

section Compaction

variable {perPointsNum packetNum : ℕ} {validPoints : ℕ → ℕ}
  {points : ℕ → Point} {part : ℕ → List Point}

/-- The points of the packets up to one, in order. -/
def partsBefore (part : ℕ → List Point) (packetIndex : ℕ) : List Point :=
  (List.range packetIndex).flatMap part

theorem partsBefore_succ :
    partsBefore part (packetIndex + 1) =
      partsBefore part packetIndex ++ part packetIndex := by
  simp [partsBefore, List.range_succ]

theorem length_partsBefore_le
    (room : ∀ i < packetIndex, (part i).length ≤ perPointsNum) :
    (partsBefore part packetIndex).length ≤ packetIndex * perPointsNum := by
  induction packetIndex with
  | zero => simp [partsBefore]
  | succ packetIndex induction =>
      have here := room packetIndex (Nat.lt_succ_self _)
      have before := induction fun i inside => room i (Nat.lt_succ_of_lt inside)
      rw [partsBefore_succ, List.length_append, Nat.succ_mul]
      omega

/-- After each round the points so far stand at the front. -/
theorem compactLoop_spec
    (room : ∀ i < packetNum, (part i).length ≤ perPointsNum)
    (valid : ∀ i < packetNum, validPoints i = (part i).length)
    (written : ∀ i < packetNum, Holds points (i * perPointsNum) (part i))
    {rounds : ℕ} (within : rounds ≤ packetNum) :
    (compactLoop perPointsNum validPoints points rounds).2 =
        (partsBefore part rounds).length ∧
      Holds (compactLoop perPointsNum validPoints points rounds).1 0
        (partsBefore part rounds) ∧
      ∀ i, rounds ≤ i → i < packetNum →
        Holds (compactLoop perPointsNum validPoints points rounds).1
          (i * perPointsNum) (part i) := by
  induction rounds with
  | zero => exact ⟨rfl, holds_nil, fun i _ inside => written i inside⟩
  | succ rounds induction =>
      rcases induction (by omega) with ⟨length, front, ahead⟩
      have here := ahead rounds (by omega) (by omega)
      have behind :
          (partsBefore part rounds).length ≤ rounds * perPointsNum :=
        length_partsBefore_le fun i inside => room i (by omega)
      have count := valid rounds (by omega)
      have fits := room rounds (by omega)
      rw [compactLoop, List.range_succ, List.foldl_append,
        List.foldl_cons, List.foldl_nil, ← compactLoop, compactStep,
        partsBefore_succ, List.length_append, length, count]
      refine ⟨rfl, ?_, fun i later inside => ?_⟩
      · split
        · refine (front.copy (.inl ?_)).append ?_
          · omega
          · rw [Nat.zero_add]
            exact here.copied
        · next same =>
          rw [ne_eq, not_not] at same
          refine front.append ?_
          rwa [Nat.zero_add, same]
      · have next := Nat.mul_le_mul_right perPointsNum later
        rw [Nat.succ_mul] at next
        split
        · exact (ahead i (by omega) inside).copy (.inr (by omega))
        · exact ahead i (by omega) inside

end Compaction

/-- The subscriber is given the points of all packets, in their order. -/
theorem cloud_compact (plain : decoding.remake = none)
    (fresh : frame.pointsNum = 0)
    (computed : ∀ i < frame.packetNum, frame.Computed decoding settings i) :
    ∃ parts,
      List.Forall₂ (Rendered decoding settings)
          ((List.range frame.packetNum).map frame.rawData) parts ∧
        (frame.compact decoding).cloud = parts.flatten ∧
          (frame.compact decoding).pointsNum = parts.flatten.length := by
  choose! part rendered valid written using computed
  have room : ∀ i < frame.packetNum,
      (part i).length ≤ decoding.perPointsNum :=
    fun i inside => (rendered i inside).length_le
  rcases compactLoop_spec room valid written le_rfl with ⟨length, front, _⟩
  refine ⟨(List.range frame.packetNum).map part, ?_, ?_, ?_⟩
  · rw [List.forall₂_map_left_iff, List.forall₂_map_right_iff,
      List.forall₂_same]
    exact fun i member => rendered i (List.mem_range.mp member)
  · simp only [compact, plain, Option.elim_none, if_pos fresh, cloud, length]
    rw [← List.flatMap_def]
    exact front.map_range
  · simp only [compact, plain, Option.elim_none, if_pos fresh, length]
    rw [← List.flatMap_def]
    rfl

end Frame

end Go2Navigation.Lidar
