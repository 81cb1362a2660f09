import Go2Navigation.Lidar.PcapSaver
import Go2Navigation.Lidar.PcapSource

/-!
# What has been recorded is played back

A file of `PcapSaver`, read by `PcapSource`.
-/

namespace Go2Navigation.Lidar

open Go2Navigation.Foundation PcapSaver

/-- The packet as `Receive` hands it on, and its port. -/
def PcapSaver.Recorded.played (recorded : Recorded) : ReceivedPacket × UInt16 :=
  (⟨recorded.packet.buffer.length, recorded.packet.buffer⟩,
    recorded.packet.port)

/-- The record fits into the buffers it is put together and read in. -/
def PcapSaver.Recorded.Fits (recorded : Recorded) : Prop :=
  recorded.packet.buffer.length + 42 ≤ kBufSize

/-! ## Headers -/

theorem exchanged_bytes (port : UInt16) :
    wordOfBytes16 (exchanged port.toNat >>> 8).toUInt8
        (exchanged port.toNat).toUInt8 = port := by
  have small := port.toNat_lt
  have value :
      (exchanged port.toNat).toNat =
        port.toNat % 256 * 256 + port.toNat / 256 := by
    have high : port.toNat >>> 8 < 2 ^ 8 := by
      rw [Nat.shiftRight_eq_div_pow]
      omega
    rw [exchanged, UInt16.toNat_ofNat', ← Nat.shiftLeft_add_eq_or_of_lt high,
      Nat.shiftLeft_eq, Nat.shiftRight_eq_div_pow,
      Nat.and_two_pow_sub_one_eq_mod port.toNat 8]
    omega
  have quotient :
      (port.toNat % 256 * 256 + port.toNat / 256) / 256 =
        port.toNat % 256 := by
    omega
  have low : (exchanged port.toNat >>> 8).toUInt8 = port.toUInt8 := by
    rw [← UInt8.toNat_inj]
    simp only [UInt16.toNat_toUInt8, UInt16.toNat_shiftRight,
      UInt16.toNat_ofNat, Nat.shiftRight_eq_div_pow, Nat.reducePow,
      Nat.reduceMod, value, quotient, Nat.mod_mod]
  have high : (exchanged port.toNat).toUInt8 = (port >>> 8).toUInt8 := by
    rw [← UInt8.toNat_inj]
    simp only [UInt16.toNat_toUInt8, UInt16.toNat_shiftRight,
      UInt16.toNat_ofNat, Nat.shiftRight_eq_div_pow, Nat.reducePow,
      Nat.reduceMod, value]
    omega
  rw [low, high, wordOfBytes16_littleEndian16]

theorem inclLen_header {recorded : Recorded} (fits : recorded.Fits) :
    PcapSource.inclLen false recorded.header =
      recorded.packet.buffer.length + 42 := by
  have small : recorded.packet.buffer.length + 42 ≤ 1500 := fits
  have read :
      PcapSource.inclLen false recorded.header =
        (UInt32.ofNat (recorded.packet.buffer.length + 42)).toNat := by
    rw [PcapSource.inclLen, PcapSource.convertEndian32,
      if_neg Bool.false_ne_true]
    exact congrArg UInt32.toNat (wordOfBytes_littleEndian _)
  rw [read, UInt32.toNat_ofNat']
  omega

/-- `payload_` with a packet behind its headers. -/
theorem dispatch_frame {packet : PandarPacket} {source : PcapSource}
    (holds : Holds source.payload 0 (dataWithFakeHeader packet)) :
    source.dispatch (packet.buffer.length + 42) =
      some (⟨packet.buffer.length, packet.buffer⟩,
        { source with
          pcapUdpHeader :=
            udp (UInt16.ofNat packet.buffer.length) packet.port }) := by
  have etherType : wordOfBytes16 (source.payload 12) (source.payload 13) =
      0x0008 := by
    rw [← Nat.zero_add 12, ← Nat.zero_add 13, holds 12 0x08 rfl,
      holds 13 0x00 rfl]
    rfl
  have protocol : source.payload 23 = 17 := by
    rw [← Nat.zero_add 23]
    exact holds 23 17 rfl
  rw [dataWithFakeHeader] at holds
  have data := holds.append_right.load
  rw [pcapUDPHeader, List.append_assoc] at holds
  have header := holds.append_right.append_left.load
  rw [PcapSource.dispatch]
  dsimp only
  rw [if_pos etherType, protocol, PcapSource.transport, if_pos rfl,
    PcapSource.udp, if_neg (by omega), Nat.add_sub_cancel]
  rw [length_pcapUDPHeader, Nat.zero_add] at data
  have headerSize :
      (udp (UInt16.ofNat packet.buffer.length) packet.port).length = 8 :=
    rfl
  rw [length_pcapIPHeader, Nat.zero_add, headerSize] at header
  rw [data, header]

theorem distinationPort_udp (pktLen port : UInt16) (source : PcapSource) :
    { source with pcapUdpHeader := udp pktLen port }.distinationPort =
      port :=
  exchanged_bytes port

/-! ## One record -/

/-- An open file of native byte order, at a position, with no TCP data. -/
structure PcapSource.Playing
    (source : PcapSource) (isLoop : Bool) (bytes : List UInt8)
    (position : ℕ) : Prop where
  p : source.p.At bytes position
  loops : source.isLoop = isLoop
  beginPos : source.beginPos = 24
  native : source.swapped = false
  dataIndex : source.dataIndex = 0
  dataLength : source.dataLength = 0
  goesOn : source.isPcapEnd = false

namespace PcapSource.Playing

variable {source : PcapSource} {isLoop : Bool} {bytes rest : List UInt8}
  {position : ℕ} {recorded : Recorded}

theorem receive_eq (playing : source.Playing isLoop bytes position) :
    source.receive = source.next := by
  have quiet : source.makeRoom = source := by
    rw [PcapSource.makeRoom, playing.dataLength, if_neg (by decide)]
  rw [PcapSource.receive, playing.dataIndex, playing.dataLength,
    if_neg (by omega), quiet]

theorem next_eq (playing : source.Playing isLoop bytes position)
    (inside : position < bytes.length) :
    source.next = source.nextRecord := by
  rw [PcapSource.next, if_neg]
  rw [playing.p.eof_iff]
  omega

/-- A record that is there in full. -/
theorem nextRecord_whole (playing : source.Playing isLoop bytes position)
    (fits : recorded.Fits)
    (here : bytes.drop position = recorded.record ++ rest) :
    ∃ later,
      source.nextRecord = some (recorded.played.1, later) ∧
        later.distinationPort = recorded.played.2 ∧
        later.Playing isLoop bytes (position + recorded.record.length) := by
  have small : recorded.packet.buffer.length + 42 ≤ 1500 := fits
  have room := congrArg List.length here
  rw [List.length_drop, List.length_append, recorded.length_record] at room
  rcases
      playing.p.readValue (by decide : 0 < 16) (by decide)
        (by omega : position + 16 ≤ bytes.length) with
    ⟨headerRead, atData⟩
  rw [Recorded.record, List.append_assoc] at here
  have header : slice bytes position 16 = recorded.header := by
    rw [slice, here]
    exact List.take_left' recorded.length_header
  have data :
      slice bytes (position + 16) (recorded.packet.buffer.length + 42) =
        dataWithFakeHeader recorded.packet :=
    slice_of_drop here recorded.length_header
      (length_dataWithFakeHeader recorded.packet)
  rcases
      @Private.At.readInto _ _ _ (recorded.packet.buffer.length + 42) atData
        (by omega) with
    ⟨file, dataRead, reached⟩
  have length : inclLen source.swapped recorded.header =
      recorded.packet.buffer.length + 42 := by
    rw [playing.native, inclLen_header fits]
  have frame :=
    @dispatch_frame recorded.packet
      { source with
        p := file
        payload :=
          store source.payload 0 (dataWithFakeHeader recorded.packet) }
      (@holds_store _ source.payload 0 _)
  rw [header] at headerRead
  rw [data] at dataRead
  rw [PcapSource.nextRecord, headerRead]
  dsimp only
  rw [length, PcapSource.nextPayload,
    if_pos ⟨small, (by omega : 14 < recorded.packet.buffer.length + 42)⟩,
    dataRead]
  refine ⟨_, frame, distinationPort_udp _ _ _, ?_⟩
  have total :
      16 + (recorded.packet.buffer.length + 42) =
        recorded.record.length := by
    rw [recorded.length_record]
    omega
  rw [Nat.add_assoc, total] at reached
  exact
    ⟨reached, playing.loops, playing.beginPos, playing.native,
      playing.dataIndex, playing.dataLength, playing.goesOn⟩

theorem receive_record (playing : source.Playing isLoop bytes position)
    (fits : recorded.Fits)
    (here : bytes.drop position = recorded.record ++ rest) :
    ∃ later,
      source.receive = some (recorded.played.1, later) ∧
        later.distinationPort = recorded.played.2 ∧
        later.Playing isLoop bytes (position + recorded.record.length) := by
  have room := congrArg List.length here
  rw [List.length_drop, List.length_append, recorded.length_record] at room
  rw [playing.receive_eq, playing.next_eq (by omega)]
  exact playing.nextRecord_whole fits here

theorem receives_records (playing : source.Playing isLoop bytes position)
    {records : List Recorded} (fits : ∀ recorded ∈ records, recorded.Fits)
    (here :
      bytes.drop position = records.flatMap Recorded.record ++ rest) :
    ∃ later,
      source.receives records.length =
          some (records.map Recorded.played, later) ∧
        later.Playing isLoop bytes
          (position + (records.flatMap Recorded.record).length) := by
  induction records generalizing source position with
  | nil => exact ⟨source, rfl, playing⟩
  | cons recorded records induction =>
      rw [List.forall_mem_cons] at fits
      rw [List.flatMap_cons, List.append_assoc] at here
      rcases playing.receive_record fits.1 here with
        ⟨between, received, port, playingBetween⟩
      have behind :
          bytes.drop (position + recorded.record.length) =
            records.flatMap Recorded.record ++ rest := by
        rw [← List.drop_drop, here, List.drop_left]
      rcases induction playingBetween fits.2 behind with
        ⟨later, receivedRest, playingLater⟩
      refine ⟨later, ?_, ?_⟩
      · rw [List.length_cons, PcapSource.receives, received,
          Option.bind_some, receivedRest, Option.map_some, port,
          List.map_cons]
      · rw [List.flatMap_cons, List.length_append, ← Nat.add_assoc]
        exact playingLater

end PcapSource.Playing

/-! ## A file -/

theorem length_pcapHeader : pcapHeader.length = 24 :=
  rfl

theorem openFile_playing
    (isLoop : Bool) (memory : PcapSource) (rest : List UInt8) :
    ((PcapSource.construct isLoop memory).openFile
          (pcapHeader ++ rest)).1 = true ∧
      ((PcapSource.construct isLoop memory).openFile
          (pcapHeader ++ rest)).2.Playing isLoop (pcapHeader ++ rest) 24 := by
  rcases
      (Private.opened_at (pcapHeader ++ rest)).readValue
        (by decide : 0 < 24) (by decide)
        (by rw [List.length_append, length_pcapHeader]; omega) with
    ⟨read, reached⟩
  have header : slice (pcapHeader ++ rest) 0 24 = pcapHeader :=
    List.take_left' length_pcapHeader
  have magicNumber : PcapSource.firstWord pcapHeader = some 0xa1b2c3d4 :=
    congrArg some (wordOfBytes_littleEndian 0xa1b2c3d4)
  rw [header] at read
  rw [PcapSource.openFile, read, Option.bind_some, magicNumber,
    Option.getD_some]
  exact ⟨rfl, reached, rfl, reached.fpos, rfl, rfl, rfl, rfl⟩

/-- The file, opened by a new source. -/
def openedFile (isLoop : Bool) (memory : PcapSource) (file : List UInt8) :
    Bool × PcapSource :=
  (PcapSource.construct isLoop memory).openFile file

/-- A source without memory of its own. -/
def sampleMemory : PcapSource :=
  ⟨⟨[], 0, 0, 0, false⟩, false, 0, 0, false, fun _ => 0, [], [],
    fun _ => 0, 0, 0, false⟩

def sampleSteps : List DumpingStep :=
  [.dump ⟨⟨2368, [0xEE, 0xFF, 1]⟩, 10, 0⟩, .flush,
    .dump ⟨⟨2368, [0xEE, 0xFF, 2]⟩, 11, 0⟩]

theorem sampleSteps_fit :
    ∀ recorded ∈ recordedBy sampleSteps, recorded.Fits := by
  simp [sampleSteps, recordedBy, Recorded.Fits, kBufSize]

namespace PcapSource

theorem receives_succ_congr {source other : PcapSource}
    (same : source.receive = other.receive) (count : ℕ) :
    source.receives (count + 1) = other.receives (count + 1) := by
  rw [receives, same, receives]

variable {source : PcapSource} {bytes : List UInt8} {position : ℕ}
  {records : List Recorded}

/-- At its end the file begins again. -/
theorem Playing.rewound (playing : source.Playing true bytes bytes.length)
    (some : 24 < bytes.length) :
    ∃ other : PcapSource,
      other.Playing true bytes 24 ∧ source.receive = other.receive := by
  have sought : (source.p.setFpos source.beginPos).At bytes 24 := by
    rw [playing.beginPos]
    exact playing.p.setFpos (by omega)
  have start :
      { source with p := source.p.setFpos source.beginPos }.Playing true
        bytes 24 :=
    ⟨sought, playing.loops, playing.beginPos, playing.native,
      playing.dataIndex, playing.dataLength, playing.goesOn⟩
  have eof : source.p.eof = true := playing.p.eof_iff.mpr (Nat.le_refl _)
  refine ⟨_, start, ?_⟩
  rw [playing.receive_eq, start.receive_eq, start.next_eq some,
    PcapSource.next, if_pos eof, if_pos playing.loops]

/-- Once through the file, from its start or from its end. -/
theorem Playing.receives_round (playing : source.Playing true bytes position)
    (fits : ∀ recorded ∈ records, recorded.Fits) (some : records ≠ [])
    (all : bytes.drop 24 = records.flatMap Recorded.record)
    (starts : position = 24 ∨ position = bytes.length) :
    ∃ later,
      source.receives records.length =
          .some (records.map Recorded.played, later) ∧
        later.Playing true bytes bytes.length := by
  rcases records with _ | ⟨first, rest⟩
  · exact (some rfl).elim
  · have room := congrArg List.length all
    rw [List.length_drop, List.flatMap_cons, List.length_append,
      first.length_record] at room
    have fromStart :
        ∃ other : PcapSource,
          other.Playing true bytes 24 ∧ source.receive = other.receive := by
      rcases starts with rfl | rfl
      · exact ⟨source, playing, rfl⟩
      · exact playing.rewound (by omega)
    rcases fromStart with ⟨other, playingOther, same⟩
    rcases
        @Playing.receives_records _ _ _ [] _ playingOther _ fits
          (by rw [all, List.append_nil]) with
      ⟨later, received, reached⟩
    have ends :
        24 + ((first :: rest).flatMap Recorded.record).length =
          bytes.length := by
      rw [← all, List.length_drop]
      omega
    rw [ends] at reached
    rw [List.length_cons] at received ⊢
    rw [receives_succ_congr same]
    exact ⟨later, received, reached⟩

theorem Playing.receives_rounds
    (playing : source.Playing true bytes position)
    (fits : ∀ recorded ∈ records, recorded.Fits) (some : records ≠ [])
    (all : bytes.drop 24 = records.flatMap Recorded.record)
    (starts : position = 24 ∨ position = bytes.length) (rounds : ℕ) :
    ∃ later,
      source.receives (rounds * records.length) =
        .some
          ((List.replicate rounds (records.map Recorded.played)).flatten,
            later) := by
  induction rounds generalizing source position with
  | zero => exact ⟨source, by rw [Nat.zero_mul]; rfl⟩
  | succ rounds induction =>
      rcases playing.receives_round fits some all starts with
        ⟨between, received, playingBetween⟩
      rcases induction playingBetween (.inr rfl) with ⟨later, others⟩
      refine ⟨later, ?_⟩
      rw [Nat.succ_mul, Nat.add_comm, receives_add, received,
        Option.bind_some, others, Option.map_some, List.replicate_succ,
        List.flatten_cons]

end PcapSource

/-- A file that is played in a loop is played again and again. -/
theorem replay_loop
    (memory : PcapSource) (steps : List DumpingStep)
    (fits : ∀ recorded ∈ recordedBy steps, recorded.Fits)
    (some : recordedBy steps ≠ []) (rounds : ℕ) :
    ∃ last,
      (openedFile true memory (savedFile steps)).2.receives
          (rounds * (recordedBy steps).length) =
        .some
          ((List.replicate rounds
            ((recordedBy steps).map Recorded.played)).flatten, last) := by
  rw [savedFile_eq]
  exact
    (openFile_playing true memory _).2.receives_rounds fits some
      (List.drop_left' length_pcapHeader) (.inl rfl) rounds

theorem replay_loop_twice :
    ∃ last,
      (openedFile true sampleMemory (savedFile sampleSteps)).2.receives
          (2 * (recordedBy sampleSteps).length) =
        some
          ((List.replicate 2
            ((recordedBy sampleSteps).map Recorded.played)).flatten, last) :=
  replay_loop sampleMemory sampleSteps sampleSteps_fit
    (List.cons_ne_nil _ _) 2

end Go2Navigation.Lidar
