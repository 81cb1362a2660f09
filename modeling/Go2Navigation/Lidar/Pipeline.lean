import Go2Navigation.Foundation.Steps
import Go2Navigation.Lidar.MultiSend
import Go2Navigation.Lidar.Workers

/-!
# The point cloud pipeline

The thread of `Run` decodes the packets, fills the frame and hands the index
of each packet over to the worker threads.  When a frame is complete it waits
until as many packets are computed as it has handed over, publishes the frame
and starts the next one with the packet that ended it.  A frame that grows too
long is given up and the buffers are cleared.

Two things are shared without a lock.  A computation reads settings which the
decoding of later packets changes, so its step carries what it has read.  The
queues of the handler threads are cleared without their mutexes, so there is a
step for a clear that overlaps another access to its queue.
-/

namespace Go2Navigation.Lidar

open Go2Navigation.Foundation

/-- Where the thread of `Run` is, with the packet it is working on. -/
inductive RunPoint (Packet : Type) where
  /-- At the top of the loop. -/
  | receiving
  /-- In `push_back`, for a packet of the frame or the first of a new one. -/
  | handing (packet : Packet) (first : Bool)
  /-- In the loop on `ComputeXYZIComplete`. -/
  | polling (packet : Packet) (isTimeout : Bool)
  /-- In `ComputeXYZIComplete`, before `SetComputePacketNumToZero`. -/
  | complete (packet : Packet) (isTimeout : Bool)
  | publishing (packet : Packet) (isTimeout : Bool)
  /-- Before the packet that ended a frame is decoded again. -/
  | restarting (packet : Packet)
  /-- In `ClearPacketBuffer`, with so many queues cleared. -/
  | clearing (cleared : ℕ)
  /-- In `sleep_for`. -/
  | sleeping
  /-- Before the `SetComputePacketNumToZero` of a frame given up. -/
  | zeroing
deriving DecidableEq

/-- A packet from `GetOnePacket`, and what `DecodePacket` makes of it. -/
structure Received (Packet : Type) where
  packet : Packet
  outcome : Outcome
  isTimeout : Bool
  /-- What the settings become, one write after the other. -/
  settings : List Settings

inductive PipelineLabel (Packet : Type) where
  | receive (received : Received Packet)
  | handOver
  | poll
  | setComputePacketNumToZero
  | publish
  | decodeAgain (outcome : Outcome) (settings : List Settings)
  | clearPacketBuffer
  /-- A queue is cleared while another thread uses it. -/
  | clearOverlapped (workers : Workers)
  | update
  | giveUp
  /-- A worker thread, with what its computation has read. -/
  | worker (label : WorkerLabel) (reads : List Settings)

structure Pipeline (Packet Point : Type) where
  run : RunPoint Packet
  packetIndex : ℕ
  udpPacketFrame : List Packet
  frame : Frame Packet Point
  /-- What a computation that is under way may read of the settings. -/
  settings : List Settings
  multi : MultiFrame Point
  workers : Workers
  computePacketNum : ℕ

namespace Pipeline

variable {Packet Point : Type}

/-- As `Run` begins, whatever the memory of the frame holds. -/
def start
    (handleThreadCount : ℕ) (frame : Frame Packet Point)
    (multiPoints : ℕ → Point) : Pipeline Packet Point where
  run := .receiving
  packetIndex := 0
  udpPacketFrame := []
  frame := frame.update
  settings := [.initial]
  multi := ⟨0, multiPoints, 0, 0⟩
  workers := Workers.start handleThreadCount
  computePacketNum := 0

/-- The end of the loop: a frame that is too long is given up. -/
def checkOverflow
    (decoding : Decoding Packet Point) (pipeline : Pipeline Packet Point) :
    Pipeline Packet Point :=
  if decoding.maxPacketPerFrame ≤ pipeline.packetIndex then
    { pipeline with
      run := .clearing 0
      packetIndex := 0
      udpPacketFrame := [] }
  else { pipeline with run := .receiving }

/--
`DecodePacket` changes the settings.  Where a frame begins with no computation
under way, all that can be read of them later is what they are at its end.
-/
def settle (settings : List Settings) (pipeline : Pipeline Packet Point) :
    Pipeline Packet Point :=
  { pipeline with
    settings :=
      if pipeline.packetIndex = 0 ∧ pipeline.workers.inFlight = [] then
        latest (pipeline.settings ++ settings)
      else pipeline.settings ++ settings }

/-- From `GetOnePacket` to the branch that is taken. -/
def receive
    (decoding : Decoding Packet Point) (received : Received Packet)
    (pipeline : Pipeline Packet Point) : Pipeline Packet Point :=
  match received.outcome with
  | .failed => pipeline
  | .split =>
      { pipeline with run := .polling received.packet received.isTimeout }
  | .skipped | .added =>
      let frame :=
        pipeline.frame.decodePacket received.packet received.outcome
      if frame.packetNum ≠ pipeline.packetIndex then
        { pipeline with
          run := .handing received.packet false
          frame := frame }
      else { pipeline with frame := frame }.checkOverflow decoding

/-- `push_back`, and the packet kept for the callbacks. -/
def extend
    (packet : Packet) (pipeline : Pipeline Packet Point) :
    Pipeline Packet Point :=
  { pipeline with
    workers := pipeline.workers.push pipeline.packetIndex
    udpPacketFrame := pipeline.udpPacketFrame ++ [packet]
    packetIndex := pipeline.packetIndex + 1 }

def handOver
    (decoding : Decoding Packet Point) (packet : Packet) (first : Bool)
    (pipeline : Pipeline Packet Point) : Pipeline Packet Point :=
  if first then { pipeline.extend packet with run := .receiving }
  else (pipeline.extend packet).checkOverflow decoding

/-- `MultiSend` and `pkt_cb_`, for a frame that has enough points. -/
def send
    (decoding : Decoding Packet Point) (frame : Frame Packet Point)
    (pipeline : Pipeline Packet Point) :
    MultiFrame Point × List (Callback Packet Point) :=
  if kMinPointsOfOneFrame < frame.pointsNum then
    let sent := pipeline.multi.multiSend decoding.multiRate frame
    (sent.1, sent.2 ++ [.packets pipeline.udpPacketFrame])
  else (pipeline.multi, [])

/-- From the complete points to the next frame. -/
def publish
    (decoding : Decoding Packet Point) (packet : Packet) (isTimeout : Bool)
    (pipeline : Pipeline Packet Point) : Pipeline Packet Point :=
  let frame := pipeline.frame.compact decoding
  { pipeline with
    run := if isTimeout then .receiving else .restarting packet
    frame := frame.update.clearPoints decoding
    multi := (pipeline.send decoding frame).1
    packetIndex := 0
    udpPacketFrame := [] }

/-- The packet that ended a frame is the first of the next one. -/
def decodeAgain
    (packet : Packet) (outcome : Outcome)
    (pipeline : Pipeline Packet Point) : Pipeline Packet Point :=
  { pipeline with
    run := .handing packet true
    frame := pipeline.frame.decodePacket packet outcome }

/-- A step of a worker thread, counted if it ends a computation. -/
def work
    (decoding : Decoding Packet Point) (reads : List Settings)
    (pipeline : Pipeline Packet Point) (workers : Workers) :
    Option ℕ → Pipeline Packet Point
  | none => { pipeline with workers := workers }
  | some packetIndex =>
      { pipeline with
        workers := workers
        frame := pipeline.frame.computeXYZI decoding reads packetIndex
        computePacketNum := pipeline.computePacketNum + 1 }

/-- The loop of `ClearPacketBuffer`. -/
def clearingAfter (handleThreadCount cleared : ℕ) : RunPoint Packet :=
  if cleared < Workers.queueCount handleThreadCount then
    .clearing (cleared + 1)
  else .sleeping

def step
    (decoding : Decoding Packet Point) (handleThreadCount : ℕ)
    (pipeline : Pipeline Packet Point) :
    PipelineLabel Packet → Option (Pipeline Packet Point)
  | .receive received =>
      match pipeline.run with
      | .receiving =>
          some ((pipeline.settle received.settings).receive decoding received)
      | _ => none
  | .handOver =>
      match pipeline.run with
      | .handing packet first =>
          if pipeline.workers.decodedPacketsBuffer.length <
              kPacketBufferSize then
            some (pipeline.handOver decoding packet first)
          else none
      | _ => none
  | .poll =>
      match pipeline.run with
      | .polling packet isTimeout =>
          if pipeline.computePacketNum = pipeline.packetIndex then
            some { pipeline with run := .complete packet isTimeout }
          else some pipeline
      | _ => none
  | .setComputePacketNumToZero =>
      match pipeline.run with
      | .complete packet isTimeout =>
          some
            { pipeline with
              run := .publishing packet isTimeout
              computePacketNum := 0 }
      | _ => none
  | .publish =>
      match pipeline.run with
      | .publishing packet isTimeout =>
          some (pipeline.publish decoding packet isTimeout)
      | _ => none
  | .decodeAgain outcome settings =>
      match pipeline.run with
      | .restarting packet =>
          some ((pipeline.settle settings).decodeAgain packet outcome)
      | _ => none
  | .clearPacketBuffer =>
      match pipeline.run with
      | .clearing cleared =>
          some
            { pipeline with
              run := clearingAfter handleThreadCount cleared
              workers := pipeline.workers.clearNext cleared }
      | _ => none
  | .clearOverlapped workers =>
      match pipeline.run with
      | .clearing (i + 1) =>
          some
            { pipeline with
              run := clearingAfter handleThreadCount (i + 1)
              -- nothing is known of queues used by two threads at once
              workers := workers }
      | _ => none
  | .update =>
      match pipeline.run with
      | .sleeping =>
          some
            { pipeline with
              run := .zeroing
              frame := pipeline.frame.update }
      | _ => none
  | .giveUp =>
      match pipeline.run with
      | .zeroing =>
          some { pipeline with run := .receiving, computePacketNum := 0 }
      | _ => none
  | .worker label reads =>
      if ∀ read ∈ reads, read ∈ pipeline.settings then
        (pipeline.workers.step handleThreadCount label).map fun worked =>
          pipeline.work decoding reads worked.1 worked.2
      else none

/-- The interleavings of `Run` and the worker threads. -/
def system (decoding : Decoding Packet Point) (handleThreadCount : ℕ) :
    StepSystem (Pipeline Packet Point) (PipelineLabel Packet) where
  step := step decoding handleThreadCount

/-- What a step hands to the callbacks. -/
def observe
    (decoding : Decoding Packet Point) (pipeline : Pipeline Packet Point) :
    PipelineLabel Packet → List (Callback Packet Point)
  | .publish =>
      (pipeline.send decoding (pipeline.frame.compact decoding)).2
  | _ => []

/--
The slot a step may write: that of a packet that is kept, or of one that is
refused for its size only after its time was written.
-/
def writes (pipeline : Pipeline Packet Point) :
    PipelineLabel Packet → Option ℕ
  | .receive received =>
      match received.outcome with
      | .failed | .added => some pipeline.frame.packetNum
      | .skipped | .split => none
  | .decodeAgain outcome _ =>
      match outcome with
      | .failed | .added => some pipeline.frame.packetNum
      | .skipped | .split => none
  | _ => none

/--
The packet that ended a frame is kept when it is decoded again, no queue is
cleared while another thread uses it, and a frame is given up with no packet
in flight.
-/
def Regular (pipeline : Pipeline Packet Point) :
    PipelineLabel Packet → Prop
  | .decodeAgain outcome _ => outcome = .added
  | .clearOverlapped _ => False
  | .giveUp => pipeline.workers.inFlight = []
  | _ => True

/-! ## Steps -/

/-- What a step of each kind does. -/
inductive Moves
    (decoding : Decoding Packet Point) (handleThreadCount : ℕ)
    (pipeline : Pipeline Packet Point) :
    PipelineLabel Packet → Pipeline Packet Point → Prop
  | receive (received : Received Packet)
      (here : pipeline.run = .receiving) :
      Moves decoding handleThreadCount pipeline (.receive received)
        ((pipeline.settle received.settings).receive decoding received)
  | handOver {packet : Packet} {first : Bool}
      (here : pipeline.run = .handing packet first)
      (free :
        pipeline.workers.decodedPacketsBuffer.length < kPacketBufferSize) :
      Moves decoding handleThreadCount pipeline .handOver
        (pipeline.handOver decoding packet first)
  | pollAgain {packet : Packet} {isTimeout : Bool}
      (here : pipeline.run = .polling packet isTimeout)
      (short : pipeline.computePacketNum ≠ pipeline.packetIndex) :
      Moves decoding handleThreadCount pipeline .poll pipeline
  | pollComplete {packet : Packet} {isTimeout : Bool}
      (here : pipeline.run = .polling packet isTimeout)
      (all : pipeline.computePacketNum = pipeline.packetIndex) :
      Moves decoding handleThreadCount pipeline .poll
        { pipeline with run := .complete packet isTimeout }
  | setComputePacketNumToZero {packet : Packet} {isTimeout : Bool}
      (here : pipeline.run = .complete packet isTimeout) :
      Moves decoding handleThreadCount pipeline .setComputePacketNumToZero
        { pipeline with
          run := .publishing packet isTimeout
          computePacketNum := 0 }
  | publish {packet : Packet} {isTimeout : Bool}
      (here : pipeline.run = .publishing packet isTimeout) :
      Moves decoding handleThreadCount pipeline .publish
        (pipeline.publish decoding packet isTimeout)
  | decodeAgain {packet : Packet} (outcome : Outcome)
      (settings : List Settings)
      (here : pipeline.run = .restarting packet) :
      Moves decoding handleThreadCount pipeline
        (.decodeAgain outcome settings)
        ((pipeline.settle settings).decodeAgain packet outcome)
  | clearPacketBuffer {cleared : ℕ}
      (here : pipeline.run = .clearing cleared) :
      Moves decoding handleThreadCount pipeline .clearPacketBuffer
        { pipeline with
          run := clearingAfter handleThreadCount cleared
          workers := pipeline.workers.clearNext cleared }
  | clearOverlapped {i : ℕ} (workers : Workers)
      (here : pipeline.run = .clearing (i + 1)) :
      Moves decoding handleThreadCount pipeline (.clearOverlapped workers)
        { pipeline with
          run := clearingAfter handleThreadCount (i + 1)
          workers := workers }
  | update (here : pipeline.run = .sleeping) :
      Moves decoding handleThreadCount pipeline .update
        { pipeline with run := .zeroing, frame := pipeline.frame.update }
  | giveUp (here : pipeline.run = .zeroing) :
      Moves decoding handleThreadCount pipeline .giveUp
        { pipeline with run := .receiving, computePacketNum := 0 }
  | worker {label : WorkerLabel} {reads : List Settings} {workers : Workers}
      {finished : Option ℕ}
      (found : ∀ read ∈ reads, read ∈ pipeline.settings)
      (advance :
        pipeline.workers.Advance handleThreadCount label workers finished) :
      Moves decoding handleThreadCount pipeline (.worker label reads)
        (pipeline.work decoding reads workers finished)

variable {decoding : Decoding Packet Point} {handleThreadCount : ℕ}
  {pipeline next : Pipeline Packet Point} {label : PipelineLabel Packet}

theorem step_moves
    (stepped : (system decoding handleThreadCount).step pipeline label =
      some next) :
    pipeline.Moves decoding handleThreadCount label next := by
  cases label with
  | worker label reads =>
      simp only [system, step] at stepped
      split at stepped
      · next found =>
        rcases Option.map_eq_some_iff.mp stepped with ⟨worked, advanced, rfl⟩
        exact .worker found (Workers.step_cases advanced)
      · cases stepped
  | receive | setComputePacketNumToZero | publish | decodeAgain
  | clearPacketBuffer | clearOverlapped | update | giveUp =>
      simp only [system, step] at stepped
      split at stepped
      · next here =>
        cases stepped
        constructor
        exact here
      · cases stepped
  | handOver =>
      simp only [system, step] at stepped
      split at stepped
      · next here =>
        split at stepped
        · next free =>
          cases stepped
          exact .handOver here free
        · cases stepped
      · cases stepped
  | poll =>
      simp only [system, step] at stepped
      split at stepped
      · next here =>
        split at stepped
        · next all =>
          cases stepped
          exact .pollComplete here all
        · next short =>
          cases stepped
          exact .pollAgain here short
      · cases stepped

/-! ## The frame being filled -/

/-- Every packet handed over is in flight once or has been counted once. -/
def Exact (pipeline : Pipeline Packet Point) : Prop :=
  Tally.Exact
    ⟨pipeline.packetIndex, pipeline.workers.inFlight,
      pipeline.computePacketNum⟩

/-- The slots hold the packets of the frame; those not in flight are done. -/
structure Stored
    (decoding : Decoding Packet Point) (pipeline : Pipeline Packet Point) :
    Prop where
  packets :
    pipeline.udpPacketFrame =
      (List.range pipeline.packetIndex).map pipeline.frame.rawData
  computed :
    decoding.remake = none →
      ∀ i < pipeline.packetIndex, i ∉ pipeline.workers.inFlight →
        pipeline.frame.Computed decoding pipeline.settings i
  room : pipeline.packetIndex < decoding.maxPacketPerFrame
  fresh : pipeline.frame.pointsNum = 0

/-- No frame is being filled, and the next starts from nothing. -/
structure Empty (pipeline : Pipeline Packet Point) : Prop where
  packetIndex : pipeline.packetIndex = 0
  packets : pipeline.udpPacketFrame = []
  packetNum : pipeline.frame.packetNum = 0
  fresh : pipeline.frame.pointsNum = 0

/-- What holds at each point of `Run`. -/
def InvariantAt
    (decoding : Decoding Packet Point) (pipeline : Pipeline Packet Point) :
    RunPoint Packet → Prop
  | .receiving | .polling _ _ =>
      pipeline.Exact ∧ pipeline.Stored decoding ∧
        pipeline.frame.packetNum = pipeline.packetIndex
  | .handing packet first =>
      pipeline.Exact ∧ pipeline.Stored decoding ∧
        pipeline.frame.packetNum = pipeline.packetIndex + 1 ∧
        pipeline.frame.rawData pipeline.packetIndex = packet ∧
        (first → pipeline.packetIndex = 0)
  | .complete _ _ =>
      pipeline.workers.inFlight = [] ∧ pipeline.Stored decoding ∧
        pipeline.frame.packetNum = pipeline.packetIndex
  | .publishing _ _ =>
      pipeline.workers.inFlight = [] ∧ pipeline.Stored decoding ∧
        pipeline.frame.packetNum = pipeline.packetIndex ∧
        pipeline.computePacketNum = 0
  | .restarting _ =>
      pipeline.workers.inFlight = [] ∧ pipeline.Empty ∧
        pipeline.computePacketNum = 0
  | .clearing _ | .sleeping =>
      pipeline.packetIndex = 0 ∧ pipeline.udpPacketFrame = []
  | .zeroing => pipeline.Empty

/-- Nothing is in flight twice, and no queue can get too long. -/
structure Invariant
    (decoding : Decoding Packet Point) (handleThreadCount : ℕ)
    (pipeline : Pipeline Packet Point) : Prop where
  fits : pipeline.workers.Fits handleThreadCount
  nodup : pipeline.workers.inFlight.Nodup
  queues : pipeline.workers.inFlight.length ≤ kPacketBufferSize
  here : pipeline.InvariantAt decoding pipeline.run

theorem Empty.stored (empty : pipeline.Empty) :
    pipeline.Stored decoding where
  packets := by rw [empty.packets, empty.packetIndex, List.range_zero,
    List.map_nil]
  computed _ i inside := by
    rw [empty.packetIndex] at inside
    exact absurd inside (Nat.not_lt_zero i)
  room := by
    rw [empty.packetIndex]
    exact Nat.zero_lt_of_lt decoding.several
  fresh := empty.fresh

theorem Empty.exact (empty : pipeline.Empty)
    (idle : pipeline.workers.inFlight = [])
    (counted : pipeline.computePacketNum = 0) : pipeline.Exact := by
  rw [Exact, empty.packetIndex, idle, counted]
  exact Tally.exact_empty

theorem Exact.not_mem (exactly : pipeline.Exact) :
    pipeline.packetIndex ∉ pipeline.workers.inFlight := fun member =>
  Nat.lt_irrefl _ (Tally.Exact.inside exactly _ member)

/-! ### The worker threads -/

section Work

variable {workers : Workers} {finished : Option ℕ} {task : WorkerLabel}
  {reads : List Settings}

@[simp]
theorem work_run :
    (pipeline.work decoding reads workers finished).run = pipeline.run := by
  cases finished <;> rfl

@[simp]
theorem work_packetIndex :
    (pipeline.work decoding reads workers finished).packetIndex =
      pipeline.packetIndex := by
  cases finished <;> rfl

@[simp]
theorem work_udpPacketFrame :
    (pipeline.work decoding reads workers finished).udpPacketFrame =
      pipeline.udpPacketFrame := by
  cases finished <;> rfl

@[simp]
theorem work_workers :
    (pipeline.work decoding reads workers finished).workers = workers := by
  cases finished <;> rfl

@[simp]
theorem work_settings :
    (pipeline.work decoding reads workers finished).settings =
      pipeline.settings := by
  cases finished <;> rfl

@[simp]
theorem work_multi :
    (pipeline.work decoding reads workers finished).multi =
      pipeline.multi := by
  cases finished <;> rfl

@[simp]
theorem work_packetNum :
    (pipeline.work decoding reads workers finished).frame.packetNum =
      pipeline.frame.packetNum := by
  cases finished <;> simp [work]

@[simp]
theorem work_pointsNum :
    (pipeline.work decoding reads workers finished).frame.pointsNum =
      pipeline.frame.pointsNum := by
  cases finished <;> simp [work]

@[simp]
theorem work_rawData :
    (pipeline.work decoding reads workers finished).frame.rawData =
      pipeline.frame.rawData := by
  cases finished <;> simp [work]

theorem Exact.work (exactly : pipeline.Exact)
    (same :
      pipeline.workers.inFlight.Perm (finished.toList ++ workers.inFlight)) :
    (pipeline.work decoding reads workers finished).Exact := by
  have moved := Tally.Exact.move exactly same
  cases finished with
  | none => exact moved
  | some index => exact moved.finish

theorem Stored.work (stored : pipeline.Stored decoding)
    (found : ∀ read ∈ reads, read ∈ pipeline.settings)
    (same :
      pipeline.workers.inFlight.Perm (finished.toList ++ workers.inFlight)) :
    (pipeline.work decoding reads workers finished).Stored decoding where
  packets := by simpa using stored.packets
  computed plain i inside left := by
    rw [work_packetIndex] at inside
    rw [work_workers] at left
    rw [work_settings]
    cases finished with
    | none =>
        exact
          stored.computed plain i inside
            fun member => left (same.subset member)
    | some index =>
        by_cases here : i = index
        · rw [here]
          exact
            Frame.computed_computeXYZI plain found
              ((here ▸ inside).trans stored.room)
        · refine
            Frame.Computed.computeXYZI plain
              (stored.computed plain i inside fun member => ?_) here
          rcases List.mem_cons.mp (same.subset member) with equal | later
          · exact here equal
          · exact left later
  room := by simpa using stored.room
  fresh := by simpa using stored.fresh

/-- Nobody can work when nothing is in flight. -/
theorem not_advance_of_idle
    (fits : pipeline.workers.Fits handleThreadCount)
    (idle : pipeline.workers.inFlight = []) :
    ¬ pipeline.workers.Advance handleThreadCount task workers finished := by
  intro advance
  have lower := advance.rank_lt fits
  have bound := pipeline.workers.rank_le
  rw [idle, List.length_nil] at bound
  omega

theorem Invariant.work
    (invariant : pipeline.Invariant decoding handleThreadCount)
    (found : ∀ read ∈ reads, read ∈ pipeline.settings)
    (advance :
      pipeline.workers.Advance handleThreadCount task workers finished) :
    (pipeline.work decoding reads workers finished).Invariant decoding
      handleThreadCount := by
  have here := invariant.here
  have same := advance.perm invariant.fits invariant.queues
  have fewer := same.length_eq
  rw [List.length_append] at fewer
  refine
    ⟨by simpa using advance.fits invariant.fits,
      by simpa using
        (List.nodup_append.mp (same.nodup_iff.mp invariant.nodup)).2.1,
      by simpa using (Nat.le_of_add_left_le fewer.ge).trans invariant.queues,
      ?_⟩
  rw [work_run]
  cases point : pipeline.run with
  | receiving | polling packet isTimeout =>
      rw [point] at here
      rcases here with ⟨exactly, stored, packetNum⟩
      exact
        ⟨exactly.work same, stored.work found same, by simpa using packetNum⟩
  | handing packet first =>
      rw [point] at here
      rcases here with ⟨exactly, stored, packetNum, slot, isFirst⟩
      exact
        ⟨exactly.work same, stored.work found same, by simpa using packetNum,
          by simpa using slot, by simpa using isFirst⟩
  | complete packet isTimeout | publishing packet isTimeout
  | restarting packet =>
      rw [point] at here
      exact absurd advance (not_advance_of_idle invariant.fits here.1)
  | clearing cleared | sleeping =>
      rw [point] at here
      exact ⟨by simpa using here.1, by simpa using here.2⟩
  | zeroing =>
      rw [point] at here
      exact
        ⟨by simpa using here.packetIndex, by simpa using here.packets,
          by simpa using here.packetNum, by simpa using here.fresh⟩

end Work

/-! ### The thread of `Run` -/

theorem checkOverflow_of_room
    (room : pipeline.packetIndex < decoding.maxPacketPerFrame) :
    pipeline.checkOverflow decoding = { pipeline with run := .receiving } :=
  if_neg (Nat.not_le_of_lt room)

theorem Stored.decodePacket (stored : pipeline.Stored decoding)
    (packet : Packet) (outcome : Outcome) (run : RunPoint Packet)
    (packetNum : pipeline.frame.packetNum = pipeline.packetIndex) :
    Stored decoding
      { pipeline with
        run := run
        frame := pipeline.frame.decodePacket packet outcome } where
  packets := by
    rw [stored.packets]
    refine List.map_congr_left fun i inside => ?_
    have before := List.mem_range.mp inside
    cases outcome with
    | failed | skipped | split => rfl
    | added =>
        have different : i ≠ pipeline.frame.packetNum := by omega
        exact (Function.update_of_ne different _ _).symm
  computed plain i inside left := by
    have inside : i < pipeline.packetIndex := inside
    exact
      (stored.computed plain i inside left).decodePacket _ _ (by omega)
  room := stored.room
  fresh := by
    have fresh := stored.fresh
    cases outcome <;> exact fresh

theorem receive_skipped (packet : Packet) (isTimeout : Bool)
    (settings : List Settings)
    (packetNum : pipeline.frame.packetNum = pipeline.packetIndex)
    (room : pipeline.packetIndex < decoding.maxPacketPerFrame) :
    pipeline.receive decoding ⟨packet, .skipped, isTimeout, settings⟩ =
      { pipeline with run := .receiving } := by
  simp only [receive, Frame.decodePacket, packetNum, ne_eq,
    not_true_eq_false, if_false]
  exact checkOverflow_of_room room

theorem receive_added (packet : Packet) (isTimeout : Bool)
    (settings : List Settings)
    (packetNum : pipeline.frame.packetNum = pipeline.packetIndex) :
    pipeline.receive decoding ⟨packet, .added, isTimeout, settings⟩ =
      { pipeline with
        run := .handing packet false
        frame := pipeline.frame.decodePacket packet .added } := by
  have grown :
      (pipeline.frame.decodePacket packet .added).packetNum ≠
        pipeline.packetIndex := by
    rw [← packetNum]
    exact Nat.succ_ne_self _
  simp only [receive, if_pos grown]

theorem Stored.at (stored : pipeline.Stored decoding)
    (run : RunPoint Packet) :
    Stored decoding { pipeline with run := run } :=
  ⟨stored.packets, stored.computed, stored.room, stored.fresh⟩

/-- What was computed stays so, whatever the settings become. -/
theorem Stored.settle (stored : pipeline.Stored decoding)
    (settings : List Settings) :
    (pipeline.settle settings).Stored decoding where
  packets := stored.packets
  computed plain i inside left := by
    have begun :
        ¬ (pipeline.packetIndex = 0 ∧ pipeline.workers.inFlight = []) :=
      fun first => Nat.not_lt_zero i (first.1 ▸ inside)
    have kept :
        (pipeline.settle settings).settings =
          pipeline.settings ++ settings :=
      if_neg begun
    rw [kept]
    exact
      (stored.computed plain i inside left).mono
        (List.subset_append_left _ _)
  room := stored.room
  fresh := stored.fresh

theorem Empty.settle (empty : pipeline.Empty) (settings : List Settings) :
    (pipeline.settle settings).Empty :=
  ⟨empty.packetIndex, empty.packets, empty.packetNum, empty.fresh⟩

/-- No point of `Run` depends on what the settings are. -/
theorem Invariant.settle
    (invariant : pipeline.Invariant decoding handleThreadCount)
    (settings : List Settings) :
    (pipeline.settle settings).Invariant decoding handleThreadCount := by
  refine ⟨invariant.fits, invariant.nodup, invariant.queues, ?_⟩
  have here := invariant.here
  change (pipeline.settle settings).InvariantAt decoding pipeline.run
  cases point : pipeline.run with
  | receiving | polling | handing | complete | publishing =>
      rw [point] at here
      exact ⟨here.1, here.2.1.settle settings, here.2.2⟩
  | restarting =>
      rw [point] at here
      exact ⟨here.1, here.2.1.settle settings, here.2.2⟩
  | clearing | sleeping =>
      rw [point] at here
      exact here
  | zeroing =>
      rw [point] at here
      exact here.settle settings

theorem Invariant.receive
    (invariant : pipeline.Invariant decoding handleThreadCount)
    (point : pipeline.run = .receiving) (received : Received Packet) :
    (pipeline.receive decoding received).Invariant decoding
      handleThreadCount := by
  have here := invariant.here
  rw [point] at here
  rcases here with ⟨exactly, stored, packetNum⟩
  rcases received with ⟨packet, outcome, isTimeout, settings⟩
  cases outcome with
  | failed => exact invariant
  | split =>
      exact
        ⟨invariant.fits, invariant.nodup, invariant.queues, exactly,
          stored.at _, packetNum⟩
  | skipped =>
      rw [receive_skipped packet isTimeout settings packetNum stored.room]
      exact
        ⟨invariant.fits, invariant.nodup, invariant.queues, exactly,
          stored.at _, packetNum⟩
  | added =>
      rw [receive_added packet isTimeout settings packetNum]
      refine
        ⟨invariant.fits, invariant.nodup, invariant.queues, exactly,
          stored.decodePacket _ _ _ packetNum,
          congrArg (· + 1) packetNum, ?_, by simp⟩
      rw [← packetNum]
      exact Function.update_self ..

theorem Exact.extend (exactly : pipeline.Exact) (packet : Packet) :
    (pipeline.extend packet).Exact :=
  (Tally.Exact.issue exactly).move (pipeline.workers.push_perm _)

theorem Stored.extend (stored : pipeline.Stored decoding)
    {packet : Packet}
    (slot : pipeline.frame.rawData pipeline.packetIndex = packet)
    (room : pipeline.packetIndex + 1 < decoding.maxPacketPerFrame) :
    (pipeline.extend packet).Stored decoding where
  packets := by
    simp only [Pipeline.extend, stored.packets, List.range_succ,
      List.map_append, List.map_cons, List.map_nil, slot]
  computed plain i inside left := by
    have missing : i ∉ pipeline.packetIndex :: pipeline.workers.inFlight :=
      fun member =>
        left ((pipeline.workers.push_perm pipeline.packetIndex).subset member)
    rw [List.mem_cons, not_or] at missing
    have inside : i < pipeline.packetIndex + 1 := inside
    exact stored.computed plain i (by omega) missing.2
  room := room
  fresh := stored.fresh

/-- A frame that has become too long is given up. -/
theorem handOver_overflow (packet : Packet)
    (full : decoding.maxPacketPerFrame ≤ pipeline.packetIndex + 1) :
    pipeline.handOver decoding packet false =
      { pipeline.extend packet with
        run := .clearing 0
        packetIndex := 0
        udpPacketFrame := [] } :=
  if_pos full

theorem handOver_room (packet : Packet) (first : Bool)
    (room : pipeline.packetIndex + 1 < decoding.maxPacketPerFrame) :
    pipeline.handOver decoding packet first =
      { pipeline.extend packet with run := .receiving } := by
  cases first with
  | true => rfl
  | false => exact checkOverflow_of_room room

theorem Invariant.handOver
    (invariant : pipeline.Invariant decoding handleThreadCount)
    {packet : Packet} {first : Bool}
    (point : pipeline.run = .handing packet first) :
    (pipeline.handOver decoding packet first).Invariant decoding
      handleThreadCount := by
  have here := invariant.here
  rw [point] at here
  rcases here with ⟨exactly, stored, packetNum, slot, isFirst⟩
  have fits := invariant.fits.push pipeline.packetIndex
  have extended : Tally.Exact _ := exactly.extend packet
  have queues :
      (pipeline.workers.push pipeline.packetIndex).inFlight.length ≤
        kPacketBufferSize :=
    extended.length_le.trans
      (Nat.succ_le_of_lt stored.room |>.trans decoding.buffered)
  rcases Nat.lt_or_ge (pipeline.packetIndex + 1)
      decoding.maxPacketPerFrame with room | full
  · rw [handOver_room packet first room]
    exact
      ⟨fits, extended.nodup, queues, extended,
        (stored.extend slot room).at _, packetNum⟩
  · cases first with
    | true =>
        have several := decoding.several
        rw [isFirst rfl] at full
        omega
    | false =>
        rw [handOver_overflow packet full]
        exact ⟨fits, extended.nodup, queues, rfl, rfl⟩

theorem Invariant.publish
    (invariant : pipeline.Invariant decoding handleThreadCount)
    {packet : Packet} {isTimeout : Bool}
    (point : pipeline.run = .publishing packet isTimeout) :
    (pipeline.publish decoding packet isTimeout).Invariant decoding
      handleThreadCount := by
  have here := invariant.here
  rw [point] at here
  rcases here with ⟨idle, stored, packetNum, counted⟩
  have empty : (pipeline.publish decoding packet isTimeout).Empty :=
    ⟨rfl, rfl, by simp [Pipeline.publish, Frame.update],
      by simp [Pipeline.publish, Frame.update]⟩
  refine ⟨invariant.fits, invariant.nodup, invariant.queues, ?_⟩
  cases isTimeout with
  | true =>
      exact ⟨empty.exact idle counted, empty.stored, empty.packetNum⟩
  | false => exact ⟨idle, empty, counted⟩

theorem Invariant.decodeAgain
    (invariant : pipeline.Invariant decoding handleThreadCount)
    {packet : Packet} (point : pipeline.run = .restarting packet) :
    (pipeline.decodeAgain packet .added).Invariant decoding
      handleThreadCount := by
  have here := invariant.here
  rw [point] at here
  rcases here with ⟨idle, empty, counted⟩
  have packetNum := empty.packetNum.trans empty.packetIndex.symm
  refine
    ⟨invariant.fits, invariant.nodup, invariant.queues,
      empty.exact idle counted, empty.stored.decodePacket _ _ _ packetNum,
      congrArg (· + 1) packetNum, ?_, fun _ => empty.packetIndex⟩
  change (pipeline.frame.decodePacket packet .added).rawData
    pipeline.packetIndex = packet
  rw [← packetNum]
  exact Function.update_self ..

/-- Every regular step keeps the invariant. -/
theorem Moves.invariant
    (moves : pipeline.Moves decoding handleThreadCount label next)
    (regular : pipeline.Regular label)
    (invariant : pipeline.Invariant decoding handleThreadCount) :
    next.Invariant decoding handleThreadCount := by
  have here := invariant.here
  have same : ∀ {other : Pipeline Packet Point},
      other.workers = pipeline.workers →
        other.InvariantAt decoding other.run →
          other.Invariant decoding handleThreadCount := by
    intro other workers there
    exact
      ⟨workers ▸ invariant.fits, workers ▸ invariant.nodup,
        workers ▸ invariant.queues, there⟩
  cases moves with
  | receive received point =>
      exact (invariant.settle received.settings).receive point received
  | handOver point free => exact invariant.handOver point
  | pollAgain point short => exact invariant
  | pollComplete point all =>
      rw [point] at here
      rcases here with ⟨exactly, stored, packetNum⟩
      exact
        same rfl
          ⟨(Tally.Exact.counted_eq_issued_iff exactly).mp all, stored.at _,
            packetNum⟩
  | setComputePacketNumToZero point =>
      rw [point] at here
      rcases here with ⟨idle, stored, packetNum⟩
      exact
        same rfl
          ⟨idle,
            ⟨stored.packets, stored.computed, stored.room, stored.fresh⟩,
            packetNum, rfl⟩
  | publish point => exact invariant.publish point
  | decodeAgain outcome settings point =>
      cases regular
      exact (invariant.settle settings).decodeAgain point
  | @clearPacketBuffer cleared point =>
      rw [point] at here
      have fewer := pipeline.workers.clearNext_sublist cleared
      refine
        ⟨invariant.fits.clearNext cleared, fewer.nodup invariant.nodup,
          fewer.length_le.trans invariant.queues, ?_⟩
      simp only [clearingAfter]
      split <;> exact here
  | clearOverlapped => exact regular.elim
  | update point =>
      rw [point] at here
      exact same rfl ⟨here.1, here.2, rfl, rfl⟩
  | giveUp point =>
      rw [point] at here
      have empty :
          Empty
            { pipeline with run := .receiving, computePacketNum := 0 } :=
        ⟨here.packetIndex, here.packets, here.packetNum, here.fresh⟩
      exact
        same rfl
          ⟨empty.exact regular rfl, empty.stored,
            here.packetNum.trans here.packetIndex.symm⟩
  | worker found advance => exact invariant.work found advance

theorem start_invariant
    (frame : Frame Packet Point) (multiPoints : ℕ → Point) :
    (start handleThreadCount frame multiPoints).Invariant decoding
      handleThreadCount := by
  have empty : (start handleThreadCount frame multiPoints).Empty :=
    ⟨rfl, rfl, rfl, rfl⟩
  have idle :
      (start handleThreadCount frame multiPoints).workers.inFlight = [] :=
    Workers.inFlight_start
  exact
    ⟨Workers.start_fits, idle ▸ List.nodup_nil, idle ▸ Nat.zero_le _,
      empty.exact idle rfl, empty.stored, rfl⟩

end Pipeline

end Go2Navigation.Lidar
