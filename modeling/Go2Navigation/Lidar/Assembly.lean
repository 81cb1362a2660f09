import Go2Navigation.Lidar.Pipeline

/-!
# What the pipeline publishes

A single thread would cut the packets into frames and publish the points of
one frame after the other.  Whatever the worker threads do in between, the
pipeline publishes just this, with points as they are computed from what the
settings were while the frame was cut, and no slot of the frame is written
while a worker may still read it.
-/

namespace Go2Navigation.Lidar

open Go2Navigation.Foundation

/--
The packets of a frame, and what the settings were from the end of the decoding
of its first packet on.
-/
structure PacketFrame (Packet : Type) where
  packets : List Packet
  settings : List Settings

/-- Where a frame begins, earlier settings do not matter any more. -/
def PacketFrame.settle {Packet : Type}
    (settings : List Settings) (frame : PacketFrame Packet) :
    PacketFrame Packet :=
  { frame with
    settings :=
      if frame.packets = [] then latest (frame.settings ++ settings)
      else frame.settings ++ settings }

/-- The frame being assembled, and those that are complete. -/
structure Assembly (Packet : Type) where
  current : PacketFrame Packet
  complete : List (PacketFrame Packet)

namespace Assembly

variable {Packet Point : Type}

/-- A frame with too many packets is given up. -/
def cut (maxPacketPerFrame : ℕ) (packets : List Packet) : List Packet :=
  if maxPacketPerFrame ≤ packets.length then [] else packets

def receive
    (maxPacketPerFrame : ℕ) (assembly : Assembly Packet)
    (received : Received Packet) : Assembly Packet :=
  let current := assembly.current.settle received.settings
  match received.outcome with
  | .failed | .skipped => { assembly with current := current }
  | .split =>
      ⟨{ current with
          packets := if received.isTimeout then [] else [received.packet] },
        assembly.complete ++ [current]⟩
  | .added =>
      { assembly with
        current :=
          { current with
            packets :=
              cut maxPacketPerFrame (current.packets ++ [received.packet]) } }

/-- The packet that ended a frame is decoded again, as the first of the next. -/
def decodeAgain (assembly : Assembly Packet) (settings : List Settings) :
    Assembly Packet :=
  { assembly with
    current :=
      { assembly.current with
        settings := latest (assembly.current.settings ++ settings) } }

/-- What a single thread does at a step, if it decodes a packet there. -/
def after
    (maxPacketPerFrame : ℕ) (assembly : Assembly Packet) :
    PipelineLabel Packet → Assembly Packet
  | .receive received => assembly.receive maxPacketPerFrame received
  | .decodeAgain _ settings => assembly.decodeAgain settings
  | _ => assembly

/-- What a single thread makes of the packets. -/
def assemble
    (maxPacketPerFrame : ℕ) (labels : List (PipelineLabel Packet)) :
    Assembly Packet :=
  labels.foldl (after maxPacketPerFrame) ⟨⟨[], [.initial]⟩, []⟩

/-- A frame is shown with all points of its packets, in their order. -/
def Shows
    (decoding : Decoding Packet Point) (frame : PacketFrame Packet)
    (shown : ShownFrame Packet Point) : Prop :=
  shown.packets = frame.packets ∧
    ∃ parts,
      List.Forall₂ (Frame.Rendered decoding frame.settings) frame.packets
          parts ∧
        shown.points = parts.flatten

end Assembly

/-- A frame with few points is not shown. -/
def ShownFrame.isLarge {Packet Point : Type}
    (shown : ShownFrame Packet Point) : Bool :=
  kMinPointsOfOneFrame < shown.points.length

namespace Pipeline

open Assembly

variable {Packet Point : Type} {decoding : Decoding Packet Point}
  {handleThreadCount : ℕ} {pipeline next : Pipeline Packet Point}
  {label : PipelineLabel Packet}

/-- Frames were handed to the callbacks, and some of them held back. -/
def Published
    (decoding : Decoding Packet Point) (complete : List (PacketFrame Packet))
    (published : List (Callback Packet Point)) (multi : MultiFrame Point) :
    Prop :=
  ∃ frames,
    List.Forall₂ (Shows decoding) complete frames ∧
      published =
        callbacks decoding.multiRate [] (frames.filter ShownFrame.isLarge) ∧
      ∀ rate, decoding.multiRate = some rate →
        multi.Gathers rate (frames.filter ShownFrame.isLarge)

/-- How the pipeline stands to a single thread at each point of `Run`. -/
def Follows
    (decoding : Decoding Packet Point) (assembly : Assembly Packet)
    (published : List (Callback Packet Point))
    (pipeline : Pipeline Packet Point) : RunPoint Packet → Prop
  | .receiving =>
      assembly.current = ⟨pipeline.udpPacketFrame, pipeline.settings⟩ ∧
        Published decoding assembly.complete published pipeline.multi
  | .handing packet first =>
      assembly.current =
          ⟨if first then [packet]
            else
              cut decoding.maxPacketPerFrame
                (pipeline.udpPacketFrame ++ [packet]),
            pipeline.settings⟩ ∧
        Published decoding assembly.complete published pipeline.multi
  | .polling packet isTimeout | .complete packet isTimeout
  | .publishing packet isTimeout =>
      assembly.current =
          ⟨if isTimeout then [] else [packet], pipeline.settings⟩ ∧
        ∃ earlier,
          assembly.complete =
              earlier ++ [⟨pipeline.udpPacketFrame, pipeline.settings⟩] ∧
            Published decoding earlier published pipeline.multi
  | .restarting packet =>
      assembly.current = ⟨[packet], pipeline.settings⟩ ∧
        Published decoding assembly.complete published pipeline.multi
  | .clearing _ | .sleeping | .zeroing =>
      assembly.current = ⟨[], pipeline.settings⟩ ∧
        Published decoding assembly.complete published pipeline.multi

theorem assemble_snoc (past : List (PipelineLabel Packet)) :
    assemble decoding.maxPacketPerFrame (past ++ [label]) =
      (assemble decoding.maxPacketPerFrame past).after
        decoding.maxPacketPerFrame label := by
  rw [assemble, List.foldl_append]
  rfl

theorem cut_of_room {packets : List Packet}
    (room : packets.length < decoding.maxPacketPerFrame) :
    cut decoding.maxPacketPerFrame packets = packets :=
  if_neg (Nat.not_le_of_lt room)

theorem Stored.length (stored : pipeline.Stored decoding) :
    pipeline.udpPacketFrame.length = pipeline.packetIndex := by
  rw [stored.packets, List.length_map, List.length_range]

/-- A complete frame is shown with the points of its packets. -/
theorem exists_shown (plain : decoding.remake = none)
    (idle : pipeline.workers.inFlight = [])
    (stored : pipeline.Stored decoding)
    (packetNum : pipeline.frame.packetNum = pipeline.packetIndex) :
    ∃ shown : ShownFrame Packet Point,
      Shows decoding ⟨pipeline.udpPacketFrame, pipeline.settings⟩ shown ∧
        (pipeline.frame.compact decoding).cloud = shown.points ∧
        (pipeline.frame.compact decoding).pointsNum = shown.points.length ∧
        (pipeline.frame.compact decoding).packetNum =
          shown.packets.length := by
  have all :
      ∀ i < pipeline.frame.packetNum,
        pipeline.frame.Computed decoding pipeline.settings i := by
    intro i inside
    rw [packetNum] at inside
    exact stored.computed plain i inside (by simp [idle])
  rcases Frame.cloud_compact plain stored.fresh all with
    ⟨parts, rendered, cloud, pointsNum⟩
  rw [packetNum, ← stored.packets] at rendered
  refine
    ⟨⟨parts.flatten, pipeline.udpPacketFrame⟩, ⟨rfl, parts, rendered, rfl⟩,
      cloud, pointsNum, ?_⟩
  rw [Frame.compact_packetNum, packetNum, stored.length]

/-- The frame just completed is handed over like those before it. -/
theorem Published.publish {complete : List (PacketFrame Packet)}
    {published : List (Callback Packet Point)}
    (before : Published decoding complete published pipeline.multi)
    (plain : decoding.remake = none)
    (idle : pipeline.workers.inFlight = [])
    (stored : pipeline.Stored decoding)
    (packetNum : pipeline.frame.packetNum = pipeline.packetIndex) :
    Published decoding
      (complete ++ [⟨pipeline.udpPacketFrame, pipeline.settings⟩])
      (published ++ pipeline.observe decoding .publish)
      (pipeline.send decoding (pipeline.frame.compact decoding)).1 := by
  rcases before with ⟨frames, shows, same, gathers⟩
  rcases exists_shown plain idle stored packetNum with
    ⟨shown, showsLast, cloud, pointsNum, count⟩
  refine ⟨frames ++ [shown], List.rel_append shows (.cons showsLast .nil), ?_⟩
  rw [List.filter_append, observe, send, pointsNum]
  by_cases large : kMinPointsOfOneFrame < shown.points.length
  · have kept : [shown].filter ShownFrame.isLarge = [shown] := by
      simp [ShownFrame.isLarge, large]
    rcases MultiFrame.multiSend_callbacksFor gathers cloud count with
      ⟨sent, held⟩
    rw [showsLast.1] at sent
    rw [if_pos large, kept, callbacks_snoc, same, List.nil_append, ← sent]
    exact ⟨rfl, held⟩
  · have dropped : [shown].filter ShownFrame.isLarge = [] := by
      simp [ShownFrame.isLarge, large]
    rw [if_neg large, dropped, List.append_nil, List.append_nil]
    exact ⟨same, gathers⟩

/-- A frame begins with its first packet, and with nothing in flight. -/
theorem settle_current {current : PacketFrame Packet}
    (same : current = ⟨pipeline.udpPacketFrame, pipeline.settings⟩)
    (exactly : pipeline.Exact) (stored : pipeline.Stored decoding)
    (settings : List Settings) :
    current.settle settings =
      ⟨pipeline.udpPacketFrame, (pipeline.settle settings).settings⟩ := by
  have length := stored.length
  rw [PacketFrame.settle, Pipeline.settle, same]
  by_cases first : pipeline.packetIndex = 0
  · have idle : pipeline.workers.inFlight = [] := by
      refine List.eq_nil_of_length_eq_zero (Nat.eq_zero_of_le_zero ?_)
      exact first ▸ Tally.Exact.length_le exactly
    have empty : pipeline.udpPacketFrame = [] :=
      List.eq_nil_of_length_eq_zero (length.trans first)
    simp only [empty, first, idle, and_self, if_true]
  · have begun : pipeline.udpPacketFrame ≠ [] := by
      intro empty
      rw [empty, List.length_nil] at length
      exact first length.symm
    simp only [begun, first, false_and, if_false]

theorem Follows.receive {assembly : Assembly Packet}
    {published : List (Callback Packet Point)}
    (follows : pipeline.Follows decoding assembly published .receiving)
    (invariant : pipeline.InvariantAt decoding .receiving)
    (point : pipeline.run = .receiving) (received : Received Packet) :
    ((pipeline.settle received.settings).receive decoding received).Follows
      decoding (assembly.receive decoding.maxPacketPerFrame received)
      published
      ((pipeline.settle received.settings).receive decoding received).run := by
  rcases follows with ⟨current, same⟩
  rcases invariant with ⟨exactly, stored, packetNum⟩
  rcases received with ⟨packet, outcome, isTimeout, settings⟩
  have settled := stored.settle settings
  have packetNum :
      (pipeline.settle settings).frame.packetNum =
        (pipeline.settle settings).packetIndex :=
    packetNum
  have now := settle_current current exactly stored settings
  cases outcome with
  | failed =>
      change (pipeline.settle settings).Follows decoding _ published
        pipeline.run
      rw [point]
      exact ⟨now, same⟩
  | split =>
      rw [Assembly.receive, now]
      exact ⟨rfl, assembly.complete, rfl, same⟩
  | skipped =>
      rw [receive_skipped packet isTimeout settings packetNum settled.room]
      exact ⟨now, same⟩
  | added =>
      rw [receive_added packet isTimeout settings packetNum,
        Assembly.receive, now]
      exact ⟨rfl, same⟩

theorem Follows.handOver {assembly : Assembly Packet}
    {published : List (Callback Packet Point)} {packet : Packet}
    {first : Bool}
    (follows :
      pipeline.Follows decoding assembly published (.handing packet first))
    (invariant :
      pipeline.InvariantAt decoding (.handing packet first)) :
    (pipeline.handOver decoding packet first).Follows decoding assembly
      published (pipeline.handOver decoding packet first).run := by
  rcases follows with ⟨current, same⟩
  rcases invariant with ⟨exactly, stored, packetNum, slot, isFirst⟩
  have length : (pipeline.udpPacketFrame ++ [packet]).length =
      pipeline.packetIndex + 1 := by
    rw [List.length_append, stored.length, List.length_singleton]
  rcases Nat.lt_or_ge (pipeline.packetIndex + 1)
      decoding.maxPacketPerFrame with room | full
  · rw [handOver_room packet first room]
    refine ⟨current.trans ?_, same⟩
    cases first with
    | true =>
        have none := stored.length
        rw [isFirst rfl, List.length_eq_zero_iff] at none
        simp [extend, none]
    | false => simp [extend, cut_of_room (length ▸ room)]
  · cases first with
    | true =>
        have several := decoding.several
        rw [isFirst rfl] at full
        omega
    | false =>
        rw [handOver_overflow packet full]
        exact ⟨current.trans (by simp [extend, cut, length, full]), same⟩

theorem Follows.work {assembly : Assembly Packet}
    {published : List (Callback Packet Point)} {workers : Workers}
    {reads : List Settings} {finished : Option ℕ} {point : RunPoint Packet}
    (follows : pipeline.Follows decoding assembly published point) :
    (pipeline.work decoding reads workers finished).Follows decoding assembly
      published point := by
  cases point <;>
    simpa only [Follows, work_udpPacketFrame, work_settings, work_multi] using
      follows

/-- Every regular step keeps the pipeline in line with a single thread. -/
theorem Moves.follows (plain : decoding.remake = none)
    (moves : pipeline.Moves decoding handleThreadCount label next)
    (regular : pipeline.Regular label)
    (invariant : pipeline.Invariant decoding handleThreadCount)
    {assembly : Assembly Packet}
    {published : List (Callback Packet Point)}
    (follows : pipeline.Follows decoding assembly published pipeline.run) :
    next.Follows decoding (assembly.after decoding.maxPacketPerFrame label)
      (published ++ pipeline.observe decoding label) next.run := by
  have here := invariant.here
  cases moves with
  | receive received point =>
      rw [point] at here follows
      simp only [observe, List.append_nil]
      exact follows.receive here point received
  | handOver point free =>
      rw [point] at here follows
      simp only [observe, List.append_nil]
      exact follows.handOver here
  | pollAgain point short =>
      simp only [observe, List.append_nil]
      exact follows
  | pollComplete point all | setComputePacketNumToZero point
  | update point =>
      rw [point] at follows
      simp only [observe, List.append_nil]
      exact follows
  | decodeAgain outcome settings point =>
      rw [point] at here follows
      rcases here with ⟨idle, empty, counted⟩
      rcases follows with ⟨current, same⟩
      have settled :
          (pipeline.settle settings).settings =
            latest (pipeline.settings ++ settings) :=
        if_pos ⟨empty.packetIndex, idle⟩
      simp only [observe, List.append_nil, after, Assembly.decodeAgain,
        current, ← settled]
      exact ⟨rfl, same⟩
  | @publish packet isTimeout point =>
      rw [point] at here follows
      rcases here with ⟨idle, stored, packetNum, counted⟩
      rcases follows with ⟨current, earlier, complete, before⟩
      have now := before.publish plain idle stored packetNum
      rw [← complete] at now
      cases isTimeout with
      | true => exact ⟨current, now⟩
      | false => exact ⟨current, now⟩
  | clearPacketBuffer point =>
      rw [point] at follows
      simp only [observe, List.append_nil, clearingAfter]
      split <;> exact follows
  | clearOverlapped => exact regular.elim
  | giveUp point =>
      rw [point] at here follows
      simp only [observe, List.append_nil]
      exact ⟨follows.1.trans (by rw [here.packets]), follows.2⟩
  | worker found advance =>
      simp only [observe, List.append_nil, work_run]
      exact follows.work

/-- The pipeline and a single thread after the same schedule. -/
structure InLine
    (decoding : Decoding Packet Point) (handleThreadCount : ℕ)
    (frame : Frame Packet Point) (multiPoints : ℕ → Point)
    (past : List (PipelineLabel Packet)) (pipeline : Pipeline Packet Point) :
    Prop where
  invariant : pipeline.Invariant decoding handleThreadCount
  follows :
    decoding.remake = none →
      pipeline.Follows decoding (assemble decoding.maxPacketPerFrame past)
        ((system decoding handleThreadCount).observations (observe decoding)
          (start handleThreadCount frame multiPoints) past)
        pipeline.run

theorem inLine_of_run {frame : Frame Packet Point} {multiPoints : ℕ → Point}
    {labels : List (PipelineLabel Packet)}
    (regular :
      (system decoding handleThreadCount).Respects Regular
        (start handleThreadCount frame multiPoints) labels)
    (ran :
      (system decoding handleThreadCount).run
        (start handleThreadCount frame multiPoints) labels = some pipeline) :
    InLine decoding handleThreadCount frame multiPoints labels pipeline := by
  refine StepSystem.related_along ?_ ?_ regular ran
  · refine ⟨start_invariant frame multiPoints, ?_⟩
    intro _
    refine ⟨rfl, [], .nil, rfl, ?_⟩
    intro rate _
    exact ⟨rfl, holds_nil, rfl, rfl⟩
  · intro past reached label next ranPast inLine admitted stepped
    have moves := step_moves stepped
    refine ⟨moves.invariant admitted inLine.invariant, fun plain => ?_⟩
    rw [assemble_snoc, StepSystem.observations_snoc _ _ ranPast]
    exact
      moves.follows plain admitted inLine.invariant (inLine.follows plain)

/-- A packet is written to the slot behind those of the frame. -/
theorem slot_of_writes {slot : ℕ}
    (written : pipeline.writes label = some slot) :
    pipeline.frame.packetNum = slot := by
  cases label with
  | receive received =>
      simp only [writes] at written
      split at written <;> cases written <;> rfl
  | decodeAgain outcome =>
      simp only [writes] at written
      split at written <;> cases written <;> rfl
  | handOver | poll | setComputePacketNumToZero | publish
  | clearPacketBuffer | clearOverlapped | update | giveUp | worker =>
      cases written

/--
Two packets of 600 points to a frame, and room for three.  A point shows which
way the sensor turned as it was computed, and two frames are given at a time.
-/
def sampleDecoding : Decoding ℕ (ℕ × Bool) where
  maxPacketPerFrame := 3
  perPointsNum := 600
  pointsOf reads packet :=
    List.replicate 600
      (packet, reads.all fun read => decide (0 < read.rotationFlag))
  remake := none
  multiRate := some 2
  several := by decide
  buffered := by decide
  fits _ _ := by rw [List.length_replicate]

def sampleFrame : Frame ℕ (ℕ × Bool) :=
  ⟨0, 0, fun _ => 0, fun _ => (0, false), fun _ => 0⟩

def sampleStart : Pipeline ℕ (ℕ × Bool) :=
  start 2 sampleFrame fun _ => (0, false)

/-- A frame of two packets, dealt out to two handler threads, up to the wait. -/
def samplePolling : List (PipelineLabel ℕ) :=
  [.receive ⟨7, .added, false, [⟨1, 0⟩]⟩, .handOver, .worker .parserPop [],
    .worker .parserDispatch [], .receive ⟨8, .added, false, [⟨2, 0⟩]⟩,
    .worker (.handlerPop 0) [], .handOver, .worker .parserPop [],
    .receive ⟨9, .split, false, [⟨3, 0⟩]⟩, .worker .parserDispatch [], .poll,
    .worker (.handlerPop 1) []]

/-- The rest of this frame and the whole of the next one. -/
def sampleSchedule : List (PipelineLabel ℕ) :=
  samplePolling ++
    [.worker (.handlerCompute 1) [⟨3, 0⟩], .poll,
      .worker (.handlerCompute 0) [⟨1, 0⟩, ⟨3, 0⟩], .poll,
      .setComputePacketNumToZero, .publish, .decodeAgain .added [],
      .handOver, .receive ⟨10, .added, false, [⟨4, 0⟩]⟩, .handOver,
      .worker .parserPop [], .worker .parserDispatch [],
      .worker .parserPop [], .worker .parserDispatch [],
      .worker (.handlerPop 1) [], .worker (.handlerPop 0) [],
      .receive ⟨11, .split, false, [⟨5, 0⟩]⟩,
      .worker (.handlerCompute 1) [⟨5, 0⟩],
      .worker (.handlerCompute 0) [⟨3, 0⟩], .poll,
      .setComputePacketNumToZero, .publish, .decodeAgain .added [],
      .handOver]

theorem sampleSchedule_regular (pipeline : Pipeline ℕ (ℕ × Bool)) :
    (system sampleDecoding 2).Respects Regular pipeline sampleSchedule :=
  StepSystem.respects_of_forall _
    (by simp [sampleSchedule, samplePolling, Regular]) _

/--
No slot is written while its packet is in flight, no packet index is with two
threads or in two queues, and frames are published with nothing in flight.
-/
theorem slots_undisturbed
    (decoding : Decoding Packet Point) (handleThreadCount : ℕ)
    (frame : Frame Packet Point) (multiPoints : ℕ → Point)
    (labels : List (PipelineLabel Packet))
    (pipeline next : Pipeline Packet Point) (label : PipelineLabel Packet)
    (regular :
      (system decoding handleThreadCount).Respects Regular
        (start handleThreadCount frame multiPoints) labels)
    (ran :
      (system decoding handleThreadCount).run
        (start handleThreadCount frame multiPoints) labels = some pipeline)
    (stepped :
      (system decoding handleThreadCount).step pipeline label = some next) :
    (∀ slot, pipeline.writes label = some slot →
        slot ∉ pipeline.workers.inFlight ∧
          slot < decoding.maxPacketPerFrame) ∧
      pipeline.workers.inFlight.Nodup ∧
      (label = .publish → pipeline.workers.inFlight = []) := by
  have invariant := (inLine_of_run regular ran).invariant
  have here := invariant.here
  refine ⟨?_, invariant.nodup, ?_⟩
  · intro slot written
    cases step_moves stepped with
    | receive received point =>
        rw [point] at here
        rcases here with ⟨exactly, stored, packetNum⟩
        have same := slot_of_writes written
        rw [← same, packetNum]
        exact ⟨exactly.not_mem, stored.room⟩
    | decodeAgain outcome settings point =>
        rw [point] at here
        rcases here with ⟨idle, empty, counted⟩
        have same := slot_of_writes written
        rw [← same, empty.packetNum, idle]
        exact ⟨List.not_mem_nil, Nat.zero_lt_of_lt decoding.several⟩
    | handOver | pollAgain | pollComplete | setComputePacketNumToZero
    | publish | clearPacketBuffer | clearOverlapped | update | giveUp
    | worker =>
        cases written
  · rintro rfl
    cases step_moves stepped with
    | publish point =>
        rw [point] at here
        exact here.1

/--
The third frame goes on while its first packet is in flight, and the first one
is published.
-/
theorem slots_undisturbed_sample :
    ∃ pipeline next publishing after,
      (system sampleDecoding 2).run sampleStart sampleSchedule =
          some pipeline ∧
        (system sampleDecoding 2).step pipeline
            (.receive ⟨12, .added, false, [⟨6, 0⟩]⟩) = some next ∧
        (system sampleDecoding 2).run sampleStart (sampleSchedule.take 17) =
            some publishing ∧
        (system sampleDecoding 2).step publishing .publish = some after ∧
        (1 ∉ pipeline.workers.inFlight ∧
          1 < sampleDecoding.maxPacketPerFrame) ∧
        pipeline.workers.inFlight.Nodup ∧
        publishing.workers.inFlight = [] := by
  have regular :
      ∀ pipeline,
        (system sampleDecoding 2).Respects Regular pipeline
          (sampleSchedule.take 17) :=
    StepSystem.respects_of_forall _
      (by simp [sampleSchedule, samplePolling, Regular])
  have third :=
    slots_undisturbed sampleDecoding 2 sampleFrame (fun _ => (0, false))
      sampleSchedule _ _ (.receive ⟨12, .added, false, [⟨6, 0⟩]⟩)
      (sampleSchedule_regular _) rfl rfl
  have first :=
    slots_undisturbed sampleDecoding 2 sampleFrame (fun _ => (0, false))
      (sampleSchedule.take 17) _ _ .publish (regular _) rfl rfl
  exact
    ⟨_, _, _, _, rfl, rfl, rfl, rfl, third.1 1 rfl, third.2.1,
      first.2.2 rfl⟩

end Pipeline

end Go2Navigation.Lidar
