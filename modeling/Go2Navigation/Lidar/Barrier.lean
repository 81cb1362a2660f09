import Go2Navigation.Lidar.Assembly

/-!
# The wait for the points of a frame

The loop on `ComputeXYZIComplete` ends: the worker threads can always go on
until every packet is counted, and they need a bounded number of steps.  The
reset of a frame that is given up clears the queues and then the count.  What
a worker had already taken is counted in the next frame, and then the loop
ends too early or never.
-/

namespace Go2Navigation.Lidar

open Go2Navigation.Foundation

namespace Pipeline

variable {Packet Point : Type} {decoding : Decoding Packet Point}
  {handleThreadCount : ℕ} {pipeline next last : Pipeline Packet Point}
  {label : PipelineLabel Packet}

/-! ## The wait ends -/

theorem receive_workers (received : Received Packet) :
    (pipeline.receive decoding received).workers = pipeline.workers := by
  rcases received with ⟨packet, outcome, isTimeout, settings⟩
  cases outcome with
  | failed | split => rfl
  | skipped | added =>
      simp only [receive]
      split
      · rfl
      · rw [checkOverflow]
        split <;> rfl

theorem handOver_workers (packet : Packet) (first : Bool) :
    (pipeline.handOver decoding packet first).workers =
      pipeline.workers.push pipeline.packetIndex := by
  rw [handOver, checkOverflow]
  split
  · rfl
  · split <;> rfl

/-- There is always a queue for each handler thread. -/
theorem Moves.fits
    (moves : pipeline.Moves decoding handleThreadCount label next)
    (apart : ∀ workers, label ≠ .clearOverlapped workers)
    (fits : pipeline.workers.Fits handleThreadCount) :
    next.workers.Fits handleThreadCount := by
  cases moves with
  | receive received =>
      rw [receive_workers]
      exact fits
  | handOver =>
      rw [handOver_workers]
      exact fits.push _
  | pollAgain | pollComplete | setComputePacketNumToZero | publish
  | decodeAgain | update | giveUp => exact fits
  | clearPacketBuffer => exact fits.clearNext _
  | clearOverlapped workers => exact (apart workers rfl).elim
  | worker found advance => simpa using advance.fits fits

/-- The steps of the worker threads. -/
def Works (label : PipelineLabel Packet) : Prop :=
  ∃ task reads, label = .worker task reads

theorem Works.apart (works : Works label) (workers : Workers) :
    label ≠ .clearOverlapped workers := by
  rcases works with ⟨task, reads, rfl⟩
  simp

theorem Moves.rank_lt
    (moves : pipeline.Moves decoding handleThreadCount label next)
    (fits : pipeline.workers.Fits handleThreadCount) (works : Works label) :
    next.workers.rank < pipeline.workers.rank := by
  rcases works with ⟨task, reads, rfl⟩
  cases moves with
  | worker found advance => simpa using advance.rank_lt fits

theorem isSome_worker_step {task : WorkerLabel} {reads : List Settings}
    (found : ∀ read ∈ reads, read ∈ pipeline.settings)
    (able : (pipeline.workers.step handleThreadCount task).isSome) :
    ((system decoding handleThreadCount).step pipeline
      (.worker task reads)).isSome := by
  simpa only [system, step, if_pos found, Option.isSome_map] using able

/-- While the frame is complete only the worker threads can move it. -/
theorem polling_of_work {packet : Packet} {isTimeout : Bool}
    (invariant : pipeline.Invariant decoding handleThreadCount)
    (point : pipeline.run = .polling packet isTimeout)
    {tasks : List (WorkerLabel × List Settings)}
    (ran :
      (system decoding handleThreadCount).run pipeline
        (tasks.map fun task => .worker task.1 task.2) = some last) :
    last.Invariant decoding handleThreadCount ∧
      last.run = .polling packet isTimeout := by
  induction tasks generalizing pipeline with
  | nil =>
      cases ran
      exact ⟨invariant, point⟩
  | cons task rest induction =>
      rcases Option.bind_eq_some_iff.mp ran with ⟨next, stepped, ranRest⟩
      have moves := step_moves stepped
      refine induction (moves.invariant trivial invariant) ?_ ranRest
      cases moves with
      | worker found advance => rwa [work_run]

/-- The worker threads alone come to an end. -/
theorem length_add_rank_le
    {tasks : List (WorkerLabel × List Settings)}
    (fits : pipeline.workers.Fits handleThreadCount)
    (ran :
      (system decoding handleThreadCount).run pipeline
        (tasks.map fun task => .worker task.1 task.2) = some last) :
    tasks.length + last.workers.rank ≤ pipeline.workers.rank := by
  have works :
      ∀ label ∈ tasks.map fun task => PipelineLabel.worker task.1 task.2,
        Works (label : PipelineLabel Packet) := by
    rintro _ member
    rcases List.mem_map.mp member with ⟨task, -, rfl⟩
    exact ⟨task.1, task.2, rfl⟩
  have bound :=
    StepSystem.length_add_measure_le
      (fun _ _ _ fits works stepped =>
        (step_moves stepped).fits (Works.apart works) fits)
      (fun _ _ _ fits works stepped =>
        (step_moves stepped).rank_lt fits works)
      fits works ran
  rwa [List.length_map] at bound

theorem handOver_isSome
    (invariant : pipeline.Invariant decoding handleThreadCount)
    {packet : Packet} {first : Bool}
    (point : pipeline.run = .handing packet first) :
    ((system decoding handleThreadCount).step pipeline .handOver).isSome := by
  have here := invariant.here
  rw [point] at here
  rcases here with ⟨exactly, stored, _⟩
  have issued := Tally.Exact.length_le exactly
  have room := stored.room
  have buffered := decoding.buffered
  have free :
      pipeline.workers.decodedPacketsBuffer.length < kPacketBufferSize := by
    simp only [Workers.inFlight, List.length_append] at issued
    omega
  simp [system, step, point, free]

theorem polling_progress
    (invariant : pipeline.Invariant decoding handleThreadCount)
    {packet : Packet} {isTimeout : Bool}
    (point : pipeline.run = .polling packet isTimeout) :
    (∀ reads, (∀ read ∈ reads, read ∈ pipeline.settings) →
        ∃ task,
          ((system decoding handleThreadCount).step pipeline
            (.worker task reads)).isSome) ∨
      (system decoding handleThreadCount).step pipeline .poll =
        some { pipeline with run := .complete packet isTimeout } := by
  have here := invariant.here
  rw [point] at here
  rcases here with ⟨exactly, _⟩
  by_cases idle : pipeline.workers.inFlight = []
  · have all := (Tally.Exact.counted_eq_issued_iff exactly).mpr idle
    exact .inr (by simp [system, step, point, all])
  · rcases Workers.exists_step invariant.fits idle with ⟨task, able⟩
    exact .inl fun reads found => ⟨task, isSome_worker_step found able⟩

/--
The thread of `Run` never waits for room in `decoded_packets_buffer_`, and its
wait for the points of a frame ends: after at most four steps of the worker
threads for each packet, all that is left to do is to end the wait.  Until then
one of them can go on, whatever its computation reads.
-/
theorem wait_ends
    (decoding : Decoding Packet Point) (handleThreadCount : ℕ)
    (frame : Frame Packet Point) (multiPoints : ℕ → Point)
    (labels : List (PipelineLabel Packet)) (pipeline : Pipeline Packet Point)
    (regular :
      (system decoding handleThreadCount).Respects Regular
        (start handleThreadCount frame multiPoints) labels)
    (ran :
      (system decoding handleThreadCount).run
        (start handleThreadCount frame multiPoints) labels = some pipeline) :
    (∀ packet first, pipeline.run = .handing packet first →
        ((system decoding handleThreadCount).step pipeline
          .handOver).isSome) ∧
      ∀ packet isTimeout, pipeline.run = .polling packet isTimeout →
        ∀ (tasks : List (WorkerLabel × List Settings)) last,
          (system decoding handleThreadCount).run pipeline
              (tasks.map fun task => .worker task.1 task.2) = some last →
            tasks.length ≤ 4 * pipeline.packetIndex ∧
              ((∀ reads, (∀ read ∈ reads, read ∈ last.settings) →
                  ∃ task,
                    ((system decoding handleThreadCount).step last
                      (.worker task reads)).isSome) ∨
                (system decoding handleThreadCount).step last .poll =
                  some { last with run := .complete packet isTimeout }) := by
  have invariant := (inLine_of_run regular ran).invariant
  refine ⟨fun packet first => handOver_isSome invariant, ?_⟩
  intro packet isTimeout point tasks last worked
  have here := invariant.here
  rw [point] at here
  rcases polling_of_work invariant point worked with ⟨kept, still⟩
  refine ⟨?_, polling_progress kept still⟩
  have bound := length_add_rank_le invariant.fits worked
  have rank := pipeline.workers.rank_le
  have issued := Tally.Exact.length_le here.1
  omega

/-- In `push_back` with the second packet, and in the wait for both. -/
theorem wait_ends_sample :
    ∃ handing polling,
      (system sampleDecoding 2).run sampleStart (samplePolling.take 5) =
          some handing ∧
        (system sampleDecoding 2).run sampleStart samplePolling =
            some polling ∧
          ((system sampleDecoding 2).step handing .handOver).isSome ∧
            ∀ (tasks : List (WorkerLabel × List Settings)) last,
              (system sampleDecoding 2).run polling
                  (tasks.map fun task => .worker task.1 task.2) =
                  some last →
                tasks.length ≤ 4 * polling.packetIndex ∧
                  ((∀ reads, (∀ read ∈ reads, read ∈ last.settings) →
                      ∃ task,
                        ((system sampleDecoding 2).step last
                          (.worker task reads)).isSome) ∨
                    (system sampleDecoding 2).step last .poll =
                      some { last with run := .complete 9 false }) := by
  have regular :
      ∀ pipeline,
        (system sampleDecoding 2).Respects Regular pipeline samplePolling ∧
          (system sampleDecoding 2).Respects Regular pipeline
            (samplePolling.take 5) := by
    intro pipeline
    constructor <;>
      exact
        StepSystem.respects_of_forall _ (by simp [samplePolling, Regular]) _
  refine ⟨_, _, rfl, rfl, ?_, ?_⟩
  · exact
      (wait_ends sampleDecoding 2 sampleFrame (fun _ => (0, false))
        (samplePolling.take 5) _ (regular _).2 rfl).1 8 false rfl
  · exact
      (wait_ends sampleDecoding 2 sampleFrame (fun _ => (0, false))
        samplePolling _ (regular _).1 rfl).2 9 false rfl

/-! ## After a frame that is given up -/

/-- The steps from the first packet of a frame to the end of the wait. -/
def Fills : PipelineLabel Packet → Prop
  | .receive _ | .handOver | .poll | .worker _ _ => True
  | _ => False

theorem Fills.apart (fills : Fills label) (workers : Workers) :
    label ≠ .clearOverlapped workers := by
  rintro rfl
  exact fills

/-- The count, with a number of packets of an earlier frame in flight. -/
def Owes
    (decoding : Decoding Packet Point) (owed : ℕ)
    (pipeline : Pipeline Packet Point) : Prop :=
  pipeline.computePacketNum + pipeline.workers.inFlight.length =
      pipeline.packetIndex + owed ∧
    pipeline.packetIndex < decoding.maxPacketPerFrame

def OwesAt
    (decoding : Decoding Packet Point) (owed : ℕ)
    (pipeline : Pipeline Packet Point) : RunPoint Packet → Prop
  | .receiving | .handing _ false | .polling _ _ | .complete _ _ =>
      pipeline.Owes decoding owed
  | .clearing _ => True
  | _ => False

variable {owed : ℕ}

theorem Owes.receive (owes : pipeline.Owes decoding owed)
    (point : pipeline.run = .receiving) (received : Received Packet) :
    (pipeline.receive decoding received).OwesAt decoding owed
      (pipeline.receive decoding received).run := by
  rcases received with ⟨packet, outcome, isTimeout, settings⟩
  cases outcome with
  | failed =>
      rw [Pipeline.receive, point]
      exact owes
  | split => exact owes
  | skipped | added =>
      simp only [Pipeline.receive]
      split
      · exact owes
      · rw [checkOverflow_of_room]
        · exact owes
        · exact owes.2

theorem Owes.handOver (owes : pipeline.Owes decoding owed)
    (packet : Packet) :
    (pipeline.handOver decoding packet false).OwesAt decoding owed
      (pipeline.handOver decoding packet false).run := by
  have entered :=
    (pipeline.workers.push_perm pipeline.packetIndex).length_eq
  rcases Nat.lt_or_ge (pipeline.packetIndex + 1)
      decoding.maxPacketPerFrame with room | full
  · rw [handOver_room packet false room]
    refine ⟨?_, room⟩
    have balance := owes.1
    rw [List.length_cons] at entered
    simp only [extend]
    omega
  · rw [handOver_overflow packet full]
    trivial

theorem Owes.work (owes : pipeline.Owes decoding owed)
    {workers : Workers} {reads : List Settings} {finished : Option ℕ}
    (same :
      pipeline.workers.inFlight.Perm (finished.toList ++ workers.inFlight)) :
    (pipeline.work decoding reads workers finished).Owes decoding owed := by
  have balance := owes.1
  have fewer := same.length_eq
  rw [List.length_append] at fewer
  refine ⟨?_, by simpa using owes.2⟩
  cases finished with
  | none =>
      rw [Option.toList_none, List.length_nil] at fewer
      simp only [Pipeline.work]
      omega
  | some index =>
      rw [Option.toList_some, List.length_singleton] at fewer
      simp only [Pipeline.work]
      omega

theorem OwesAt.work {point : RunPoint Packet}
    (owes : pipeline.OwesAt decoding owed point)
    {workers : Workers} {reads : List Settings} {finished : Option ℕ}
    (same :
      pipeline.Owes decoding owed →
        pipeline.workers.inFlight.Perm
          (finished.toList ++ workers.inFlight)) :
    (pipeline.work decoding reads workers finished).OwesAt decoding owed
      point := by
  cases point with
  | receiving | polling | complete => exact Owes.work owes (same owes)
  | handing packet first =>
      cases first with
      | true => exact owes.elim
      | false => exact Owes.work owes (same owes)
  | clearing => trivial
  | publishing | restarting | sleeping | zeroing => exact owes.elim

theorem Moves.owesAt
    (moves : pipeline.Moves decoding handleThreadCount label next)
    (fills : Fills label) (fits : pipeline.workers.Fits handleThreadCount)
    (few : decoding.maxPacketPerFrame + owed ≤ kPacketBufferSize)
    (owes : pipeline.OwesAt decoding owed pipeline.run) :
    next.OwesAt decoding owed next.run := by
  cases moves with
  | receive received point =>
      rw [point] at owes
      have settled :
          (pipeline.settle received.settings).Owes decoding owed := owes
      exact settled.receive point received
  | @handOver packet first point =>
      rw [point] at owes
      cases first with
      | true => exact owes.elim
      | false => exact Owes.handOver owes packet
  | pollAgain => exact owes
  | pollComplete point =>
      rw [point] at owes
      exact owes
  | setComputePacketNumToZero | publish | decodeAgain | clearPacketBuffer
  | clearOverlapped | update | giveUp => exact fills.elim
  | worker found advance =>
      rw [work_run]
      refine OwesAt.work owes fun here => advance.perm fits ?_
      have balance := here.1
      have room := here.2
      omega

/-- What a worker had taken when the count was cleared stays owed. -/
theorem owesAt_of_run
    {labels : List (PipelineLabel Packet)}
    (fills : ∀ label ∈ labels, Fills label)
    (few : decoding.maxPacketPerFrame + owed ≤ kPacketBufferSize)
    (fits : pipeline.workers.Fits handleThreadCount)
    (owes : pipeline.OwesAt decoding owed pipeline.run)
    (ran :
      (system decoding handleThreadCount).run pipeline labels = some last) :
    last.OwesAt decoding owed last.run := by
  induction labels generalizing pipeline with
  | nil =>
      cases ran
      exact owes
  | cons label rest induction =>
      rcases Option.bind_eq_some_iff.mp ran with ⟨next, stepped, ranRest⟩
      rw [List.forall_mem_cons] at fills
      have moves := step_moves stepped
      exact
        induction fills.2 (moves.fits (Fills.apart fills.1) fits)
          (moves.owesAt fills.1 fits few owes) ranRest

/--
If the count is cleared while packets of the frame given up are in flight, the
wait for the next frame ends exactly when as many packets are in flight as
were then: too early, and never once all packets are computed.
-/
theorem stale_wait
    (decoding : Decoding Packet Point) (handleThreadCount : ℕ)
    (frame : Frame Packet Point) (multiPoints : ℕ → Point)
    (before after : List (PipelineLabel Packet))
    (pipeline last : Pipeline Packet Point) (packet : Packet)
    (isTimeout : Bool)
    (regular :
      (system decoding handleThreadCount).Respects Regular
        (start handleThreadCount frame multiPoints) before)
    (ran :
      (system decoding handleThreadCount).run
        (start handleThreadCount frame multiPoints) before = some pipeline)
    (given : pipeline.run = .zeroing)
    (few :
      decoding.maxPacketPerFrame + pipeline.workers.inFlight.length ≤
        kPacketBufferSize)
    (fills : ∀ label ∈ after, Fills label)
    (ranAfter :
      (system decoding handleThreadCount).run pipeline (.giveUp :: after) =
        some last)
    (waits : last.run = .polling packet isTimeout) :
    (system decoding handleThreadCount).step last .poll =
        some { last with run := .complete packet isTimeout } ↔
      last.workers.inFlight.length = pipeline.workers.inFlight.length := by
  have invariant := (inLine_of_run regular ran).invariant
  have here := invariant.here
  rw [given] at here
  rcases Option.bind_eq_some_iff.mp ranAfter with ⟨next, stepped, ranRest⟩
  have owes : next.OwesAt decoding pipeline.workers.inFlight.length
      next.run := by
    cases step_moves stepped with
    | giveUp =>
        refine ⟨?_, ?_⟩
        · rw [here.packetIndex]
        · rw [here.packetIndex]
          exact Nat.zero_lt_of_lt decoding.several
  have kept :=
    owesAt_of_run fills few
      ((step_moves stepped).fits (by simp) invariant.fits) owes ranRest
  rw [waits] at kept
  have balance := kept.1
  have polled :
      (system decoding handleThreadCount).step last .poll =
          some { last with run := .complete packet isTimeout } ↔
        last.computePacketNum = last.packetIndex := by
    by_cases all : last.computePacketNum = last.packetIndex
    · simp [system, step, waits, all]
    · refine iff_of_false (fun same => ?_) all
      simp only [system, step, waits, if_neg all, Option.some.injEq] at same
      have point := congrArg Pipeline.run same
      rw [waits] at point
      cases point
  rw [polled]
  omega

/-- Three packets and no end, while the parser thread has the first. -/
def overflowSchedule : List (PipelineLabel ℕ) :=
  [.receive ⟨1, .added, false, [⟨1, 0⟩]⟩, .handOver, .worker .parserPop [],
    .receive ⟨2, .added, false, [⟨2, 0⟩]⟩, .handOver,
    .receive ⟨3, .added, false, [⟨3, 0⟩]⟩, .handOver, .clearPacketBuffer,
    .update]

/-- The next frame, whose packet is handed over as the old index is computed. -/
def staleSchedule : List (PipelineLabel ℕ) :=
  [.receive ⟨4, .added, false, [⟨4, 0⟩]⟩, .handOver,
    .worker .parserCompute [⟨4, 0⟩], .receive ⟨5, .split, false, [⟨5, 0⟩]⟩]

theorem stale_wait_sample :
    ∃ pipeline last,
      (system sampleDecoding 1).run
            (start 1 sampleFrame fun _ => (0, false)) overflowSchedule =
          some pipeline ∧
        (system sampleDecoding 1).run pipeline (.giveUp :: staleSchedule) =
            some last ∧
          ((system sampleDecoding 1).step last .poll =
              some { last with run := .complete 5 false } ↔
            last.workers.inFlight.length =
              pipeline.workers.inFlight.length) :=
  ⟨_, _, rfl, rfl,
    stale_wait sampleDecoding 1 sampleFrame (fun _ => (0, false))
      overflowSchedule staleSchedule _ _ 5 false
      (StepSystem.respects_of_forall _
        (by simp [overflowSchedule, Regular]) _)
      rfl rfl (by decide) (by simp [staleSchedule, Fills]) rfl rfl⟩

end Pipeline

end Go2Navigation.Lidar
