import Go2Navigation.Foundation.Tally
import Go2Navigation.Lidar.Frame

/-!
# The threads that compute points

The parser thread takes packet indices from `decoded_packets_buffer_`.  With
fewer than two handler threads it computes the points itself, otherwise it
deals the indices out to their queues in turn.  A packet index is in flight
until its points are computed and counted.
-/

namespace Go2Navigation.Lidar

open Go2Navigation.Foundation

/-- The queues and what each thread has taken from them. -/
structure Workers where
  decodedPacketsBuffer : List ℕ
  parser : Option ℕ
  nUDPCount : ℕ
  handleThreadPacketBuffer : List (List ℕ)
  handlers : List (Option ℕ)
deriving DecidableEq

inductive WorkerLabel where
  | parserPop
  | parserDispatch
  | parserCompute
  | handlerPop (nThreadNum : ℕ)
  | handlerCompute (nThreadNum : ℕ)
deriving DecidableEq

namespace Workers

/-- The oldest index is dropped from a queue that is too long. -/
def evict (buffer : List ℕ) : List ℕ :=
  if kPacketBufferSize < buffer.length then buffer.tail else buffer

theorem evict_of_length_lt {buffer : List ℕ} {index : ℕ}
    (short : buffer.length < kPacketBufferSize) :
    evict (buffer ++ [index]) = buffer ++ [index] := by
  rw [evict, if_neg]
  rw [List.length_append, List.length_singleton]
  omega

/-- The parser thread appends to the queue whose turn it is. -/
def dispatch
    (handleThreadCount : ℕ) (workers : Workers) (decodedPacketIndex : ℕ) :
    Workers :=
  let nUDPCount := workers.nUDPCount % handleThreadCount
  let buffer := workers.handleThreadPacketBuffer.getD nUDPCount []
  { workers with
    parser := none
    handleThreadPacketBuffer :=
      workers.handleThreadPacketBuffer.set nUDPCount
        (evict (buffer ++ [decodedPacketIndex]))
    nUDPCount := nUDPCount + 1 }

/-- A step, with the packet index whose computation it ends. -/
def step (handleThreadCount : ℕ) (workers : Workers) :
    WorkerLabel → Option (Workers × Option ℕ)
  | .parserPop =>
      match workers.parser, workers.decodedPacketsBuffer with
      | none, decodedPacketIndex :: rest =>
          some
            ({ workers with
                parser := some decodedPacketIndex
                decodedPacketsBuffer := rest },
              none)
      | _, _ => none
  | .parserDispatch =>
      if handleThreadCount < 2 then none
      else
        workers.parser.map fun decodedPacketIndex =>
          (workers.dispatch handleThreadCount decodedPacketIndex, none)
  | .parserCompute =>
      if handleThreadCount < 2 then
        workers.parser.map fun decodedPacketIndex =>
          ({ workers with parser := none }, some decodedPacketIndex)
      else none
  | .handlerPop nThreadNum =>
      match workers.handlers[nThreadNum]?,
        workers.handleThreadPacketBuffer[nThreadNum]? with
      | some none, some (decodedPacketIndex :: rest) =>
          some
            ({ workers with
                handlers :=
                  workers.handlers.set nThreadNum (some decodedPacketIndex)
                handleThreadPacketBuffer :=
                  workers.handleThreadPacketBuffer.set nThreadNum rest },
              none)
      | _, _ => none
  | .handlerCompute nThreadNum =>
      match workers.handlers[nThreadNum]? with
      | some (some decodedPacketIndex) =>
          some
            ({ workers with handlers := workers.handlers.set nThreadNum none },
              some decodedPacketIndex)
      | _ => none

/-- `push_back` on `decoded_packets_buffer_`. -/
def push (packetIndex : ℕ) (workers : Workers) : Workers :=
  { workers with
    decodedPacketsBuffer := workers.decodedPacketsBuffer ++ [packetIndex] }

/-- A single thread computes the points without a queue of its own. -/
def queueCount (handleThreadCount : ℕ) : ℕ :=
  if 1 < handleThreadCount then handleThreadCount else 0

/--
What `ClearPacketBuffer` clears next: `decoded_packets_buffer_`, with its lock,
and then the queues of the handler threads, without theirs.
-/
def clearNext (cleared : ℕ) (workers : Workers) : Workers :=
  match cleared with
  | 0 => { workers with decodedPacketsBuffer := [] }
  | i + 1 =>
      { workers with
        handleThreadPacketBuffer :=
          workers.handleThreadPacketBuffer.set i [] }

/-- As the threads are started. -/
def start (handleThreadCount : ℕ) : Workers where
  decodedPacketsBuffer := []
  parser := none
  nUDPCount := 0
  handleThreadPacketBuffer :=
    List.replicate (queueCount handleThreadCount) []
  handlers := List.replicate (queueCount handleThreadCount) none

/-- The indices not yet counted. -/
def inFlight (workers : Workers) : List ℕ :=
  workers.parser.toList ++ workers.decodedPacketsBuffer ++
    (workers.handleThreadPacketBuffer.flatMap id ++
      workers.handlers.flatMap Option.toList)

/-- `SetThreadNum` makes a queue for each handler thread. -/
structure Fits (handleThreadCount : ℕ) (workers : Workers) : Prop where
  queues :
    workers.handleThreadPacketBuffer.length = queueCount handleThreadCount
  handlers : workers.handlers.length = queueCount handleThreadCount

variable {handleThreadCount : ℕ} {workers next : Workers}
  {label : WorkerLabel} {finished : Option ℕ}

theorem start_fits : (start handleThreadCount).Fits handleThreadCount :=
  ⟨List.length_replicate, List.length_replicate⟩

@[simp]
theorem inFlight_start : (start handleThreadCount).inFlight = [] := by
  simp [inFlight, start]

theorem Fits.push (fits : workers.Fits handleThreadCount)
    (packetIndex : ℕ) : (workers.push packetIndex).Fits handleThreadCount :=
  ⟨fits.queues, fits.handlers⟩

theorem push_perm (packetIndex : ℕ) (workers : Workers) :
    (packetIndex :: workers.inFlight).Perm
      (workers.push packetIndex).inFlight := by
  refine List.perm_iff_count.mpr fun other => ?_
  simp only [inFlight, push, List.count_append, List.count_cons,
    List.count_nil]
  omega

theorem Fits.clearNext (fits : workers.Fits handleThreadCount)
    (cleared : ℕ) : (workers.clearNext cleared).Fits handleThreadCount := by
  cases cleared with
  | zero => exact ⟨fits.queues, fits.handlers⟩
  | succ i => exact ⟨(List.length_set ..).trans fits.queues, fits.handlers⟩

theorem flatMap_set_nil_sublist (queues : List (List ℕ)) (i : ℕ) :
    ((queues.set i []).flatMap id).Sublist (queues.flatMap id) := by
  induction queues generalizing i with
  | nil => exact List.Sublist.refl _
  | cons queue rest induction =>
      cases i with
      | zero =>
          simp only [List.set_cons_zero, List.flatMap_cons, id_eq,
            List.nil_append]
          exact List.sublist_append_right _ _
      | succ i =>
          simp only [List.set_cons_succ, List.flatMap_cons]
          exact (induction i).append_left _

/-- A queue that is cleared loses what was in it, and nothing else moves. -/
theorem clearNext_sublist (cleared : ℕ) (workers : Workers) :
    (workers.clearNext cleared).inFlight.Sublist workers.inFlight := by
  cases cleared with
  | zero =>
      exact
        List.Sublist.append_right
          (List.Sublist.append_left (List.nil_sublist _) _) _
  | succ i =>
      exact
        List.Sublist.append_left
          (List.Sublist.append_right (flatMap_set_nil_sublist _ i) _) _

/-- What a step of each kind does. -/
inductive Advance (handleThreadCount : ℕ) (workers : Workers) :
    WorkerLabel → Workers → Option ℕ → Prop
  | parserPop {index : ℕ} {rest : List ℕ}
      (idle : workers.parser = none)
      (queued : workers.decodedPacketsBuffer = index :: rest) :
      Advance handleThreadCount workers .parserPop
        { workers with parser := some index, decodedPacketsBuffer := rest }
        none
  | parserDispatch {index : ℕ} (several : 1 < handleThreadCount)
      (taken : workers.parser = some index) :
      Advance handleThreadCount workers .parserDispatch
        (workers.dispatch handleThreadCount index) none
  | parserCompute {index : ℕ} (alone : handleThreadCount < 2)
      (taken : workers.parser = some index) :
      Advance handleThreadCount workers .parserCompute
        { workers with parser := none } (some index)
  | handlerPop {thread index : ℕ} {rest : List ℕ}
      (idle : workers.handlers[thread]? = some none)
      (queued :
        workers.handleThreadPacketBuffer[thread]? = some (index :: rest)) :
      Advance handleThreadCount workers (.handlerPop thread)
        { workers with
          handlers := workers.handlers.set thread (some index)
          handleThreadPacketBuffer :=
            workers.handleThreadPacketBuffer.set thread rest }
        none
  | handlerCompute {thread index : ℕ}
      (taken : workers.handlers[thread]? = some (some index)) :
      Advance handleThreadCount workers (.handlerCompute thread)
        { workers with handlers := workers.handlers.set thread none }
        (some index)

theorem step_cases
    (stepped : workers.step handleThreadCount label = some (next, finished)) :
    Advance handleThreadCount workers label next finished := by
  cases label with
  | parserPop =>
      simp only [step] at stepped
      split at stepped
      · next index rest idle queued =>
        cases stepped
        exact .parserPop idle queued
      · cases stepped
  | parserDispatch =>
      simp only [step] at stepped
      split at stepped
      · cases stepped
      · next several =>
        rcases Option.map_eq_some_iff.mp stepped with ⟨index, taken, same⟩
        cases same
        exact .parserDispatch (by omega) taken
  | parserCompute =>
      simp only [step] at stepped
      split at stepped
      · next alone =>
        rcases Option.map_eq_some_iff.mp stepped with ⟨index, taken, same⟩
        cases same
        exact .parserCompute alone taken
      · cases stepped
  | handlerPop thread =>
      simp only [step] at stepped
      split at stepped
      · next index rest idle queued =>
        cases stepped
        exact .handlerPop idle queued
      · cases stepped
  | handlerCompute thread =>
      simp only [step] at stepped
      split at stepped
      · next index taken =>
        cases stepped
        exact .handlerCompute taken
      · cases stepped

theorem Advance.fits
    (advance : Advance handleThreadCount workers label next finished)
    (fits : workers.Fits handleThreadCount) : next.Fits handleThreadCount := by
  cases advance with
  | parserPop | parserCompute => exact ⟨fits.queues, fits.handlers⟩
  | parserDispatch =>
      exact ⟨by rw [dispatch, List.length_set, fits.queues], fits.handlers⟩
  | handlerPop =>
      exact
        ⟨by rw [List.length_set, fits.queues],
          by rw [List.length_set, fits.handlers]⟩
  | handlerCompute =>
      exact ⟨fits.queues, by rw [List.length_set, fits.handlers]⟩

/-- The queue whose turn it is exists. -/
theorem Fits.exists_queue
    (fits : workers.Fits handleThreadCount) (several : 1 < handleThreadCount) :
    ∃ queue,
      workers.handleThreadPacketBuffer[
          workers.nUDPCount % handleThreadCount]? = some queue ∧
        workers.handleThreadPacketBuffer.getD
          (workers.nUDPCount % handleThreadCount) [] = queue := by
  have inside :
      workers.nUDPCount % handleThreadCount <
        workers.handleThreadPacketBuffer.length := by
    rw [fits.queues, queueCount, if_pos several]
    exact Nat.mod_lt _ (by omega)
  have found := List.getElem?_eq_getElem inside
  refine ⟨_, found, ?_⟩
  rw [List.getD_eq_getElem?_getD, found, Option.getD_some]

theorem length_queue_le {thread : ℕ} {queue : List ℕ}
    (found : workers.handleThreadPacketBuffer[thread]? = some queue) :
    queue.length ≤ (workers.handleThreadPacketBuffer.flatMap id).length := by
  rw [List.flatMap_id]
  exact
    (List.sublist_flatten_of_mem (List.mem_of_getElem? found)).length_le

/-- Nothing in flight is lost, unless a queue is too long. -/
theorem Advance.perm
    (advance : Advance handleThreadCount workers label next finished)
    (fits : workers.Fits handleThreadCount)
    (room : workers.inFlight.length ≤ kPacketBufferSize) :
    workers.inFlight.Perm (finished.toList ++ next.inFlight) := by
  cases advance with
  | parserPop idle queued => simp [inFlight, idle, queued]
  | @parserDispatch index several taken =>
      rcases fits.exists_queue several with ⟨queue, found, read⟩
      have short := length_queue_le found
      simp only [inFlight, taken, Option.toList_some, List.length_append,
        List.length_singleton] at room
      refine List.perm_iff_count.mpr fun other => ?_
      have entered :=
        (flatMap_set_perm id found (queue ++ [index])).count_eq other
      simp only [dispatch, read, evict_of_length_lt
        (by omega : queue.length < kPacketBufferSize), id_eq, taken,
        List.count_append, Option.toList_some, Option.toList_none,
        List.count_nil, List.count_cons, inFlight] at entered ⊢
      omega
  | parserCompute alone taken => simp [inFlight, taken]
  | @handlerPop thread index rest idle queued =>
      refine List.perm_iff_count.mpr fun other => ?_
      have left :=
        (flatMap_set_perm id queued rest).count_eq other
      have entered :=
        (flatMap_set_perm Option.toList idle (some index)).count_eq other
      simp only [id_eq, List.count_append, Option.toList_none,
        List.count_nil, Option.toList_some, List.count_cons,
        inFlight] at left entered ⊢
      omega
  | @handlerCompute thread index taken =>
      refine List.perm_iff_count.mpr fun other => ?_
      have left :=
        (flatMap_set_perm Option.toList taken none).count_eq other
      simp only [List.count_append, Option.toList_none, List.count_nil,
        Option.toList_some, List.count_cons, inFlight] at left ⊢
      omega

/-! ## Progress -/

/-- How many steps the indices in flight still need at most. -/
def rank (workers : Workers) : ℕ :=
  4 * workers.decodedPacketsBuffer.length +
    3 * workers.parser.toList.length +
    2 * (workers.handleThreadPacketBuffer.flatMap id).length +
    (workers.handlers.flatMap Option.toList).length

theorem rank_le : workers.rank ≤ 4 * workers.inFlight.length := by
  simp only [rank, inFlight, List.length_append]
  omega

theorem length_evict_le (buffer : List ℕ) :
    (evict buffer).length ≤ buffer.length := by
  rw [evict]
  split
  · rw [List.length_tail]
    exact Nat.sub_le _ _
  · exact le_rfl

theorem Advance.rank_lt
    (advance : Advance handleThreadCount workers label next finished)
    (fits : workers.Fits handleThreadCount) : next.rank < workers.rank := by
  cases advance with
  | parserPop idle queued =>
      simp only [rank, idle, queued, List.length_cons, Option.toList_some,
        Option.toList_none, List.length_nil]
      omega
  | @parserDispatch index several taken =>
      rcases fits.exists_queue several with ⟨queue, found, read⟩
      have entered :=
        (flatMap_set_perm id found (evict (queue ++ [index]))).length_eq
      have short := length_evict_le (queue ++ [index])
      simp only [id_eq, List.length_append,
        List.length_singleton] at entered short
      simp only [rank, dispatch, read, taken, Option.toList_some,
        Option.toList_none, List.length_nil, List.length_singleton]
      omega
  | parserCompute alone taken =>
      simp only [rank, taken, Option.toList_some, Option.toList_none,
        List.length_nil, List.length_singleton]
      omega
  | @handlerPop thread index rest idle queued =>
      have left := (flatMap_set_perm id queued rest).length_eq
      have entered :=
        (flatMap_set_perm Option.toList idle (some index)).length_eq
      simp only [id_eq, List.length_append, List.length_cons,
        Option.toList_none, Option.toList_some,
        List.length_nil] at left entered
      simp only [rank]
      omega
  | handlerCompute taken =>
      have left := (flatMap_set_perm Option.toList taken none).length_eq
      simp only [List.length_append, Option.toList_none, Option.toList_some,
        List.length_singleton, List.length_nil] at left
      simp only [rank]
      omega

/-- A handler with an index, or with one in its queue, can go on. -/
theorem exists_handler_step {thread : ℕ} {handler : Option ℕ}
    {queue : List ℕ} (here : workers.handlers[thread]? = some handler)
    (found : workers.handleThreadPacketBuffer[thread]? = some queue)
    (busy : handler ≠ none ∨ queue ≠ []) :
    ∃ label, (workers.step handleThreadCount label).isSome := by
  cases handler with
  | some index => exact ⟨.handlerCompute thread, by simp [step, here]⟩
  | none =>
      cases queue with
      | nil => simp at busy
      | cons index rest =>
          exact ⟨.handlerPop thread, by simp [step, here, found]⟩

/-- As long as an index is in flight, some thread can go on. -/
theorem exists_step
    (fits : workers.Fits handleThreadCount) (busy : workers.inFlight ≠ []) :
    ∃ label, (workers.step handleThreadCount label).isSome := by
  rcases List.exists_mem_of_ne_nil _ busy with ⟨index, member⟩
  have sameLength := fits.queues.trans fits.handlers.symm
  cases taken : workers.parser with
  | some taker =>
      rcases Nat.lt_or_ge handleThreadCount 2 with alone | several
      · exact ⟨.parserCompute, by simp [step, alone, taken]⟩
      · exact
          ⟨.parserDispatch, by simp [step, Nat.not_lt_of_le several, taken]⟩
  | none =>
      simp only [inFlight, taken, Option.toList_none, List.nil_append,
        List.mem_append, List.mem_flatMap, id_eq] at member
      rcases member with queued | ⟨queue, found, inside⟩ |
        ⟨handler, found, inside⟩
      · rcases List.exists_cons_of_ne_nil (List.ne_nil_of_mem queued) with
          ⟨first, rest, same⟩
        exact ⟨.parserPop, by simp [step, taken, same]⟩
      · rcases List.getElem?_of_mem found with ⟨thread, here⟩
        have bound := (List.getElem?_eq_some_iff.mp here).1
        exact
          exists_handler_step
            (List.getElem?_eq_getElem (sameLength ▸ bound)) here
            (.inr (List.ne_nil_of_mem inside))
      · rcases List.getElem?_of_mem found with ⟨thread, here⟩
        have bound := (List.getElem?_eq_some_iff.mp here).1
        refine
          exists_handler_step here
            (List.getElem?_eq_getElem (sameLength ▸ bound)) (.inl ?_)
        rintro rfl
        simp at inside

end Workers

end Go2Navigation.Lidar
