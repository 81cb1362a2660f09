import Go2Navigation.Bridge.Interleaving

/-!
# How a shutdown ends

Once the context is invalid, a schedule which starts no further callback is
bounded, and stops only where both threads have run to their end: there is no
deadlock on the mutex.  The node is destroyed on the way, once, by the thread
which drops the last reference, while the other can no longer use it; the
destructor's stop is the last command handed to `publish`.
-/

namespace Go2Navigation.Bridge

open Go2Navigation.Foundation

/-! ## The end of a shutdown -/

/-- Whether a step starts a callback. -/
def Label.startsCallback : Label → Bool
  | .deliverCmdVel _ => true
  | .fireTimer => true
  | _ => false

def StopPhase.rank : StopPhase → ℕ
  | .acquire => 3
  | .publish => 2
  | .stamp => 1

/-- Steps which the executor thread has at most left, if no callback starts. -/
def ExecutorPoint.rank : ExecutorPoint → ℕ
  | .cmdVel .receive _ => 12
  | .cmdVel .clear _ => 11
  | .cmdVel .acquire _ => 10
  | .cmdVel .stamp _ => 9
  | .cmdVel .publish _ => 8
  | .watchdog .readClock => 15
  | .watchdog (.acquire _) => 14
  | .watchdog (.copy _) => 13
  | .watchdog (.decide _ _ _) => 12
  | .watchdog (.exchange _ _) => 11
  | .watchdog (.stop phase) => phase.rank + 7
  | .watchdog .clear => 8
  | .spinning => 7
  | .returned => 6
  | .shutDown => 5
  | .destroying phase => phase.rank + 1
  | .leaving => 1
  | .exited => 0

/-- Steps which the signal thread has at most left. -/
def SignalPoint.rank : SignalPoint → ℕ
  | .waiting => 9
  | .invalidated => 8
  | .sendingStop phase => phase.rank + 4
  | .flushing => 4
  | .destroying phase => phase.rank
  | .finished => 0

def System.rank (system : System) : ℕ :=
  system.executor.rank + system.signal.rank

theorem System.rank_decreases {system next : System} {label : Label}
    (settling : label.startsCallback = false)
    (stepped : system.step label = some next) :
    next.rank < system.rank := by
  rcases System.step_cases stepped with executor | signal
  · rw [rank, rank, executor.signal_eq]
    cases executor with
    | deliverCmdVel => cases settling
    | fireTimer => cases settling
    | _ => simp [ExecutorPoint.rank, StopPhase.rank, *]
  · rw [rank, rank, signal.executor_eq]
    cases signal <;> simp [SignalPoint.rank, StopPhase.rank, *]

/-- Once the signal thread has left its wait, the context is invalid, and before, not. -/
def System.ContextExact (system : System) : Prop :=
  system.contextValid = true ↔ system.signal = .waiting

theorem System.ContextExact.step {system next : System} {label : Label}
    (exact : system.ContextExact)
    (stepped : system.step label = some next) : next.ContextExact := by
  have effect := (step_effect stepped).valid
  rcases System.step_cases stepped with executor | signal
  · have keeps : label ≠ .invalidate := by
      rintro rfl
      cases executor
    rw [ContextExact, effect, executor.signal_eq]
    simpa [ContextExact, keeps] using exact
  · cases signal with
    | invalidate => simp [ContextExact]
    | _ => simp_all [ContextExact, System.stampStop]

/-- The step which takes the executor thread on from a point. -/
def ExecutorPoint.pending : ExecutorPoint → Label
  | .spinning => .spinReturns
  | .cmdVel .publish msg => .publishCmdVel msg
  | .watchdog (.stop .publish) => .publishStop .executor
  | .destroying .publish => .publishStop .executor
  | _ => .advance .executor 0

/-- The step which takes the signal thread on from a point. -/
def SignalPoint.pending : SignalPoint → Label
  | .waiting => .invalidate
  | .sendingStop .publish => .publishStop .signal
  | .destroying .publish => .publishStop .signal
  | _ => .advance .signal 0

theorem ExecutorPoint.pending_settling (point : ExecutorPoint) :
    point.pending.startsCallback = false := by
  cases point with
  | cmdVel phase msg => cases phase <;> rfl
  | watchdog phase =>
      cases phase with
      | stop phase => cases phase <;> rfl
      | _ => rfl
  | destroying phase => cases phase <;> rfl
  | _ => rfl

theorem SignalPoint.pending_settling (point : SignalPoint) :
    point.pending.startsCallback = false := by
  cases point with
  | sendingStop phase => cases phase <;> rfl
  | destroying phase => cases phase <;> rfl
  | _ => rfl

namespace System

/-- With the context invalid, only the mutex can block the executor thread. -/
theorem executor_isSome {system : System}
    (invalid : system.contextValid = false)
    (running : system.executor ≠ .exited)
    (able : system.mutex = none ∨ system.executor.locked = true) :
    (system.step system.executor.pending).isSome = true := by
  rcases system with ⟨node, mutex, contextValid, delivered, point, signal⟩
  simp only at invalid running able
  cases point with
  | cmdVel phase msg =>
      cases phase <;>
        simp_all [ExecutorPoint.pending, ExecutorPoint.locked, step,
          advanceExecutor, advanceCmdVel, acquire]
  | watchdog phase =>
      cases phase with
      | decide => 
          simp only [ExecutorPoint.pending, step, advanceExecutor,
            advanceWatchdog]
          split <;> rfl
      | stop phase =>
          cases phase <;>
            simp_all [ExecutorPoint.pending, ExecutorPoint.locked,
              StopPhase.locked, step, advanceExecutor, advanceWatchdog,
              acquire, publishStop]
      | _ =>
          simp_all [ExecutorPoint.pending, ExecutorPoint.locked, step,
            advanceExecutor, advanceWatchdog, acquire]
  | destroying phase =>
      cases phase <;>
        simp_all [ExecutorPoint.pending, ExecutorPoint.locked,
          StopPhase.locked, step, advanceExecutor, acquire, publishStop]
  | _ => simp_all [ExecutorPoint.pending, step, advanceExecutor]

/-- Past its wait, only the mutex can block the signal thread. -/
theorem signal_isSome {system : System}
    (left : system.signal ≠ .waiting) (running : system.signal ≠ .finished)
    (able : system.mutex = none ∨ system.signal.locked = true) :
    (system.step system.signal.pending).isSome = true := by
  rcases system with ⟨node, mutex, contextValid, delivered, executor, point⟩
  simp only at left running able
  cases point with
  | sendingStop phase =>
      cases phase <;>
        simp_all [SignalPoint.pending, SignalPoint.locked,
          StopPhase.locked, step, advanceSignal, acquire, publishStop]
  | destroying phase =>
      cases phase <;>
        simp_all [SignalPoint.pending, SignalPoint.locked,
          StopPhase.locked, step, advanceSignal, acquire, publishStop]
  | _ => simp_all [SignalPoint.pending, step, advanceSignal]

theorem invalid_of_run {system last : System} {labels : List Label}
    (invalid : system.contextValid = false)
    (ran : system.run labels = some last) : last.contextValid = false := by
  induction labels generalizing system with
  | nil =>
      cases ran
      exact invalid
  | cons label rest induction =>
      rcases Option.bind_eq_some_iff.mp ran with ⟨next, stepped, ranRest⟩
      refine induction ?_ ranRest
      rw [(step_effect stepped).valid, invalid]
      rfl

/-- Both threads have run to their end. -/
def Ended (system : System) : Prop :=
  system.executor = .exited ∧ system.signal = .finished

/-- There is no deadlock: the mutex is free, or its holder can go on. -/
theorem exists_settling_step {system : System}
    (exact : system.MutexExact) (context : system.ContextExact)
    (invalid : system.contextValid = false) (running : ¬ system.Ended) :
    ∃ label, label.startsCallback = false ∧
      (system.step label).isSome = true := by
  have left : system.signal ≠ .waiting := by
    intro waiting
    rw [context.mpr waiting] at invalid
    cases invalid
  cases held : system.mutex with
  | none =>
      by_cases exited : system.executor = .exited
      · have unfinished : system.signal ≠ .finished :=
          fun finished => running ⟨exited, finished⟩
        exact
          ⟨_, system.signal.pending_settling,
            signal_isSome left unfinished (Or.inl held)⟩
      · exact
          ⟨_, system.executor.pending_settling,
            executor_isSome invalid exited (Or.inl held)⟩
  | some thread =>
      have inside := (exact thread).mp held
      cases thread with
      | executor =>
          have unfinished : system.executor ≠ .exited := by
            intro exited
            rw [inCriticalSection, exited] at inside
            cases inside
          exact
            ⟨_, system.executor.pending_settling,
              executor_isSome invalid unfinished (Or.inr inside)⟩
      | signal =>
          have unfinished : system.signal ≠ .finished := by
            intro finished
            rw [inCriticalSection, finished] at inside
            cases inside
          exact
            ⟨_, system.signal.pending_settling,
              signal_isSome left unfinished (Or.inr inside)⟩

theorem length_add_rank_le {system last : System} {labels : List Label}
    (settling : ∀ label ∈ labels, label.startsCallback = false)
    (ran : system.run labels = some last) :
    labels.length + last.rank ≤ system.rank := by
  rw [System.run_eq] at ran
  exact
    StepSystem.length_add_measure_le
      (fun _ _ _ (_ : True) _ _ => trivial)
      (fun _ _ _ _ decreasing stepped => rank_decreases decreasing stepped)
      trivial settling ran

theorem rank_le_of_invalid {system : System}
    (context : system.ContextExact)
    (invalid : system.contextValid = false) : system.rank ≤ 23 := by
  have executorBound : system.executor.rank ≤ 15 := by
    cases system.executor with
    | cmdVel phase msg => cases phase <;> simp [ExecutorPoint.rank]
    | watchdog phase =>
        cases phase with
        | stop phase =>
            cases phase <;> simp [ExecutorPoint.rank, StopPhase.rank]
        | _ => simp [ExecutorPoint.rank]
    | destroying phase =>
        cases phase <;> simp [ExecutorPoint.rank, StopPhase.rank]
    | _ => simp [ExecutorPoint.rank]
  have signalBound : system.signal.rank ≤ 8 := by
    cases here : system.signal with
    | waiting =>
        rw [context.mpr here] at invalid
        cases invalid
    | sendingStop phase =>
        cases phase <;> simp [SignalPoint.rank, StopPhase.rank]
    | destroying phase =>
        cases phase <;> simp [SignalPoint.rank, StopPhase.rank]
    | _ => simp [SignalPoint.rank]
  exact Nat.add_le_add executorBound signalBound

theorem contextExact_of_run
    {parameters : Parameters} {environment : Environment}
    {labels : List Label} {reached : System}
    (ran :
      (System.start parameters environment).run labels = some reached) :
    reached.ContextExact := by
  rw [System.run_eq] at ran
  refine
    StepSystem.preserved_by_run
      (fun _ _ _ exact stepped => exact.step stepped) ?_ ran
  simp [ContextExact, System.start]

end System

/--
A shutdown ends.  From every state reachable with an invalid context, whatever
the order of the steps, at most 23 steps start no further callback, and where
no such step is possible both threads have run to their end.
-/
theorem shutdown_terminates
    (parameters : Parameters) (environment : Environment)
    (labels : List Label) (reached : System)
    (ran :
      (System.start parameters environment).run labels = some reached)
    (invalid : reached.contextValid = false)
    (later : List Label) (last : System)
    (settling : ∀ label ∈ later, label.startsCallback = false)
    (ranLater : reached.run later = some last) :
    later.length ≤ 23 ∧
      ((∀ label, label.startsCallback = false → last.step label = none) →
        last.Ended) := by
  have context := System.contextExact_of_run ran
  constructor
  · have start := System.rank_le_of_invalid context invalid
    have bounded := System.length_add_rank_le settling ranLater
    omega
  · intro stuck
    have ranAll :
        (System.start parameters environment).run (labels ++ later) =
          some last := by
      rw [System.run_append, ran]
      exact ranLater
    have invalidLast := System.invalid_of_run invalid ranLater
    by_contra running
    rcases
        System.exists_settling_step (System.mutexExact_of_run ranAll)
          (System.contextExact_of_run ranAll) invalidLast running with
      ⟨label, quiet, possible⟩
    rw [stuck label quiet] at possible
    cases possible

/-- The context is invalidated between callbacks, and both threads run on. -/
theorem shutdown_terminates_invalidated :
    ∃ reached last,
      defaultStart.run [.invalidate] = some reached ∧
        reached.run (System.shutdownSchedule 0).tail = some last ∧
          (System.shutdownSchedule 0).tail.length ≤ 23 ∧
            ((∀ label, label.startsCallback = false →
                last.step label = none) →
              last.Ended) := by
  have settling :
      ∀ label ∈ (System.shutdownSchedule 0).tail,
        label.startsCallback = false := by
    simp [System.shutdownSchedule, Label.startsCallback]
  have ranLater := @System.run_shutdownSchedule defaultStart 0 rfl rfl rfl
  exact
    ⟨_, _, rfl, ranLater,
      shutdown_terminates defaultParameters ⟨0, 0, .returns⟩
        [.invalidate]
        { defaultStart with contextValid := false, signal := .invalidated }
        rfl rfl (System.shutdownSchedule 0).tail _ settling ranLater⟩

/-! ## The end of the node -/

/-- Who hands a command to `publish`. -/
inductive Source where
  | cmdVel
  | watchdog
  | onShutdown
  | destructor
deriving DecidableEq

/-- Who publishes at a step, if it publishes. -/
def System.sources (system : System) : Label → List Source
  | .publishCmdVel _ => [.cmdVel]
  | .publishStop .executor =>
      match system.executor with
      | .destroying _ => [.destructor]
      | _ => [.watchdog]
  | .publishStop .signal =>
      match system.signal with
      | .destroying _ => [.destructor]
      | _ => [.onShutdown]
  | _ => []

/-- Who publishes in a schedule, in order. -/
def System.publishers (system : System) (labels : List Label) :
    List Source :=
  interleaving.observations System.sources system labels

/-- Spinning or inside a callback. -/
def ExecutorPoint.spins : ExecutorPoint → Bool
  | .spinning => true
  | .cmdVel _ _ => true
  | .watchdog _ => true
  | _ => false

/-- A thread in the destructor is alone with the node. -/
structure Ownership (system : System) : Prop where
  waiting : system.signal = .waiting → system.executor.spins = true
  executorDestroys :
    ∀ phase, system.executor = .destroying phase →
      system.signal = .invalidated ∨ system.signal = .finished
  signalDestroys :
    ∀ phase, system.signal = .destroying phase →
      system.executor = .leaving ∨ system.executor = .exited

namespace Ownership

theorem executorStep {system next : System} {label : Label}
    (owned : Ownership system) (context : system.ContextExact)
    (stepped : ExecutorStep system label next) : Ownership next := by
  have waiting := owned.waiting
  have signalDestroys := owned.signalDestroys
  have executorDestroys := owned.executorDestroys
  cases stepped with
  | spinReturns here invalid =>
      have left : system.signal ≠ .waiting := by
        intro waits
        rw [context.mpr waits] at invalid
        cases invalid
      exact
        ⟨fun waits => (left waits).elim, by simp,
          by simpa [here] using signalDestroys⟩
  | releaseLast now here last =>
      refine ⟨by simpa [here, ExecutorPoint.spins] using waiting, ?_, ?_⟩
      · intro phase _
        cases signal : system.signal with
        | waiting => simp [signal, here, ExecutorPoint.spins] at waiting
        | destroying inner =>
            simpa [here] using signalDestroys inner signal
        | _ => simp_all [SignalPoint.holdsNode]
      · simpa [here] using signalDestroys
  | stampDestructor now here =>
      exact
        ⟨by simpa [here, System.stampStop, ExecutorPoint.spins] using
            waiting, by simp [System.stampStop],
          by simp [System.stampStop]⟩
  | lockDestructor now here free =>
      exact
        ⟨by simpa [here, ExecutorPoint.spins] using waiting,
          fun _ _ => executorDestroys _ here,
          by simpa [here] using signalDestroys⟩
  | publishDestructor here =>
      exact
        ⟨by simpa [here, ExecutorPoint.spins] using waiting,
          by simpa using executorDestroys _ here,
          by simpa [here] using signalDestroys⟩
  | _ =>
      refine ⟨?_, ?_, ?_⟩ <;>
        simp_all [ExecutorPoint.spins, System.stampStop]

theorem signalStep {system next : System} {label : Label}
    (owned : Ownership system)
    (stepped : SignalStep system label next) : Ownership next := by
  have executorDestroys := owned.executorDestroys
  have signalDestroys := owned.signalDestroys
  cases stepped with
  | releaseLast now here last =>
      refine ⟨by simp, ?_, ?_⟩
      · intro phase destroys
        simpa [here] using executorDestroys phase destroys
      · intro phase _
        cases point : system.executor with
        | destroying inner =>
            simpa [here] using executorDestroys inner point
        | _ => simp_all [ExecutorPoint.holdsNode]
  | takeShared now here owned =>
      refine ⟨by simp, ?_, by simp⟩
      intro phase destroys
      rw [show system.executor = .destroying phase from destroys] at owned
      cases owned
  | lockDestructor now here free =>
      exact
        ⟨by simp, by simpa [here] using executorDestroys,
          fun _ _ => signalDestroys _ here⟩
  | publishDestructor here =>
      exact
        ⟨by simp, by simpa [here] using executorDestroys,
          by simpa using signalDestroys _ here⟩
  | _ =>
      refine ⟨?_, ?_, ?_⟩ <;> simp_all [System.stampStop]

end Ownership

/-- Whether the destructor has published its stop. -/
def System.destructorDone (system : System) : Bool :=
  match system.executor with
  | .destroying phase => decide (phase = .stamp)
  | .leaving | .exited =>
      match system.signal with
      | .sendingStop _ => false
      | .flushing => false
      | .destroying phase => decide (phase = .stamp)
      | _ => true
  | _ => false

/-- Whether the on-shutdown callback may have published its stop. -/
def SignalPoint.stopSent : SignalPoint → Bool
  | .waiting => false
  | .invalidated => false
  | .sendingStop phase => decide (phase = .stamp)
  | _ => true

/-- The publishers of a step, by what the destructor has done before and does. -/
inductive DestructorStep (system : System) (label : Label)
    (next : System) : Prop where
  | before (undone : system.destructorDone = false)
      (still : next.destructorDone = false)
      (others : ∀ source ∈ system.sources label, source ≠ .destructor)
  | publishes (undone : system.destructorDone = false)
      (done : next.destructorDone = true)
      (sources : system.sources label = [.destructor])
  | after (done : system.destructorDone = true)
      (still : next.destructorDone = true)
      (sources : system.sources label = [])

theorem ExecutorStep.destructorStep {system next : System} {label : Label}
    (stepped : ExecutorStep system label next)
    (owned : Ownership system) : DestructorStep system label next := by
  cases stepped with
  | publishDestructor here =>
      refine .publishes ?_ ?_ ?_ <;>
        simp [System.destructorDone, System.sources, here]
  | stampDestructor now here =>
      have others := owned.executorDestroys _ here
      refine .after ?_ ?_ ?_
      · simp [System.destructorDone, here]
      · rcases others with signal | signal <;>
          simp [System.destructorDone, System.stampStop, signal]
      · rfl
  | releaseShared now here shared =>
      refine .before ?_ ?_ (by simp [System.sources]) <;>
        (cases signal : system.signal <;>
          simp_all [System.destructorDone, SignalPoint.holdsNode])
  | exit now here =>
      cases done : system.destructorDone with
      | true =>
          refine .after done ?_ rfl
          simpa [System.destructorDone, here] using done
      | false =>
          refine .before done ?_ (by simp [System.sources])
          simpa [System.destructorDone, here] using done
  | _ =>
      refine .before ?_ ?_ ?_ <;>
        simp [System.destructorDone, System.sources, *]

theorem SignalStep.destructorStep {system next : System} {label : Label}
    (stepped : SignalStep system label next)
    (owned : Ownership system) : DestructorStep system label next := by
  cases stepped with
  | invalidate here running =>
      have spins := owned.waiting here
      refine .before ?_ ?_ (by simp [System.sources]) <;>
        (cases point : system.executor <;>
          simp_all [System.destructorDone, ExecutorPoint.spins])
  | expired now here gone =>
      cases done : system.destructorDone with
      | true =>
          refine .after done ?_ rfl
          simpa [System.destructorDone, here] using done
      | false =>
          refine .before done ?_ (by simp [System.sources])
          simpa [System.destructorDone, here] using done
  | publishDestructor here =>
      rcases owned.signalDestroys _ here with executor | executor <;>
        (refine .publishes ?_ ?_ ?_ <;>
          simp [System.destructorDone, System.sources, here, executor])
  | stampDestructor now here =>
      rcases owned.signalDestroys _ here with executor | executor <;>
        (refine .after ?_ ?_ rfl <;>
          simp [System.destructorDone, System.stampStop, here, executor])
  | releaseShared now here owned =>
      refine .before ?_ ?_ (by simp [System.sources]) <;>
        (cases point : system.executor <;>
          simp_all [System.destructorDone, ExecutorPoint.holdsNode])
  | lockDestructor now here free =>
      refine .before ?_ ?_ (by simp [System.sources]) <;>
        (rcases owned.signalDestroys _ here with executor | executor <;>
          simp [System.destructorDone, executor, here])
  | releaseLast now here last =>
      refine .before ?_ ?_ (by simp [System.sources]) <;>
        (cases point : system.executor with
        | destroying phase =>
            simpa [here] using owned.executorDestroys phase point
        | _ => simp_all [System.destructorDone])
  | takeShared now here owned =>
      refine .before ?_ ?_ (by simp [System.sources]) <;>
        (cases point : system.executor <;>
          simp_all [System.destructorDone, ExecutorPoint.holdsNode])
  | _ =>
      refine .before ?_ ?_ (by simp [System.sources, *]) <;>
        (cases point : system.executor with
        | destroying phase =>
            have others := owned.executorDestroys phase point
            simp_all
        | _ => simp_all [System.destructorDone, System.stampStop])

/-- At most one stop is the on-shutdown callback's. -/
theorem System.onShutdown_step {system next : System} {label : Label}
    (stepped : system.step label = some next) :
    (system.sources label).count .onShutdown +
        (if system.signal.stopSent then 1 else 0) ≤
      if next.signal.stopSent then 1 else 0 := by
  rcases System.step_cases stepped with executor | signal
  · rw [executor.signal_eq]
    cases executor <;> simp [System.sources, *]
  · cases signal <;>
      simp [System.sources, SignalPoint.stopSent, *]

/-- What is known of the publishers of a schedule. -/
structure PublishersExact (publishers : List Source) (system : System) :
    Prop where
  destructor :
    publishers.count .destructor = if system.destructorDone then 1 else 0
  last :
    system.destructorDone = true →
      publishers.getLast? = some .destructor
  onShutdown :
    publishers.count .onShutdown ≤
      if system.signal.stopSent then 1 else 0

theorem PublishersExact.step
    {publishers : List Source} {system next : System} {label : Label}
    (exact : PublishersExact publishers system)
    (owned : Ownership system)
    (stepped : system.step label = some next) :
    PublishersExact (publishers ++ system.sources label) next := by
  have onShutdown :
      (publishers ++ system.sources label).count .onShutdown ≤
        if next.signal.stopSent then 1 else 0 := by
    have one := System.onShutdown_step stepped
    have before := exact.onShutdown
    rw [List.count_append]
    omega
  have destructorStep : DestructorStep system label next := by
    rcases System.step_cases stepped with executor | signal
    · exact executor.destructorStep owned
    · exact signal.destructorStep owned
  cases destructorStep with
  | before undone still others =>
      have none :
          (system.sources label).count .destructor = 0 :=
        List.count_eq_zero.mpr fun member => others _ member rfl
      refine ⟨?_, by simp [still], onShutdown⟩
      rw [List.count_append, exact.destructor, none, undone, still,
        Nat.add_zero]
  | publishes undone done sources =>
      refine ⟨?_, fun _ => ?_, onShutdown⟩
      · rw [sources, List.count_append, exact.destructor]
        simp [undone, done]
      · simp [sources]
  | after done still sources =>
      refine ⟨?_, fun _ => ?_, onShutdown⟩
      · rw [sources, List.append_nil, exact.destructor, done, still]
      · rw [sources, List.append_nil, exact.last done]

/-- The ownership of the node and the publishers, after a schedule. -/
structure LifetimeExact (origin : System) (labels : List Label)
    (reached : System) : Prop where
  owned : Ownership reached
  publishers : PublishersExact (origin.publishers labels) reached

theorem System.lifetimeExact_of_run
    {parameters : Parameters} {environment : Environment}
    {labels : List Label} {last : System}
    (ran : (System.start parameters environment).run labels = some last) :
    LifetimeExact (System.start parameters environment) labels last := by
  rw [System.run_eq] at ran
  refine StepSystem.related_to_run ?_ ?_ ran
  · constructor
    · exact ⟨fun _ => rfl, by simp [start], by simp [start]⟩
    · exact
        ⟨rfl, by simp [destructorDone, start],
          by simp [publishers, StepSystem.observations]⟩
  · intro past reached label next ranPast known stepped
    have context : reached.ContextExact :=
      System.contextExact_of_run (System.run_eq _ _ ▸ ranPast)
    constructor
    · rcases System.step_cases stepped with executor | signal
      · exact known.owned.executorStep context executor
      · exact known.owned.signalStep signal
    · rw [publishers, StepSystem.observations_snoc _ _ ranPast]
      exact known.publishers.step known.owned stepped

/-- `weak.lock()` fails, if it is still to come. -/
structure Expired (system : System) : Prop where
  gone : system.executor.holdsNode = false
  signal : system.signal = .invalidated ∨ system.signal = .finished

/-- `main` has let its reference go, and is not in the destructor. -/
def Released (system : System) : Prop :=
  system.executor = .leaving ∨ system.executor = .exited

theorem Expired.step {system next : System} {label : Label}
    (expired : Expired system) (stepped : system.step label = some next) :
    Expired next := by
  rcases expired with ⟨gone, signal⟩
  rcases System.step_cases stepped with executor | signalled
  · refine ⟨?_, executor.signal_eq ▸ signal⟩
    cases executor with
    | releaseShared | releaseLast | lockDestructor | publishDestructor
    | stampDestructor | exit => rfl
    | _ => simp_all [ExecutorPoint.holdsNode]
  · refine ⟨signalled.executor_eq ▸ gone, ?_⟩
    cases signalled with
    | expired => exact .inr rfl
    | takeShared now here owned => simp [gone] at owned
    | _ => simp_all

theorem Released.step {system next : System} {label : Label}
    (released : Released system) (stepped : system.step label = some next) :
    Released next := by
  rcases System.step_cases stepped with executor | signalled
  · cases executor with
    | exit => exact .inr rfl
    | _ => rcases released with here | here <;> simp_all
  · rwa [Released, signalled.executor_eq]

theorem Expired.run {system last : System} {labels : List Label}
    (expired : Expired system) (ran : system.run labels = some last) :
    Expired last := by
  rw [System.run_eq] at ran
  exact
    StepSystem.preserved_by_run
      (fun _ _ _ expired stepped => expired.step stepped) expired ran

theorem Released.run {system last : System} {labels : List Label}
    (released : Released system) (ran : system.run labels = some last) :
    Released last := by
  rw [System.run_eq] at ran
  exact
    StepSystem.preserved_by_run
      (fun _ _ _ released stepped => released.step stepped) released ran

/--
The node is destroyed once, and alone.  While a thread is in the destructor
the other neither uses the node nor will; the destructor and the on-shutdown
callback publish at most one stop each; and when both threads have run to
their end, the destructor's stop was published and was the last command.
-/
theorem destroyed_once
    (parameters : Parameters) (environment : Environment)
    (labels : List Label) (last : System)
    (ran : (System.start parameters environment).run labels = some last) :
    ((∀ phase, last.executor = .destroying phase →
          ∀ later final, last.run later = some final →
            final.signal = .invalidated ∨ final.signal = .finished) ∧
        ∀ phase, last.signal = .destroying phase →
          ∀ later final, last.run later = some final →
            final.executor = .leaving ∨ final.executor = .exited) ∧
      ((System.start parameters environment).publishers labels).count
          .destructor ≤ 1 ∧
      ((System.start parameters environment).publishers labels).count
          .onShutdown ≤ 1 ∧
      (last.Ended →
        ((System.start parameters environment).publishers labels).count
            .destructor = 1 ∧
          ((System.start parameters environment).publishers
            labels).getLast? = some .destructor) := by
  rcases System.lifetimeExact_of_run ran with ⟨owned, exact⟩
  refine ⟨⟨?_, ?_⟩, ?_, ?_, ?_⟩
  · intro phase destroys later final ranLater
    have expired : Expired last :=
      ⟨by rw [destroys]; rfl, owned.executorDestroys phase destroys⟩
    exact (expired.run ranLater).signal
  · intro phase destroys later final ranLater
    have released : Released last := owned.signalDestroys phase destroys
    exact released.run ranLater
  · rw [exact.destructor]
    split_ifs <;> simp
  · refine exact.onShutdown.trans ?_
    split_ifs <;> simp
  · rintro ⟨exited, finished⟩
    have done : last.destructorDone = true := by
      simp [System.destructorDone, exited, finished]
    exact ⟨by rw [exact.destructor, done]; rfl, exact.last done⟩

/-- The callback outlives the reference of `main`, and destroys the node. -/
def outlivingSchedule : List Label :=
  [ .invalidate,
    .advance .signal 0,
    .spinReturns,
    .advance .executor 0,
    .advance .executor 0,
    .advance .signal 0,
    .publishStop .signal,
    .advance .signal 0,
    .advance .signal 0 ]

/-- Either thread in the destructor, and a shutdown between callbacks. -/
theorem destroyed_once_shutdown :
    ∃ onExecutor onSignal last,
      (defaultStart.run ((System.shutdownSchedule 0).take 9) =
            some onExecutor ∧
          ∀ later final, onExecutor.run later = some final →
            final.signal = .invalidated ∨ final.signal = .finished) ∧
        (defaultStart.run outlivingSchedule = some onSignal ∧
          ∀ later final, onSignal.run later = some final →
            final.executor = .leaving ∨ final.executor = .exited) ∧
        defaultStart.run (System.shutdownSchedule 0) = some last ∧
        (defaultStart.publishers (System.shutdownSchedule 0)).count
            .destructor = 1 ∧
        (defaultStart.publishers (System.shutdownSchedule 0)).count
            .onShutdown ≤ 1 ∧
        (defaultStart.publishers (System.shutdownSchedule 0)).getLast? =
          some .destructor := by
  have ran := @System.run_shutdownSchedule defaultStart 0 rfl rfl rfl
  have onExecutor :=
    destroyed_once defaultParameters ⟨0, 0, .returns⟩
      ((System.shutdownSchedule 0).take 9) _ rfl
  have onSignal :=
    destroyed_once defaultParameters ⟨0, 0, .returns⟩ outlivingSchedule _ rfl
  rcases
      destroyed_once defaultParameters ⟨0, 0, .returns⟩
        (System.shutdownSchedule 0) _ ran with
    ⟨_, _, once, ended⟩
  have destroyed := ended ⟨rfl, rfl⟩
  exact
    ⟨_, _, _, ⟨rfl, onExecutor.1.1 .acquire rfl⟩,
      ⟨rfl, onSignal.1.2 .acquire rfl⟩, ran, destroyed.1, once, destroyed.2⟩

end Go2Navigation.Bridge
