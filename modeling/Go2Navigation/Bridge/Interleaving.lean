import Go2Navigation.Bridge.Shutdown
import Go2Navigation.Foundation.Steps

/-!
# Every interleaving of the two threads

The steps of the two threads, one constructor each, with guard and effect.
What holds of every schedule is read off them.  The first such property is
that of the mutex: it is held exactly by the thread inside a critical
section, and the timestamps change under it only.
-/

namespace Go2Navigation.Bridge

open Go2Navigation.Foundation

/-- A step of the executor thread: its guard and its effect. -/
inductive ExecutorStep (system : System) : Label → System → Prop where
  | deliverCmdVel (msg : Twist) (here : system.executor = .spinning) :
      ExecutorStep system (.deliverCmdVel msg)
        { system with executor := .cmdVel .receive msg }
  | fireTimer (here : system.executor = .spinning) :
      ExecutorStep system .fireTimer
        { system with executor := .watchdog .readClock }
  | spinReturns (here : system.executor = .spinning)
      (invalid : system.contextValid = false) :
      ExecutorStep system .spinReturns { system with executor := .returned }
  | receive (msg : Twist) (now : Time)
      (here : system.executor = .cmdVel .receive msg) :
      ExecutorStep system (.advance .executor now)
        { system with
          node := { system.node with cmdVelReceived := true }
          executor := .cmdVel .clear msg }
  | clear (msg : Twist) (now : Time)
      (here : system.executor = .cmdVel .clear msg) :
      ExecutorStep system (.advance .executor now)
        { system with
          node := { system.node with timeoutStopSent := false }
          executor := .cmdVel .acquire msg }
  | lockCmdVel (msg : Twist) (now : Time)
      (here : system.executor = .cmdVel .acquire msg)
      (free : system.mutex = none) :
      ExecutorStep system (.advance .executor now)
        { system with
          mutex := some .executor
          executor := .cmdVel .stamp msg }
  | stampCmdVel (msg : Twist) (now : Time)
      (here : system.executor = .cmdVel .stamp msg) :
      ExecutorStep system (.advance .executor now)
        { system with
          node := { system.node with lastCmdVelTime := now }
          mutex := none
          executor := .cmdVel .publish msg }
  | publishCmdVel (msg : Twist)
      (here : system.executor = .cmdVel .publish msg) :
      ExecutorStep system (.publishCmdVel msg)
        { system.deliver (system.node.velocityCommand msg) with
          executor := .spinning }
  | readClock (now : Time) (here : system.executor = .watchdog .readClock) :
      ExecutorStep system (.advance .executor now)
        { system with executor := .watchdog (.acquire now) }
  | lockCopy (entry now : Time)
      (here : system.executor = .watchdog (.acquire entry))
      (free : system.mutex = none) :
      ExecutorStep system (.advance .executor now)
        { system with
          mutex := some .executor
          executor := .watchdog (.copy entry) }
  | copy (entry now : Time)
      (here : system.executor = .watchdog (.copy entry)) :
      ExecutorStep system (.advance .executor now)
        { system with
          mutex := none
          executor :=
            .watchdog
              (.decide entry system.node.lastCmdVelTime
                system.node.lastStopPublishTime) }
  | decideTimedOut (entry lastCmdVelTime lastStopPublishTime now : Time)
      (here :
        system.executor =
          .watchdog (.decide entry lastCmdVelTime lastStopPublishTime))
      (timedOut :
        { system.node with
          lastCmdVelTime := lastCmdVelTime }.timedOut entry = true) :
      ExecutorStep system (.advance .executor now)
        { system with
          executor := .watchdog (.exchange entry lastStopPublishTime) }
  | decideAlive (entry lastCmdVelTime lastStopPublishTime now : Time)
      (here :
        system.executor =
          .watchdog (.decide entry lastCmdVelTime lastStopPublishTime))
      (alive :
        { system.node with
          lastCmdVelTime := lastCmdVelTime }.timedOut entry = false) :
      ExecutorStep system (.advance .executor now)
        { system with executor := .watchdog .clear }
  | clearFlag (now : Time) (here : system.executor = .watchdog .clear) :
      ExecutorStep system (.advance .executor now)
        { system with
          node := { system.node with timeoutStopSent := false }
          executor := .spinning }
  | exchangeStops (entry lastStopPublishTime now : Time)
      (here :
        system.executor =
          .watchdog (.exchange entry lastStopPublishTime))
      (stops :
        (!system.node.timeoutStopSent ||
          { system.node with
            lastStopPublishTime :=
              lastStopPublishTime }.periodicRepublish entry) = true) :
      ExecutorStep system (.advance .executor now)
        { system with
          node := { system.node with timeoutStopSent := true }
          executor := .watchdog (.stop .acquire) }
  | exchangeSilent (entry lastStopPublishTime now : Time)
      (here :
        system.executor =
          .watchdog (.exchange entry lastStopPublishTime))
      (silent :
        (!system.node.timeoutStopSent ||
          { system.node with
            lastStopPublishTime :=
              lastStopPublishTime }.periodicRepublish entry) = false) :
      ExecutorStep system (.advance .executor now)
        { system with
          node := { system.node with timeoutStopSent := true }
          executor := .spinning }
  | lockStop (now : Time)
      (here : system.executor = .watchdog (.stop .acquire))
      (free : system.mutex = none) :
      ExecutorStep system (.advance .executor now)
        { system with
          mutex := some .executor
          executor := .watchdog (.stop .publish) }
  | publishStop (here : system.executor = .watchdog (.stop .publish)) :
      ExecutorStep system (.publishStop .executor)
        { system.deliver stopCommand with
          executor := .watchdog (.stop .stamp) }
  | stampStop (now : Time)
      (here : system.executor = .watchdog (.stop .stamp)) :
      ExecutorStep system (.advance .executor now)
        { system.stampStop now with executor := .spinning }
  | shutDown (now : Time) (here : system.executor = .returned) :
      ExecutorStep system (.advance .executor now)
        { system with executor := .shutDown }
  | releaseShared (now : Time) (here : system.executor = .shutDown)
      (shared : system.signal.holdsNode = true) :
      ExecutorStep system (.advance .executor now)
        { system with executor := .leaving }
  | releaseLast (now : Time) (here : system.executor = .shutDown)
      (last : system.signal.holdsNode = false) :
      ExecutorStep system (.advance .executor now)
        { system with executor := .destroying .acquire }
  | lockDestructor (now : Time)
      (here : system.executor = .destroying .acquire)
      (free : system.mutex = none) :
      ExecutorStep system (.advance .executor now)
        { system with
          mutex := some .executor
          executor := .destroying .publish }
  | publishDestructor (here : system.executor = .destroying .publish) :
      ExecutorStep system (.publishStop .executor)
        { system.deliver stopCommand with executor := .destroying .stamp }
  | stampDestructor (now : Time)
      (here : system.executor = .destroying .stamp) :
      ExecutorStep system (.advance .executor now)
        { system.stampStop now with executor := .leaving }
  | exit (now : Time) (here : system.executor = .leaving) :
      ExecutorStep system (.advance .executor now)
        { system with executor := .exited }

/-- A step of the signal thread: its guard and its effect. -/
inductive SignalStep (system : System) : Label → System → Prop where
  | invalidate (here : system.signal = .waiting)
      (running : system.executor ≠ .exited) :
      SignalStep system .invalidate
        { system with contextValid := false, signal := .invalidated }
  | takeShared (now : Time) (here : system.signal = .invalidated)
      (owned : system.executor.holdsNode = true) :
      SignalStep system (.advance .signal now)
        { system with signal := .sendingStop .acquire }
  | expired (now : Time) (here : system.signal = .invalidated)
      (gone : system.executor.holdsNode = false) :
      SignalStep system (.advance .signal now)
        { system with signal := .finished }
  | lockStop (now : Time) (here : system.signal = .sendingStop .acquire)
      (free : system.mutex = none) :
      SignalStep system (.advance .signal now)
        { system with
          mutex := some .signal
          signal := .sendingStop .publish }
  | publishStop (here : system.signal = .sendingStop .publish) :
      SignalStep system (.publishStop .signal)
        { system.deliver stopCommand with signal := .sendingStop .stamp }
  | stampStop (now : Time) (here : system.signal = .sendingStop .stamp) :
      SignalStep system (.advance .signal now)
        { system.stampStop now with signal := .flushing }
  | releaseShared (now : Time) (here : system.signal = .flushing)
      (owned : system.executor.holdsNode = true) :
      SignalStep system (.advance .signal now)
        { system with signal := .finished }
  | releaseLast (now : Time) (here : system.signal = .flushing)
      (last : system.executor.holdsNode = false) :
      SignalStep system (.advance .signal now)
        { system with signal := .destroying .acquire }
  | lockDestructor (now : Time)
      (here : system.signal = .destroying .acquire)
      (free : system.mutex = none) :
      SignalStep system (.advance .signal now)
        { system with
          mutex := some .signal
          signal := .destroying .publish }
  | publishDestructor (here : system.signal = .destroying .publish) :
      SignalStep system (.publishStop .signal)
        { system.deliver stopCommand with signal := .destroying .stamp }
  | stampDestructor (now : Time)
      (here : system.signal = .destroying .stamp) :
      SignalStep system (.advance .signal now)
        { system.stampStop now with signal := .finished }

namespace System

theorem acquire_eq_some_iff {system next : System} {thread : Thread} :
    system.acquire thread = some next ↔
      system.mutex = none ∧ next = { system with mutex := some thread } := by
  rw [acquire]
  cases system.mutex <;> simp [eq_comm]

theorem advanceCmdVel_cases
    {system next : System} {now : Time} {msg : Twist}
    {phase : CmdVelPhase} (here : system.executor = .cmdVel phase msg)
    (advanced : system.advanceCmdVel now msg phase = some next) :
    ExecutorStep system (.advance .executor now) next := by
  cases phase with
  | receive => cases advanced; exact .receive msg now here
  | clear => cases advanced; exact .clear msg now here
  | acquire =>
      rcases Option.map_eq_some_iff.mp advanced with ⟨held, locked, rfl⟩
      rcases acquire_eq_some_iff.mp locked with ⟨free, rfl⟩
      exact .lockCmdVel msg now here free
  | stamp => cases advanced; exact .stampCmdVel msg now here
  | publish => cases advanced

theorem advanceWatchdog_cases
    {system next : System} {now : Time} {phase : WatchdogPhase}
    (here : system.executor = .watchdog phase)
    (advanced : system.advanceWatchdog now phase = some next) :
    ExecutorStep system (.advance .executor now) next := by
  cases phase with
  | readClock => cases advanced; exact .readClock now here
  | acquire entry =>
      rcases Option.map_eq_some_iff.mp advanced with ⟨held, locked, rfl⟩
      rcases acquire_eq_some_iff.mp locked with ⟨free, rfl⟩
      exact .lockCopy entry now here free
  | copy entry => cases advanced; exact .copy entry now here
  | decide entry lastCmdVelTime lastStopPublishTime =>
      simp only [advanceWatchdog] at advanced
      split_ifs at advanced with timedOut
      · cases advanced
        exact .decideTimedOut _ _ _ now here timedOut
      · cases advanced
        exact .decideAlive _ _ _ now here (Bool.not_eq_true _ ▸ timedOut)
  | clear => cases advanced; exact .clearFlag now here
  | exchange entry lastStopPublishTime =>
      simp only [advanceWatchdog, Option.some.injEq] at advanced
      subst advanced
      split_ifs with stops
      · exact .exchangeStops _ _ now here stops
      · exact .exchangeSilent _ _ now here (Bool.not_eq_true _ ▸ stops)
  | stop phase =>
      cases phase with
      | acquire =>
          rcases Option.map_eq_some_iff.mp advanced with
            ⟨held, locked, rfl⟩
          rcases acquire_eq_some_iff.mp locked with ⟨free, rfl⟩
          exact .lockStop now here free
      | publish => cases advanced
      | stamp => cases advanced; exact .stampStop now here

theorem advanceExecutor_cases {system next : System} {now : Time}
    (advanced : system.advanceExecutor now = some next) :
    ExecutorStep system (.advance .executor now) next := by
  rw [advanceExecutor] at advanced
  split at advanced
  case h_1 => cases advanced
  case h_2 here => exact advanceCmdVel_cases here advanced
  case h_3 here => exact advanceWatchdog_cases here advanced
  case h_4 here => cases advanced; exact .shutDown now here
  case h_5 here =>
      cases advanced
      split_ifs with shared
      · exact .releaseShared now here shared
      · exact .releaseLast now here (Bool.not_eq_true _ ▸ shared)
  case h_6 here =>
      rcases Option.map_eq_some_iff.mp advanced with ⟨held, locked, rfl⟩
      rcases acquire_eq_some_iff.mp locked with ⟨free, rfl⟩
      exact .lockDestructor now here free
  case h_7 => cases advanced
  case h_8 here => cases advanced; exact .stampDestructor now here
  case h_9 here => cases advanced; exact .exit now here
  case h_10 => cases advanced

theorem advanceSignal_cases {system next : System} {now : Time}
    (advanced : system.advanceSignal now = some next) :
    SignalStep system (.advance .signal now) next := by
  rw [advanceSignal] at advanced
  split at advanced
  case h_1 => cases advanced
  case h_2 here =>
      cases advanced
      split_ifs with owned
      · exact .takeShared now here owned
      · exact .expired now here (Bool.not_eq_true _ ▸ owned)
  case h_3 here =>
      rcases Option.map_eq_some_iff.mp advanced with ⟨held, locked, rfl⟩
      rcases acquire_eq_some_iff.mp locked with ⟨free, rfl⟩
      exact .lockStop now here free
  case h_4 => cases advanced
  case h_5 here => cases advanced; exact .stampStop now here
  case h_6 here =>
      cases advanced
      split_ifs with owned
      · exact .releaseShared now here owned
      · exact .releaseLast now here (Bool.not_eq_true _ ▸ owned)
  case h_7 here =>
      rcases Option.map_eq_some_iff.mp advanced with ⟨held, locked, rfl⟩
      rcases acquire_eq_some_iff.mp locked with ⟨free, rfl⟩
      exact .lockDestructor now here free
  case h_8 => cases advanced
  case h_9 here => cases advanced; exact .stampDestructor now here
  case h_10 => cases advanced

/-- Every step is a step of one of the two threads. -/
theorem step_cases
    {system next : System} {label : Label}
    (stepped : system.step label = some next) :
    ExecutorStep system label next ∨ SignalStep system label next := by
  cases label with
  | deliverCmdVel msg =>
      simp only [step] at stepped
      split_ifs at stepped with here
      cases stepped
      exact Or.inl (.deliverCmdVel msg here)
  | fireTimer =>
      simp only [step] at stepped
      split_ifs at stepped with here
      cases stepped
      exact Or.inl (.fireTimer here)
  | spinReturns =>
      simp only [step] at stepped
      split_ifs at stepped with here
      cases stepped
      exact Or.inl (.spinReturns here.1 here.2)
  | invalidate =>
      simp only [step] at stepped
      split_ifs at stepped with here
      cases stepped
      exact Or.inr (.invalidate here.1 here.2)
  | advance thread now =>
      cases thread with
      | executor => exact Or.inl (advanceExecutor_cases stepped)
      | signal => exact Or.inr (advanceSignal_cases stepped)
  | publishCmdVel msg =>
      simp only [step] at stepped
      split_ifs at stepped with here
      cases stepped
      exact Or.inl (.publishCmdVel msg here)
  | publishStop thread =>
      cases thread with
      | executor =>
          simp only [step, publishStop] at stepped
          split at stepped
          case h_1 here => cases stepped; exact Or.inl (.publishStop here)
          case h_2 here =>
              cases stepped
              exact Or.inl (.publishDestructor here)
          case h_3 => cases stepped
      | signal =>
          simp only [step, publishStop] at stepped
          split at stepped
          case h_1 here => cases stepped; exact Or.inr (.publishStop here)
          case h_2 here =>
              cases stepped
              exact Or.inr (.publishDestructor here)
          case h_3 => cases stepped

end System

/-! ## The mutex -/

/-- The thread which takes a step. -/
def Label.thread : Label → Thread
  | .invalidate => .signal
  | .advance thread _ => thread
  | .publishStop thread => thread
  | _ => .executor

theorem ExecutorStep.thread_eq {system next : System} {label : Label}
    (stepped : ExecutorStep system label next) :
    label.thread = .executor := by
  cases stepped <;> rfl

theorem SignalStep.thread_eq {system next : System} {label : Label}
    (stepped : SignalStep system label next) : label.thread = .signal := by
  cases stepped <;> rfl

/-- Between the lock and the unlock around `publish_stop_unlocked`. -/
def StopPhase.locked : StopPhase → Bool
  | .acquire => false
  | .publish => true
  | .stamp => true

def ExecutorPoint.locked : ExecutorPoint → Bool
  | .cmdVel .stamp _ => true
  | .watchdog (.copy _) => true
  | .watchdog (.stop phase) => phase.locked
  | .destroying phase => phase.locked
  | _ => false

def SignalPoint.locked : SignalPoint → Bool
  | .sendingStop phase => phase.locked
  | .destroying phase => phase.locked
  | _ => false

namespace System

/-- Whether a thread is inside one of its critical sections. -/
def inCriticalSection (system : System) : Thread → Bool
  | .executor => system.executor.locked
  | .signal => system.signal.locked

/-- The mutex is held by a thread exactly while it is in a critical section. -/
def MutexExact (system : System) : Prop :=
  ∀ thread,
    system.mutex = some thread ↔ system.inCriticalSection thread = true

end System

/-- What a step of a thread does to the mutex and to its critical section. -/
inductive Locking (system : System) (thread : Thread) (next : System) :
    Prop where
  | keeps (mutex : next.mutex = system.mutex)
      (inside :
        next.inCriticalSection thread = system.inCriticalSection thread)
  | locks (free : system.mutex = none) (held : next.mutex = some thread)
      (inside : next.inCriticalSection thread = true)
  | unlocks (inside : system.inCriticalSection thread = true)
      (released : next.mutex = none)
      (outside : next.inCriticalSection thread = false)

@[simp]
theorem System.deliver_mutex (system : System) (cmd : SportModeCmd) :
    (system.deliver cmd).mutex = system.mutex := by
  rw [System.deliver]
  split_ifs <;> rfl

@[simp]
theorem System.deliver_executor (system : System) (cmd : SportModeCmd) :
    (system.deliver cmd).executor = system.executor := by
  rw [System.deliver]
  split_ifs <;> rfl

@[simp]
theorem System.deliver_signal (system : System) (cmd : SportModeCmd) :
    (system.deliver cmd).signal = system.signal := by
  rw [System.deliver]
  split_ifs <;> rfl

theorem ExecutorStep.locking {system next : System} {label : Label}
    (stepped : ExecutorStep system label next) :
    Locking system .executor next := by
  cases stepped with
  | lockCmdVel _ _ _ free => exact .locks free rfl rfl
  | lockCopy _ _ _ free => exact .locks free rfl rfl
  | lockStop _ _ free => exact .locks free rfl rfl
  | lockDestructor _ _ free => exact .locks free rfl rfl
  | stampCmdVel _ _ here =>
      exact .unlocks (by rw [System.inCriticalSection, here]; rfl) rfl rfl
  | copy _ _ here =>
      exact .unlocks (by rw [System.inCriticalSection, here]; rfl) rfl rfl
  | stampStop _ here =>
      exact .unlocks (by rw [System.inCriticalSection, here]; rfl) rfl rfl
  | stampDestructor _ here =>
      exact .unlocks (by rw [System.inCriticalSection, here]; rfl) rfl rfl
  | _ =>
      refine .keeps (by simp) ?_
      simp [System.inCriticalSection, ExecutorPoint.locked,
        StopPhase.locked, *]

theorem SignalStep.locking {system next : System} {label : Label}
    (stepped : SignalStep system label next) :
    Locking system .signal next := by
  cases stepped with
  | lockStop _ _ free => exact .locks free rfl rfl
  | lockDestructor _ _ free => exact .locks free rfl rfl
  | stampStop _ here =>
      exact .unlocks (by rw [System.inCriticalSection, here]; rfl) rfl rfl
  | stampDestructor _ here =>
      exact .unlocks (by rw [System.inCriticalSection, here]; rfl) rfl rfl
  | _ =>
      refine .keeps (by simp) ?_
      simp [System.inCriticalSection, SignalPoint.locked,
        StopPhase.locked, *]

/-- A step of the executor thread leaves the signal thread where it is. -/
theorem ExecutorStep.signal_eq {system next : System} {label : Label}
    (stepped : ExecutorStep system label next) :
    next.signal = system.signal := by
  cases stepped <;> simp [System.stampStop]

/-- A step of the signal thread leaves the executor thread where it is. -/
theorem SignalStep.executor_eq {system next : System} {label : Label}
    (stepped : SignalStep system label next) :
    next.executor = system.executor := by
  cases stepped <;> simp [System.stampStop]

theorem Locking.mutexExact {system next : System} {thread : Thread}
    (locking : Locking system thread next) (exact : system.MutexExact)
    (others :
      ∀ other, other ≠ thread →
        next.inCriticalSection other = system.inCriticalSection other) :
    next.MutexExact := by
  intro other
  have own := exact thread
  have before := exact other
  rcases eq_or_ne other thread with rfl | different
  · cases locking with
    | keeps mutex inside => rw [mutex, inside, before]
    | locks free held inside => simp [held, inside]
    | unlocks inside released outside => simp [released, outside]
  · rw [others other different, ← before]
    cases locking with
    | keeps mutex inside => rw [mutex]
    | locks free held inside => simp [free, held, different.symm]
    | unlocks inside released outside =>
        rw [released, own.mpr inside]
        simp [different.symm]

theorem System.MutexExact.step {system next : System} {label : Label}
    (exact : system.MutexExact)
    (stepped : system.step label = some next) : next.MutexExact := by
  rcases System.step_cases stepped with executor | signal
  · refine executor.locking.mutexExact exact fun other different => ?_
    cases other with
    | executor => exact (different rfl).elim
    | signal => rw [inCriticalSection, inCriticalSection, executor.signal_eq]
  · refine signal.locking.mutexExact exact fun other different => ?_
    cases other with
    | executor =>
        rw [inCriticalSection, inCriticalSection, signal.executor_eq]
    | signal => exact (different rfl).elim

/-- The two threads as one interleaved component. -/
def interleaving : StepSystem System Label where
  step := System.step

theorem System.run_eq (system : System) (labels : List Label) :
    system.run labels = interleaving.run system labels := by
  induction labels generalizing system with
  | nil => rfl
  | cons label rest induction =>
      simp only [System.run, StepSystem.run, induction]
      rfl

theorem System.start_mutexExact
    (parameters : Parameters) (environment : Environment) :
    (System.start parameters environment).MutexExact := by
  intro thread
  cases thread <;> simp [System.start, System.inCriticalSection,
    ExecutorPoint.locked, SignalPoint.locked]

theorem System.mutexExact_of_run
    {parameters : Parameters} {environment : Environment}
    {labels : List Label} {reached : System}
    (ran :
      (System.start parameters environment).run labels = some reached) :
    reached.MutexExact := by
  rw [System.run_eq] at ran
  exact
    StepSystem.preserved_by_run
      (fun _ _ _ exact stepped => exact.step stepped)
      (System.start_mutexExact parameters environment) ran

/-- A step which writes one of the two timestamps. -/
def WritesTimestamp (system next : System) : Prop :=
  next.node.lastCmdVelTime ≠ system.node.lastCmdVelTime ∨
    next.node.lastStopPublishTime ≠ system.node.lastStopPublishTime

theorem ExecutorStep.locked_of_writes {system next : System}
    {label : Label} (stepped : ExecutorStep system label next)
    (writes : WritesTimestamp system next) :
    system.executor.locked = true := by
  cases stepped with
  | stampCmdVel _ _ here => rw [here]; rfl
  | stampStop _ here => rw [here]; rfl
  | stampDestructor _ here => rw [here]; rfl
  | _ => simp [WritesTimestamp] at writes

theorem SignalStep.locked_of_writes {system next : System}
    {label : Label} (stepped : SignalStep system label next)
    (writes : WritesTimestamp system next) :
    system.signal.locked = true := by
  cases stepped with
  | stampStop _ here => rw [here]; rfl
  | stampDestructor _ here => rw [here]; rfl
  | _ => simp [WritesTimestamp] at writes

/--
In every interleaving the mutex is held by a thread exactly while it is in a
critical section, so by one thread at most, and only its holder writes the
timestamps.
-/
theorem mutex_guards_timestamps
    (parameters : Parameters) (environment : Environment)
    (labels : List Label) (reached : System)
    (ran :
      (System.start parameters environment).run labels = some reached) :
    (∀ thread,
        reached.mutex = some thread ↔
          reached.inCriticalSection thread = true) ∧
      (reached.inCriticalSection .executor &&
          reached.inCriticalSection .signal) =
        false ∧
      ∀ label next, reached.step label = some next →
        WritesTimestamp reached next →
          reached.mutex = some label.thread := by
  have exact := System.mutexExact_of_run ran
  refine ⟨exact, ?_, ?_⟩
  · by_contra both
    rw [Bool.not_eq_false, Bool.and_eq_true] at both
    have held := (exact .executor).mpr both.1
    rw [(exact .signal).mpr both.2] at held
    cases held
  · intro label next stepped writes
    rcases System.step_cases stepped with executor | signal
    · rw [executor.thread_eq]
      exact (exact .executor).mpr (executor.locked_of_writes writes)
    · rw [signal.thread_eq]
      exact (exact .signal).mpr (signal.locked_of_writes writes)

def defaultParameters : Parameters where
  linearMax := kLinearMax
  angularMax := kAngularMax
  watchdogTimeoutMs := kDefaultWatchdogMs

/-- The system with the default parameters, its clock at zero. -/
def defaultStart : System :=
  System.start defaultParameters ⟨0, 0, .returns⟩

/-- A velocity message up to its critical section. -/
def enteredSchedule : List Label :=
  [ .deliverCmdVel movingTwist,
    .advance .executor 0,
    .advance .executor 0,
    .advance .executor 0 ]

theorem mutex_guards_timestamps_entered :
    ∃ reached,
      defaultStart.run enteredSchedule = some reached ∧
        (∀ thread,
            reached.mutex = some thread ↔
              reached.inCriticalSection thread = true) ∧
          (reached.inCriticalSection .executor &&
              reached.inCriticalSection .signal) =
            false ∧
          ∀ label next, reached.step label = some next →
            WritesTimestamp reached next →
              reached.mutex = some label.thread := by
  refine
    ⟨_, rfl,
      mutex_guards_timestamps defaultParameters ⟨0, 0, .returns⟩
        enteredSchedule _ ?_⟩
  rfl

end Go2Navigation.Bridge
