import Go2Navigation.Bridge.Velocity

/-!
# Shutdown, interleaved with a callback in progress

Two threads share the node: the executor thread, which runs the callbacks and
then the end of `main`, and the signal thread, which runs the context
shutdown.  The context is invalidated before its on-shutdown callback runs,
and a publish under an invalid context delivers nothing.  Every atomic
access, every critical section and every publish is a step of its own, so a
schedule is any interleaving of the two threads.

The commands delivered in a schedule are the ones published before the
invalidation, whatever happens afterwards.  The final stops of the
on-shutdown callback and of the destructor come too late to be delivered.
-/

namespace Go2Navigation.Bridge

open Go2Navigation.Numeric

inductive Thread where
  | executor
  | signal
deriving DecidableEq

/-- `publish_stop_unlocked` under the mutex: lock, publish, then stamp and unlock. -/
inductive StopPhase where
  | acquire
  | publish
  | stamp
deriving DecidableEq

inductive CmdVelPhase where
  | receive
  | clear
  | acquire
  | stamp
  | publish
deriving DecidableEq

/-- The watchdog with the locals it carries from step to step. -/
inductive WatchdogPhase where
  | readClock
  | acquire (now : Time)
  | copy (now : Time)
  | decide (now lastCmdVelTime lastStopPublishTime : Time)
  | clear
  | exchange (now lastStopPublishTime : Time)
  | stop (phase : StopPhase)
deriving DecidableEq

/-- Where the executor thread is. -/
inductive ExecutorPoint where
  | spinning
  | cmdVel (phase : CmdVelPhase) (msg : Twist)
  | watchdog (phase : WatchdogPhase)
  | returned
  | shutDown
  | destroying (phase : StopPhase)
  | leaving
  | exited
deriving DecidableEq

/-- Where the signal thread is. -/
inductive SignalPoint where
  | waiting
  | invalidated
  | sendingStop (phase : StopPhase)
  | flushing
  | destroying (phase : StopPhase)
  | finished
deriving DecidableEq

/-- Whether `main` still owns its reference to the node. -/
def ExecutorPoint.holdsNode : ExecutorPoint → Bool
  | .destroying _ => false
  | .leaving => false
  | .exited => false
  | _ => true

/-- Whether the on-shutdown callback owns a reference to the node. -/
def SignalPoint.holdsNode : SignalPoint → Bool
  | .sendingStop _ => true
  | .flushing => true
  | _ => false

structure System where
  node : Go2NavBridge
  mutex : Option Thread
  contextValid : Bool
  delivered : List SportModeCmd
  executor : ExecutorPoint
  signal : SignalPoint

/--
One step of a schedule.  `advance` is the next step of a thread other than a
publish; `now` is what it reads if it reads the clock.
-/
inductive Label where
  | deliverCmdVel (msg : Twist)
  | fireTimer
  | spinReturns
  | invalidate
  | advance (thread : Thread) (now : Time)
  | publishCmdVel (msg : Twist)
  | publishStop (thread : Thread)
deriving DecidableEq

namespace System

/-- `publish`: a command reaches the robot only while the context is valid. -/
def deliver (system : System) (cmd : SportModeCmd) : System :=
  if system.contextValid then
    { system with delivered := system.delivered ++ [cmd] }
  else system

/-- Locking the state mutex, possible only while it is free. -/
def acquire (system : System) (thread : Thread) : Option System :=
  if system.mutex.isNone then some { system with mutex := some thread }
  else none

/-- The end of `publish_stop_unlocked` and the unlock after it. -/
def stampStop (system : System) (now : Time) : System :=
  { system with
    node := { system.node with lastStopPublishTime := now }
    mutex := none }

def advanceCmdVel (system : System) (now : Time) (msg : Twist) :
    CmdVelPhase → Option System
  | .receive =>
      some
        { system with
          node := { system.node with cmdVelReceived := true }
          executor := .cmdVel .clear msg }
  | .clear =>
      some
        { system with
          node := { system.node with timeoutStopSent := false }
          executor := .cmdVel .acquire msg }
  | .acquire =>
      (system.acquire .executor).map fun system =>
        { system with executor := .cmdVel .stamp msg }
  | .stamp =>
      some
        { system with
          node := { system.node with lastCmdVelTime := now }
          mutex := none
          executor := .cmdVel .publish msg }
  | .publish => none

def advanceWatchdog (system : System) (now : Time) :
    WatchdogPhase → Option System
  | .readClock =>
      some { system with executor := .watchdog (.acquire now) }
  | .acquire entry =>
      (system.acquire .executor).map fun system =>
        { system with executor := .watchdog (.copy entry) }
  | .copy entry =>
      some
        { system with
          mutex := none
          executor :=
            .watchdog
              (.decide entry system.node.lastCmdVelTime
                system.node.lastStopPublishTime) }
  | .decide entry lastCmdVelTime lastStopPublishTime =>
      let node := { system.node with lastCmdVelTime := lastCmdVelTime }
      if node.timedOut entry then
        some
          { system with
            executor := .watchdog (.exchange entry lastStopPublishTime) }
      else some { system with executor := .watchdog .clear }
  | .clear =>
      some
        { system with
          node := { system.node with timeoutStopSent := false }
          executor := .spinning }
  | .exchange entry lastStopPublishTime =>
      let firstTimeout := !system.node.timeoutStopSent
      let node :=
        { system.node with lastStopPublishTime := lastStopPublishTime }
      let periodicRepublish := node.periodicRepublish entry
      some
        { system with
          node := { system.node with timeoutStopSent := true }
          executor :=
            if firstTimeout || periodicRepublish then
              .watchdog (.stop .acquire)
            else .spinning }
  | .stop .acquire =>
      (system.acquire .executor).map fun system =>
        { system with executor := .watchdog (.stop .publish) }
  | .stop .publish => none
  | .stop .stamp =>
      some { system.stampStop now with executor := .spinning }

/-- The next step of the executor thread, publishes excepted. -/
def advanceExecutor (system : System) (now : Time) : Option System :=
  match system.executor with
  | .spinning => none
  | .cmdVel phase msg => system.advanceCmdVel now msg phase
  | .watchdog phase => system.advanceWatchdog now phase
  -- rclcpp::shutdown() in main finds the context already shut down
  | .returned => some { system with executor := .shutDown }
  | .shutDown =>
      some
        { system with
          executor :=
            if system.signal.holdsNode then .leaving
            else .destroying .acquire }
  | .destroying .acquire =>
      (system.acquire .executor).map fun system =>
        { system with executor := .destroying .publish }
  | .destroying .publish => none
  | .destroying .stamp =>
      some { system.stampStop now with executor := .leaving }
  | .leaving => some { system with executor := .exited }
  | .exited => none

/-- The next step of the signal thread, publishes excepted. -/
def advanceSignal (system : System) (now : Time) : Option System :=
  match system.signal with
  | .waiting => none
  -- weak.lock() succeeds as long as main owns the node
  | .invalidated =>
      some
        { system with
          signal :=
            if system.executor.holdsNode then .sendingStop .acquire
            else .finished }
  | .sendingStop .acquire =>
      (system.acquire .signal).map fun system =>
        { system with signal := .sendingStop .publish }
  | .sendingStop .publish => none
  | .sendingStop .stamp =>
      some { system.stampStop now with signal := .flushing }
  | .flushing =>
      some
        { system with
          signal :=
            if system.executor.holdsNode then .finished
            else .destroying .acquire }
  | .destroying .acquire =>
      (system.acquire .signal).map fun system =>
        { system with signal := .destroying .publish }
  | .destroying .publish => none
  | .destroying .stamp =>
      some { system.stampStop now with signal := .finished }
  | .finished => none

/-- The publish of a stop, by whichever code the thread is in. -/
def publishStop (system : System) : Thread → Option System
  | .executor =>
      match system.executor with
      | .watchdog (.stop .publish) =>
          some
            { system.deliver stopCommand with
              executor := .watchdog (.stop .stamp) }
      | .destroying .publish =>
          some
            { system.deliver stopCommand with
              executor := .destroying .stamp }
      | _ => none
  | .signal =>
      match system.signal with
      | .sendingStop .publish =>
          some
            { system.deliver stopCommand with signal := .sendingStop .stamp }
      | .destroying .publish =>
          some
            { system.deliver stopCommand with signal := .destroying .stamp }
      | _ => none

/-- One step of a schedule; `none` where the step is not possible. -/
def step (system : System) : Label → Option System
  | .deliverCmdVel msg =>
      if system.executor = .spinning then
        some { system with executor := .cmdVel .receive msg }
      else none
  | .fireTimer =>
      if system.executor = .spinning then
        some { system with executor := .watchdog .readClock }
      else none
  | .spinReturns =>
      if system.executor = .spinning ∧ system.contextValid = false then
        some { system with executor := .returned }
      else none
  | .invalidate =>
      if system.signal = .waiting ∧ system.executor ≠ .exited then
        some { system with contextValid := false, signal := .invalidated }
      else none
  | .advance .executor now => system.advanceExecutor now
  | .advance .signal now => system.advanceSignal now
  | .publishCmdVel msg =>
      if system.executor = .cmdVel .publish msg then
        some
          { system.deliver (system.node.velocityCommand msg) with
            executor := .spinning }
      else none
  | .publishStop thread => system.publishStop thread

/-- A schedule from a given state. -/
def run (system : System) : List Label → Option System
  | [] => some system
  | label :: rest => (system.step label).bind fun next => next.run rest

/-- The system as `spin` starts, after the constructor's stop. -/
def start (parameters : Parameters) (environment : Environment) : System where
  node := (construct parameters environment).node
  mutex := none
  contextValid := true
  delivered := (construct parameters environment).published
  executor := .spinning
  signal := .waiting

end System

/-! ## What one step can do to the delivered commands -/

/-- The commands a step hands to `publish`. -/
def Label.published (node : Go2NavBridge) : Label → List SportModeCmd
  | .publishCmdVel msg => [node.velocityCommand msg]
  | .publishStop _ => [stopCommand]
  | _ => []

/-- Two nodes with the same effective limits. -/
def SameLimits (left right : Go2NavBridge) : Prop :=
  left.linearMax = right.linearMax ∧ left.angularMax = right.angularMax

theorem SameLimits.velocityCommand
    {left right : Go2NavBridge} (same : SameLimits left right)
    (msg : Twist) :
    left.velocityCommand msg = right.velocityCommand msg := by
  simp only [Go2NavBridge.velocityCommand, same.1, same.2]

theorem SameLimits.published
    {left right : Go2NavBridge} (same : SameLimits left right)
    (label : Label) : label.published left = label.published right := by
  cases label <;> simp [Label.published, same.velocityCommand]

/-- A step which publishes nothing and leaves the context alone. -/
structure Quiet (system next : System) : Prop where
  limits : SameLimits next.node system.node
  valid : next.contextValid = system.contextValid
  delivered : next.delivered = system.delivered

namespace System

theorem acquire_eq {system next : System} {thread : Thread}
    (locked : system.acquire thread = some next) :
    next = { system with mutex := some thread } := by
  rw [acquire] at locked
  split_ifs at locked
  exact (Option.some.inj locked).symm

theorem advanceCmdVel_quiet
    {system next : System} {now : Time} {msg : Twist}
    {phase : CmdVelPhase}
    (advanced : system.advanceCmdVel now msg phase = some next) :
    Quiet system next := by
  cases phase with
  | receive => cases advanced; exact ⟨⟨rfl, rfl⟩, rfl, rfl⟩
  | clear => cases advanced; exact ⟨⟨rfl, rfl⟩, rfl, rfl⟩
  | acquire =>
      rcases Option.map_eq_some_iff.mp advanced with ⟨held, locked, rfl⟩
      rw [acquire_eq locked]
      exact ⟨⟨rfl, rfl⟩, rfl, rfl⟩
  | stamp => cases advanced; exact ⟨⟨rfl, rfl⟩, rfl, rfl⟩
  | publish => cases advanced

theorem advanceWatchdog_quiet
    {system next : System} {now : Time} {phase : WatchdogPhase}
    (advanced : system.advanceWatchdog now phase = some next) :
    Quiet system next := by
  cases phase with
  | readClock => cases advanced; exact ⟨⟨rfl, rfl⟩, rfl, rfl⟩
  | acquire entry =>
      rcases Option.map_eq_some_iff.mp advanced with ⟨held, locked, rfl⟩
      rw [acquire_eq locked]
      exact ⟨⟨rfl, rfl⟩, rfl, rfl⟩
  | copy entry => cases advanced; exact ⟨⟨rfl, rfl⟩, rfl, rfl⟩
  | decide entry lastCmdVelTime lastStopPublishTime =>
      simp only [advanceWatchdog] at advanced
      split_ifs at advanced <;>
        (cases advanced; exact ⟨⟨rfl, rfl⟩, rfl, rfl⟩)
  | clear => cases advanced; exact ⟨⟨rfl, rfl⟩, rfl, rfl⟩
  | exchange entry lastStopPublishTime =>
      cases advanced
      exact ⟨⟨rfl, rfl⟩, rfl, rfl⟩
  | stop phase =>
      cases phase with
      | acquire =>
          rcases Option.map_eq_some_iff.mp advanced with
            ⟨held, locked, rfl⟩
          rw [acquire_eq locked]
          exact ⟨⟨rfl, rfl⟩, rfl, rfl⟩
      | publish => cases advanced
      | stamp => cases advanced; exact ⟨⟨rfl, rfl⟩, rfl, rfl⟩

theorem advanceExecutor_quiet {system next : System} {now : Time}
    (advanced : system.advanceExecutor now = some next) :
    Quiet system next := by
  rw [advanceExecutor] at advanced
  split at advanced
  · cases advanced
  · exact advanceCmdVel_quiet advanced
  · exact advanceWatchdog_quiet advanced
  · cases advanced; exact ⟨⟨rfl, rfl⟩, rfl, rfl⟩
  · cases advanced; exact ⟨⟨rfl, rfl⟩, rfl, rfl⟩
  · rcases Option.map_eq_some_iff.mp advanced with ⟨held, locked, rfl⟩
    rw [acquire_eq locked]
    exact ⟨⟨rfl, rfl⟩, rfl, rfl⟩
  · cases advanced
  · cases advanced; exact ⟨⟨rfl, rfl⟩, rfl, rfl⟩
  · cases advanced; exact ⟨⟨rfl, rfl⟩, rfl, rfl⟩
  · cases advanced

theorem advanceSignal_quiet {system next : System} {now : Time}
    (advanced : system.advanceSignal now = some next) :
    Quiet system next := by
  rw [advanceSignal] at advanced
  split at advanced
  · cases advanced
  · cases advanced; exact ⟨⟨rfl, rfl⟩, rfl, rfl⟩
  · rcases Option.map_eq_some_iff.mp advanced with ⟨held, locked, rfl⟩
    rw [acquire_eq locked]
    exact ⟨⟨rfl, rfl⟩, rfl, rfl⟩
  · cases advanced
  · cases advanced; exact ⟨⟨rfl, rfl⟩, rfl, rfl⟩
  · cases advanced; exact ⟨⟨rfl, rfl⟩, rfl, rfl⟩
  · rcases Option.map_eq_some_iff.mp advanced with ⟨held, locked, rfl⟩
    rw [acquire_eq locked]
    exact ⟨⟨rfl, rfl⟩, rfl, rfl⟩
  · cases advanced
  · cases advanced; exact ⟨⟨rfl, rfl⟩, rfl, rfl⟩
  · cases advanced

@[simp]
theorem deliver_node (system : System) (cmd : SportModeCmd) :
    (system.deliver cmd).node = system.node := by
  rw [deliver]
  split_ifs <;> rfl

@[simp]
theorem deliver_contextValid (system : System) (cmd : SportModeCmd) :
    (system.deliver cmd).contextValid = system.contextValid := by
  rw [deliver]
  split_ifs <;> rfl

@[simp]
theorem deliver_delivered (system : System) (cmd : SportModeCmd) :
    (system.deliver cmd).delivered =
      system.delivered ++ if system.contextValid then [cmd] else [] := by
  rw [deliver]
  split_ifs <;> simp

end System

/-- What a step does: deliver its command under a valid context, or invalidate it. -/
structure Effect (system : System) (label : Label) (next : System) :
    Prop where
  limits : SameLimits next.node system.node
  valid :
    next.contextValid =
      (system.contextValid && decide (label ≠ .invalidate))
  delivered :
    next.delivered =
      system.delivered ++
        if system.contextValid then label.published system.node else []

theorem Quiet.effect {system next : System} (quiet : Quiet system next)
    {label : Label} (silent : label.published system.node = [])
    (keeps : label ≠ .invalidate) : Effect system label next where
  limits := quiet.limits
  valid := by simp [quiet.valid, keeps]
  delivered := by simp [quiet.delivered, silent]

namespace System

theorem publishStop_effect
    {system next : System} {thread : Thread}
    (published : system.publishStop thread = some next) :
    Effect system (.publishStop thread) next := by
  cases thread with
  | executor =>
      simp only [publishStop] at published
      split at published
      · cases published
        exact
          ⟨by simp [SameLimits], by simp, by simp [Label.published]⟩
      · cases published
        exact
          ⟨by simp [SameLimits], by simp, by simp [Label.published]⟩
      · cases published
  | signal =>
      simp only [publishStop] at published
      split at published
      · cases published
        exact
          ⟨by simp [SameLimits], by simp, by simp [Label.published]⟩
      · cases published
        exact
          ⟨by simp [SameLimits], by simp, by simp [Label.published]⟩
      · cases published

theorem step_effect
    {system next : System} {label : Label}
    (stepped : system.step label = some next) :
    Effect system label next := by
  cases label with
  | deliverCmdVel msg =>
      simp only [step] at stepped
      split_ifs at stepped
      cases stepped
      refine Quiet.effect ?_ rfl (by simp)
      exact ⟨⟨rfl, rfl⟩, rfl, rfl⟩
  | fireTimer =>
      simp only [step] at stepped
      split_ifs at stepped
      cases stepped
      refine Quiet.effect ?_ rfl (by simp)
      exact ⟨⟨rfl, rfl⟩, rfl, rfl⟩
  | spinReturns =>
      simp only [step] at stepped
      split_ifs at stepped
      cases stepped
      refine Quiet.effect ?_ rfl (by simp)
      exact ⟨⟨rfl, rfl⟩, rfl, rfl⟩
  | invalidate =>
      simp only [step] at stepped
      split_ifs at stepped
      cases stepped
      exact ⟨⟨rfl, rfl⟩, by simp, by simp [Label.published]⟩
  | advance thread now =>
      cases thread with
      | executor =>
          exact (advanceExecutor_quiet stepped).effect rfl (by simp)
      | signal =>
          exact (advanceSignal_quiet stepped).effect rfl (by simp)
  | publishCmdVel msg =>
      simp only [step] at stepped
      split_ifs at stepped
      cases stepped
      exact ⟨by simp [SameLimits], by simp, by simp [Label.published]⟩
  | publishStop thread => exact publishStop_effect stepped

/-- The commands published before the context is invalidated. -/
def publishedBeforeInvalidation
    (node : Go2NavBridge) (labels : List Label) : List SportModeCmd :=
  (labels.takeWhile fun label => decide (label ≠ .invalidate)).flatMap
    (Label.published node)

/--
Whatever the interleaving, a schedule delivers exactly the commands published
before the invalidation.
-/
theorem run_delivered
    {system last : System} {labels : List Label}
    (ran : system.run labels = some last) :
    last.delivered =
      system.delivered ++
        if system.contextValid then
          publishedBeforeInvalidation system.node labels
        else [] := by
  induction labels generalizing system with
  | nil =>
      cases ran
      simp [publishedBeforeInvalidation]
  | cons label rest induction =>
      rcases Option.bind_eq_some_iff.mp ran with ⟨next, stepped, ranRest⟩
      have effect := step_effect stepped
      have restDelivered := induction ranRest
      have samePublished :
          publishedBeforeInvalidation next.node rest =
            publishedBeforeInvalidation system.node rest := by
        rw [publishedBeforeInvalidation, publishedBeforeInvalidation]
        exact
          congrArg (fun published => List.flatMap published _)
            (funext effect.limits.published)
      rw [restDelivered, samePublished, effect.delivered, effect.valid,
        List.append_assoc]
      congr 1
      cases system.contextValid with
      | false => simp
      | true =>
          by_cases invalidates : label = .invalidate
          · subst label
            simp [publishedBeforeInvalidation, Label.published]
          · simp [publishedBeforeInvalidation, invalidates]

end System

/-! ## A callback which nothing interrupts -/

namespace System

/-- The steps of `cmd_vel_callback` when the signal thread takes none. -/
def cmdVelSchedule (msg : Twist) (environment : Environment) : List Label :=
  [ .deliverCmdVel msg,
    .advance .executor environment.now,
    .advance .executor environment.now,
    .advance .executor environment.now,
    .advance .executor environment.now,
    .publishCmdVel msg ]

/-- The steps of `watchdog_callback` when the signal thread takes none. -/
def watchdogSchedule
    (node : Go2NavBridge) (environment : Environment) : List Label :=
  [ .fireTimer,
    .advance .executor environment.now,
    .advance .executor environment.now,
    .advance .executor environment.now,
    .advance .executor environment.now,
    .advance .executor environment.now ] ++
  if node.timedOut environment.now &&
      (!node.timeoutStopSent ||
        node.periodicRepublish environment.now) then
    [ .advance .executor environment.now,
      .publishStop .executor,
      .advance .executor environment.nowAfterPublish ]
  else []

/-- Step by step, an uninterrupted velocity callback is the whole callback. -/
theorem run_cmdVelSchedule
    {system : System} (msg : Twist) {environment : Environment}
    (spinning : system.executor = .spinning)
    (unlocked : system.mutex = none)
    (valid : system.contextValid = true)
    (returns : environment.publish = .returns) :
    system.run (cmdVelSchedule msg environment) =
      some
        { system with
          node := (system.node.cmdVelCallback msg environment).1
          delivered :=
            system.delivered ++
              (system.node.cmdVelCallback msg environment).2 } := by
  rcases system with ⟨node, mutex, contextValid, delivered, executor, signal⟩
  simp only at spinning unlocked valid
  subst spinning unlocked valid
  simp [cmdVelSchedule, run, step, advanceExecutor, advanceCmdVel, acquire,
    deliver, Go2NavBridge.cmdVelCallback_eq _ _ returns,
    Go2NavBridge.velocityCommand]

/-- Step by step, an uninterrupted watchdog callback is the whole callback. -/
theorem run_watchdogSchedule
    {system : System} {environment : Environment}
    (spinning : system.executor = .spinning)
    (unlocked : system.mutex = none)
    (valid : system.contextValid = true)
    (returns : environment.publish = .returns) :
    system.run (watchdogSchedule system.node environment) =
      some
        { system with
          node := (system.node.watchdogCallback environment).1
          delivered :=
            system.delivered ++
              (system.node.watchdogCallback environment).2 } := by
  rcases system with
    ⟨⟨received, stopSent, lastCmdVel, lastStop, linear, angular, timeout⟩,
      mutex, contextValid, delivered, executor, signal⟩
  simp only at spinning unlocked valid
  subst spinning unlocked valid
  generalize nodeEq :
    Go2NavBridge.mk received stopSent lastCmdVel lastStop linear angular
      timeout = node
  cases timedOut : node.timedOut environment.now with
  | false =>
      subst nodeEq
      simp [watchdogSchedule, run, step, advanceExecutor, advanceWatchdog,
        acquire, timedOut,
        Go2NavBridge.watchdogCallback_of_not_timedOut timedOut]
  | true =>
      by_cases reason :
          node.timeoutStopSent = false ∨
            node.periodicRepublish environment.now = true
      · have published :=
          Go2NavBridge.watchdogCallback_of_publishing timedOut reason
            returns
        subst nodeEq
        simp only at reason
        simp [watchdogSchedule, run, step, advanceExecutor,
          advanceWatchdog, acquire, timedOut, reason, publishStop,
          deliver, stampStop, published]
      · have silent := reason
        rw [not_or, Bool.not_eq_false, Bool.not_eq_true] at silent
        have quiet :=
          Go2NavBridge.watchdogCallback_of_silent timedOut silent.1
            silent.2
        subst nodeEq
        simp only at silent
        have sent := silent.1
        subst sent
        simp [watchdogSchedule, run, step, advanceExecutor,
          advanceWatchdog, acquire, timedOut, silent.2, quiet]

end System

/-! ## The last command delivered -/

/-- A component which is sent as zero: replaced by zero, or narrowed to it. -/
def Still (value : Double) (limit : EffectiveParameter) : Prop :=
  ∀ rational, value = .finite rational →
    |rational| ≤ binary32Underflow ∨ limit.rational ≤ binary32Underflow

/-- All three used components of a velocity message are sent as zero. -/
def StillTwist
    (linearLimit angularLimit : EffectiveParameter) (msg : Twist) : Prop :=
  Still msg.linear.x linearLimit ∧
    Still msg.linear.y linearLimit ∧
      Still msg.angular.z angularLimit

theorem cappedMagnitude_le_underflow_iff
    (value : Double) (limit : EffectiveParameter) :
    cappedMagnitude value limit.rational ≤ binary32Underflow ↔
      Still value limit := by
  have nonneg : 0 ≤ binary32Underflow := by
    rw [binary32Underflow]
    positivity
  cases value with
  | finite rational => simp [cappedMagnitude, Still]
  | posInf => simp [cappedMagnitude, Still, nonneg]
  | negInf => simp [cappedMagnitude, Still, nonneg]
  | nan => simp [cappedMagnitude, Still, nonneg]

theorem clampSymmetric_eq_zeroF_iff
    (value : Double) (limit : EffectiveParameter) :
    clampSymmetric (sanitizeFiniteInput value) limit.value = zeroF ↔
      Still value limit := by
  rw [sanitizeFiniteInput_eq, limit.value_eq]
  rcases clampSymmetric_sanitized value limit.rational_pos.le with
    ⟨clamped, clampedEq, magnitude⟩
  rw [clampedEq, zeroF, toBinary32_eq_zero_iff, magnitude]
  exact cappedMagnitude_le_underflow_iff value limit

/-- A velocity command is a stop exactly if its message is still. -/
theorem isStop_velocityCommand_iff (node : Go2NavBridge) (msg : Twist) :
    (node.velocityCommand msg).IsStop ↔
      StillTwist node.linearMax node.angularMax msg := by
  simp only [SportModeCmd.IsStop, StillTwist,
    Go2NavBridge.velocityCommand, makeVelocityCommand_velocities,
    Prod.mk.injEq, clampSymmetric_eq_zeroF_iff]

namespace Label

/-- Whether a step publishes. -/
def publishes : Label → Bool
  | .publishCmdVel _ => true
  | .publishStop _ => true
  | _ => false

/-- The command of a step which publishes. -/
def command (node : Go2NavBridge) : Label → SportModeCmd
  | .publishCmdVel msg => node.velocityCommand msg
  | _ => stopCommand

theorem published_eq (node : Go2NavBridge) (label : Label) :
    label.published node =
      if label.publishes then [label.command node] else [] := by
  cases label <;> rfl

theorem flatMap_published
    (node : Go2NavBridge) (labels : List Label) :
    labels.flatMap (published node) =
      (labels.filter publishes).map (command node) := by
  induction labels with
  | nil => rfl
  | cons label rest induction =>
      rw [List.flatMap_cons, induction, published_eq]
      cases publishesEq : label.publishes <;> simp [publishesEq]

end Label

/-- The last publish of a schedule before the context is invalidated. -/
def lastPublishBeforeInvalidation (labels : List Label) : Option Label :=
  ((labels.takeWhile fun label => decide (label ≠ .invalidate)).filter
    Label.publishes).getLast?

/-- A whole schedule: the node starts, runs and exits. -/
structure Schedule where
  parameters : Parameters
  environment : Environment
  labels : List Label
  last : System
  start_returns : environment.publish = .returns
  ran : (System.start parameters environment).run labels = some last
  exited : last.executor = .exited

namespace Schedule

def startNode (schedule : Schedule) : Go2NavBridge :=
  (construct schedule.parameters schedule.environment).node

/-- The last command delivered before the process exits is a stop. -/
def EndsStopped (schedule : Schedule) : Prop :=
  ∃ cmd, schedule.last.delivered.getLast? = some cmd ∧ cmd.IsStop

/--
The last publish before the invalidation, if it is of a velocity command, is
of one whose used components are all sent as zero.
-/
def StillAtInvalidation (schedule : Schedule) : Prop :=
  ∀ msg,
    lastPublishBeforeInvalidation schedule.labels =
        some (.publishCmdVel msg) →
      StillTwist schedule.startNode.linearMax schedule.startNode.angularMax
        msg

/-- The commands delivered are the first stop and those of the valid context. -/
theorem delivered_eq (schedule : Schedule) :
    schedule.last.delivered =
      stopCommand ::
        ((schedule.labels.takeWhile fun label =>
            decide (label ≠ .invalidate)).filter
          Label.publishes).map (Label.command schedule.startNode) := by
  have delivered := System.run_delivered schedule.ran
  rw [delivered, ← Label.flatMap_published]
  simp [System.start, construct, Go2NavBridge.publishStopCommand,
    Go2NavBridge.publishStopUnlocked, schedule.start_returns, startNode,
    System.publishedBeforeInvalidation, stopCommand]

theorem isStop_command_iff
    (schedule : Schedule) (label : Label) :
    (label.command schedule.startNode).IsStop ↔
      ∀ msg, label = .publishCmdVel msg →
        StillTwist schedule.startNode.linearMax
          schedule.startNode.angularMax msg := by
  cases label with
  | publishCmdVel msg =>
      simpa [Label.command] using
        isStop_velocityCommand_iff schedule.startNode msg
  | _ => simp [Label.command, stopCommand_isStop]

/--
However the shutdown interleaves with a callback, the last delivered command
is a stop exactly if the last publish before the invalidation is not of a
moving command.
-/
theorem endsStopped_iff_stillAtInvalidation (schedule : Schedule) :
    schedule.EndsStopped ↔ schedule.StillAtInvalidation := by
  rw [EndsStopped, StillAtInvalidation, delivered_eq,
    List.getLast?_cons, List.getLast?_map, ← lastPublishBeforeInvalidation]
  cases lastPublishBeforeInvalidation schedule.labels with
  | none => simp [stopCommand_isStop]
  | some label => simpa using schedule.isStop_command_iff label

end Schedule

/-- Half a metre per second, straight ahead. -/
def movingTwist : Twist :=
  ⟨⟨.finite (1 / 2), .finite 0, .finite 0⟩,
    ⟨.finite 0, .finite 0, .finite 0⟩⟩

namespace System

theorem run_append (system : System) (before after : List Label) :
    system.run (before ++ after) =
      (system.run before).bind fun next => next.run after := by
  induction before generalizing system with
  | nil => rfl
  | cons label rest induction =>
      simp only [List.cons_append, run, Option.bind_assoc, induction]

/--
A shutdown between callbacks, in which the on-shutdown callback and then the
destructor run to their end.
-/
def shutdownSchedule (now : Time) : List Label :=
  [ .invalidate,
    .advance .signal now,
    .advance .signal now,
    .publishStop .signal,
    .advance .signal now,
    .advance .signal now,
    .spinReturns,
    .advance .executor now,
    .advance .executor now,
    .advance .executor now,
    .publishStop .executor,
    .advance .executor now,
    .advance .executor now ]

/-- Both final stops of a shutdown between callbacks come too late. -/
theorem run_shutdownSchedule
    {system : System} (now : Time)
    (spinning : system.executor = .spinning)
    (unlocked : system.mutex = none)
    (waiting : system.signal = .waiting) :
    system.run (shutdownSchedule now) =
      some
        { node := { system.node with lastStopPublishTime := now }
          mutex := none
          contextValid := false
          delivered := system.delivered
          executor := .exited
          signal := .finished } := by
  rcases system with ⟨node, mutex, contextValid, delivered, executor, signal⟩
  simp only at spinning unlocked waiting
  subst spinning unlocked waiting
  simp [shutdownSchedule, run, step, advanceExecutor, advanceSignal,
    ExecutorPoint.holdsNode, SignalPoint.holdsNode, acquire, publishStop,
    deliver, stampStop]

end System

/-- The default parameters, one velocity command, then a shutdown. -/
def movingSchedule : Schedule where
  parameters := ⟨kLinearMax, kAngularMax, kDefaultWatchdogMs⟩
  environment := ⟨0, 0, .returns⟩
  labels :=
    System.cmdVelSchedule movingTwist ⟨0, 0, .returns⟩ ++
      System.shutdownSchedule 0
  last :=
    let node :=
      (construct ⟨kLinearMax, kAngularMax, kDefaultWatchdogMs⟩
        ⟨0, 0, .returns⟩).node
    { node :=
        { node with
          cmdVelReceived := true
          timeoutStopSent := false
          lastCmdVelTime := 0
          lastStopPublishTime := 0 }
      mutex := none
      contextValid := false
      delivered := [stopCommand, node.velocityCommand movingTwist]
      executor := .exited
      signal := .finished }
  start_returns := rfl
  ran := by
    rw [System.run_append, System.run_cmdVelSchedule _ rfl rfl rfl rfl,
      Option.bind_some, System.run_shutdownSchedule _ rfl rfl rfl]
    rfl
  exited := rfl

/-- The robot keeps its last velocity: both final stops come too late. -/
theorem not_endsStopped :
    ¬ ∀ schedule : Schedule, schedule.EndsStopped := by
  intro stopped
  rcases stopped movingSchedule with ⟨cmd, lastEq, isStop⟩
  have cmdEq :
      movingSchedule.startNode.velocityCommand movingTwist = cmd :=
    Option.some.inj lastEq
  rw [← cmdEq, isStop_velocityCommand_iff] at isStop
  have limitEq : movingSchedule.startNode.linearMax.rational = 1 :=
    validatePositiveParameter_rational one_pos _
  rcases isStop.1 (1 / 2) rfl with inputSmall | limitSmall
  · norm_num [binary32Underflow] at inputSmall
  · rw [limitEq] at limitSmall
    norm_num [binary32Underflow] at limitSmall

end Go2Navigation.Bridge
