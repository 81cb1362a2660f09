import Go2Navigation.Bridge.Node

/-!
# What the history of a run says

The watchdog is specified over the history of a run, not over the members of
the node: the last velocity message, the last stop, and whether a stop has
been published since that message.  The members track these under every order
of callbacks and every sequence of clock readings.  No monotonicity of the
clock is used here.
-/

namespace Go2Navigation.Bridge

open Go2Navigation.Numeric
open Go2Navigation.Foundation

/-- A callback together with what it published. -/
abbrev Handled := Occurrence Callback SportModeCmd

/-- Clock reading of the most recent velocity message. -/
def lastCmdVel (callbacks : List Callback) : Option Time :=
  callbacks.foldl
    (fun latest callback =>
      match callback with
      | .cmdVel _ environment => some environment.now
      | .watchdog _ => latest)
    none

/-- Whether the watchdog has published since the last velocity message. -/
def stopSinceCmdVel (history : List Handled) : Bool :=
  history.foldl
    (fun published handled =>
      match handled.event with
      | .cmdVel _ _ => false
      | .watchdog _ => published || !handled.outputs.isEmpty)
    false

/-- Clock reading which followed the most recent stop. -/
def lastStop (start : Time) (history : List Handled) : Time :=
  history.foldl
    (fun latest handled =>
      match handled.event with
      | .cmdVel _ _ => latest
      | .watchdog environment =>
          if handled.outputs.isEmpty then latest
          else environment.nowAfterPublish)
    start

@[simp]
theorem lastCmdVel_nil : lastCmdVel [] = none :=
  rfl

@[simp]
theorem lastCmdVel_concat_cmdVel
    (past : List Callback) (msg : Twist) (environment : Environment) :
    lastCmdVel (past ++ [.cmdVel msg environment]) =
      some environment.now := by
  simp [lastCmdVel]

@[simp]
theorem lastCmdVel_concat_watchdog
    (past : List Callback) (environment : Environment) :
    lastCmdVel (past ++ [.watchdog environment]) = lastCmdVel past := by
  simp [lastCmdVel]

@[simp]
theorem stopSinceCmdVel_nil : stopSinceCmdVel [] = false :=
  rfl

@[simp]
theorem stopSinceCmdVel_concat_cmdVel
    (past : List Handled) (msg : Twist) (environment : Environment)
    (outputs : List SportModeCmd) :
    stopSinceCmdVel (past ++ [⟨.cmdVel msg environment, outputs⟩]) =
      false := by
  simp [stopSinceCmdVel]

@[simp]
theorem stopSinceCmdVel_concat_watchdog
    (past : List Handled) (environment : Environment)
    (outputs : List SportModeCmd) :
    stopSinceCmdVel (past ++ [⟨.watchdog environment, outputs⟩]) =
      (stopSinceCmdVel past || !outputs.isEmpty) := by
  simp [stopSinceCmdVel]

@[simp]
theorem lastStop_nil (start : Time) : lastStop start [] = start :=
  rfl

@[simp]
theorem lastStop_concat_cmdVel
    (start : Time) (past : List Handled) (msg : Twist)
    (environment : Environment) (outputs : List SportModeCmd) :
    lastStop start (past ++ [⟨.cmdVel msg environment, outputs⟩]) =
      lastStop start past := by
  simp [lastStop]

@[simp]
theorem lastStop_concat_watchdog
    (start : Time) (past : List Handled)
    (environment : Environment) (outputs : List SportModeCmd) :
    lastStop start (past ++ [⟨.watchdog environment, outputs⟩]) =
      if outputs.isEmpty then lastStop start past
      else environment.nowAfterPublish := by
  simp [lastStop]

/--
A run of the node: validated start, callbacks in the order the executor runs
them, and no publish which throws.
-/
structure Run where
  parameters : Parameters
  start : Environment
  callbacks : List Callback
  start_returns : start.publish = .returns
  returns :
    ∀ callback ∈ callbacks, callback.environment.publish = .returns

namespace Run

/-- The node as its constructor leaves it. -/
def startNode (run : Run) : Go2NavBridge :=
  (construct run.parameters run.start).node

/-- The effective timeout in milliseconds. -/
def timeout (run : Run) : ℚ :=
  run.startNode.watchdogTimeoutMs.rational

/-- A positive finite timeout parameter is the effective timeout. -/
theorem timeout_of_positive (run : Run) {timeout : ℚ}
    (parameter : run.parameters.watchdogTimeoutMs = .finite timeout)
    (positive : 0 < timeout) : run.timeout = timeout := by
  simp [Run.timeout, startNode, construct, Go2NavBridge.publishStopCommand,
    Go2NavBridge.publishStopUnlocked, run.start_returns, parameter,
    validatePositiveParameter_rational positive]

/-- The node after some of its callbacks. -/
def nodeAfter (run : Run) (past : List Callback) : Go2NavBridge :=
  bridgeReactor.final run.startNode past

/-- The history of the given callbacks. -/
def historyOf (run : Run) (past : List Callback) : List Handled :=
  bridgeReactor.trace run.startNode past

/-- What one more callback publishes. -/
def published (run : Run) (past : List Callback) (next : Callback) :
    List SportModeCmd :=
  (bridgeReactor.step (run.nodeAfter past) next).2

@[simp]
theorem historyOf_nil (run : Run) : run.historyOf [] = [] :=
  rfl

@[simp]
theorem historyOf_concat
    (run : Run) (past : List Callback) (next : Callback) :
    run.historyOf (past ++ [next]) =
      run.historyOf past ++ [⟨next, run.published past next⟩] := by
  simp [historyOf, published, nodeAfter]

@[simp]
theorem nodeAfter_nil (run : Run) : run.nodeAfter [] = run.startNode :=
  rfl

@[simp]
theorem nodeAfter_concat
    (run : Run) (past : List Callback) (next : Callback) :
    run.nodeAfter (past ++ [next]) =
      (bridgeReactor.step (run.nodeAfter past) next).1 := by
  simp [nodeAfter]

/--
No velocity message was ever received, or more than the timeout has passed on
the node clock since the last one.
-/
def Overdue (run : Run) (past : List Callback) (now : Time) : Prop :=
  ∀ received, lastCmdVel past = some received →
    run.timeout < elapsedMs now received

end Run

/-- How the members of the node follow the history. -/
structure Tracks
    (run : Run) (past : List Callback) (node : Go2NavBridge) : Prop where
  timeout : node.watchdogTimeoutMs = run.startNode.watchdogTimeoutMs
  received : node.cmdVelReceived = (lastCmdVel past).isSome
  command :
    ∀ reading, lastCmdVel past = some reading →
      node.lastCmdVelTime = reading
  stop :
    node.lastStopPublishTime =
      lastStop run.start.nowAfterPublish (run.historyOf past)
  flag :
    node.timeoutStopSent = true →
      stopSinceCmdVel (run.historyOf past) = true

namespace Tracks

variable {run : Run} {past : List Callback} {node : Go2NavBridge}

theorem initial (run : Run) : Tracks run [] (run.nodeAfter []) where
  timeout := rfl
  received := by
    simp [Run.startNode, construct, Go2NavBridge.publishStopCommand,
      Go2NavBridge.publishStopUnlocked, run.start_returns]
  command := by simp
  stop := by
    simp [Run.startNode, construct, Go2NavBridge.publishStopCommand,
      Go2NavBridge.publishStopUnlocked, run.start_returns]
  flag := by
    simp [Run.startNode, construct, Go2NavBridge.publishStopCommand,
      Go2NavBridge.publishStopUnlocked, run.start_returns]

/-- The code's timeout test is the history's. -/
theorem timedOut_iff (tracks : Tracks run past node) (now : Time) :
    node.timedOut now = true ↔ run.Overdue past now := by
  rw [Go2NavBridge.timedOut_iff, tracks.timeout, tracks.received]
  cases reading : lastCmdVel past with
  | none => simp [Run.Overdue, reading]
  | some received =>
      simp [Run.Overdue, Run.timeout, reading,
        tracks.command received reading]

/-- The code's republish test is the history's. -/
theorem periodicRepublish_iff (tracks : Tracks run past node) (now : Time) :
    node.periodicRepublish now = true ↔
      500 ≤
        elapsedMs now
          (lastStop run.start.nowAfterPublish (run.historyOf past)) := by
  rw [Go2NavBridge.periodicRepublish_iff, tracks.stop]

end Tracks

/-- The four outcomes of a callback, as the history sees them. -/
inductive StepOutcome
    (run : Run) (past : List Callback) (node : Go2NavBridge) :
    Callback → Go2NavBridge → List SportModeCmd → Prop where
  | command (msg : Twist) (environment : Environment) :
      StepOutcome run past node (.cmdVel msg environment)
        { node with
          cmdVelReceived := true
          timeoutStopSent := false
          lastCmdVelTime := environment.now }
        [node.velocityCommand msg]
  | alive (environment : Environment)
      (within : ¬ run.Overdue past environment.now) :
      StepOutcome run past node (.watchdog environment)
        { node with timeoutStopSent := false } []
  | silent (environment : Environment)
      (overdue : run.Overdue past environment.now)
      (sent : node.timeoutStopSent = true)
      (recent : node.periodicRepublish environment.now = false) :
      StepOutcome run past node (.watchdog environment) node []
  | stop (environment : Environment)
      (overdue : run.Overdue past environment.now)
      (reason :
        node.timeoutStopSent = false ∨
          node.periodicRepublish environment.now = true) :
      StepOutcome run past node (.watchdog environment)
        { node with
          timeoutStopSent := true
          lastStopPublishTime := environment.nowAfterPublish }
        [stopCommand]

/-- Every callback whose publish returns has one of the four outcomes. -/
theorem stepOutcome
    {run : Run} {past : List Callback} {node : Go2NavBridge}
    (tracks : Tracks run past node) (callback : Callback)
    (returns : callback.environment.publish = .returns) :
    StepOutcome run past node callback
      (bridgeReactor.step node callback).1
      (bridgeReactor.step node callback).2 := by
  cases callback with
  | cmdVel msg environment =>
      have publishes : environment.publish = .returns := returns
      have stepEq := node.cmdVelCallback_eq msg publishes
      simpa only [bridgeReactor, stepEq] using
        StepOutcome.command msg environment
  | watchdog environment =>
      cases timedOut : node.timedOut environment.now with
      | false =>
          have stepEq :=
            Go2NavBridge.watchdogCallback_of_not_timedOut timedOut
          have within : ¬ run.Overdue past environment.now := by
            rw [← tracks.timedOut_iff, timedOut]
            exact Bool.false_ne_true
          simpa only [bridgeReactor, stepEq] using
            StepOutcome.alive environment within
      | true =>
          have overdue := (tracks.timedOut_iff environment.now).mp timedOut
          by_cases reason :
              node.timeoutStopSent = false ∨
                node.periodicRepublish environment.now = true
          · have stepEq :=
              Go2NavBridge.watchdogCallback_of_publishing
                timedOut reason returns
            simpa only [bridgeReactor, stepEq] using
              StepOutcome.stop environment overdue reason
          · simp only [not_or, Bool.not_eq_false, Bool.not_eq_true] at reason
            have stepEq :=
              Go2NavBridge.watchdogCallback_of_silent
                timedOut reason.1 reason.2
            simpa only [bridgeReactor, stepEq] using
              StepOutcome.silent environment overdue reason.1 reason.2

/-- The members keep following the history through one callback. -/
theorem StepOutcome.tracks
    {run : Run} {past : List Callback} {node next : Go2NavBridge}
    {callback : Callback} {outputs : List SportModeCmd}
    (outcome : StepOutcome run past node callback next outputs)
    (historyEq :
      run.historyOf (past ++ [callback]) =
        run.historyOf past ++ [⟨callback, outputs⟩])
    (tracks : Tracks run past node) :
    Tracks run (past ++ [callback]) next := by
  cases outcome with
  | command msg environment =>
      exact
        { timeout := tracks.timeout
          received := by simp
          command := by simp
          stop := by simpa [historyEq] using tracks.stop
          flag := by simp }
  | alive environment within =>
      exact
        { timeout := tracks.timeout
          received := by simpa using tracks.received
          command := by simpa using tracks.command
          stop := by simpa [historyEq] using tracks.stop
          flag := by simp }
  | silent environment overdue sent recent =>
      exact
        { timeout := tracks.timeout
          received := by simpa using tracks.received
          command := by simpa using tracks.command
          stop := by simpa [historyEq] using tracks.stop
          flag := by simpa [historyEq] using tracks.flag }
  | stop environment overdue reason =>
      exact
        { timeout := tracks.timeout
          received := by simpa using tracks.received
          command := by simpa using tracks.command
          stop := by simp [historyEq]
          flag := by simp [historyEq] }

/-- The members follow the history of every run. -/
theorem Run.tracks (run : Run) :
    ∀ past future, run.callbacks = past ++ future →
      Tracks run past (run.nodeAfter past) := by
  intro past
  induction past using List.reverseRecOn with
  | nil =>
      intro _ _
      exact Tracks.initial run
  | append_singleton past callback induction =>
      intro future split
      have member : callback ∈ run.callbacks := by simp [split]
      have tracks := induction (callback :: future) (by simp [split])
      have outcome :=
        stepOutcome tracks callback (run.returns callback member)
      rw [Run.nodeAfter_concat]
      exact outcome.tracks (run.historyOf_concat past callback) tracks

/-- What one callback of a run does. -/
theorem Run.outcome (run : Run)
    {past future : List Callback} {callback : Callback}
    (split : run.callbacks = past ++ callback :: future) :
    StepOutcome run past (run.nodeAfter past) callback
      (run.nodeAfter (past ++ [callback]))
      (run.published past callback) := by
  have member : callback ∈ run.callbacks := by simp [split]
  rw [Run.nodeAfter_concat]
  exact
    stepOutcome (run.tracks past (callback :: future) split) callback
      (run.returns callback member)

/-! ## Stops since the last velocity message -/

/-- Since the last velocity message some tick has found the command overdue. -/
def Run.ExpiredSinceCmdVel (run : Run) (past : List Callback) : Prop :=
  ∃ (before : List Callback) (tick : Environment) (ticks : List Environment),
    past = before ++ .watchdog tick :: ticks.map .watchdog ∧
      run.Overdue before tick.now

/--
The latest message of a history is a stop of the watchdog, and no velocity
message came after it.
-/
def StoppedSince (history : List Handled) : Prop :=
  ∃ (before : List Handled) (tick : Environment) (ticks : List Environment),
    history =
      before ++
        ⟨.watchdog tick, [stopCommand]⟩ ::
          ticks.map fun quiet => ⟨.watchdog quiet, []⟩

theorem StoppedSince.stopSinceCmdVel
    {history : List Handled} (stopped : StoppedSince history) :
    stopSinceCmdVel history = true := by
  rcases stopped with ⟨before, tick, ticks, rfl⟩
  induction ticks using List.reverseRecOn with
  | nil => simp
  | append_singleton ticks quiet induction =>
      rw [List.map_append, ← List.cons_append, ← List.append_assoc,
        List.map_singleton, stopSinceCmdVel_concat_watchdog, induction]
      rfl

theorem lastCmdVel_append_watchdogs
    (past : List Callback) (ticks : List Environment) :
    lastCmdVel (past ++ ticks.map .watchdog) = lastCmdVel past := by
  induction ticks using List.reverseRecOn with
  | nil => simp
  | append_singleton ticks tick induction =>
      rw [List.map_append, ← List.append_assoc, List.map_singleton,
        lastCmdVel_concat_watchdog, induction]

theorem lastCmdVel_command_watchdogs
    (before : List Callback) (msg : Twist) (environment : Environment)
    (ticks : List Environment) :
    lastCmdVel
        (before ++ .cmdVel msg environment :: ticks.map .watchdog) =
      some environment.now := by
  have appended :=
    lastCmdVel_append_watchdogs
      (before ++ [.cmdVel msg environment]) ticks
  simpa using appended

namespace Run

variable (run : Run)

/-- After a command followed only by ticks, overdue is measured from it. -/
theorem overdue_command_watchdogs
    (before : List Callback) (msg : Twist) (environment : Environment)
    (ticks : List Environment) (now : Time) :
    run.Overdue
        (before ++ .cmdVel msg environment :: ticks.map .watchdog) now ↔
      run.timeout < elapsedMs now environment.now := by
  simp [Run.Overdue, lastCmdVel_command_watchdogs]

theorem not_expiredSince_nil : ¬ run.ExpiredSinceCmdVel [] := by
  rintro ⟨before, tick, ticks, split, _⟩
  simp at split

theorem not_expiredSince_concat_cmdVel
    (past : List Callback) (msg : Twist) (environment : Environment) :
    ¬ run.ExpiredSinceCmdVel (past ++ [.cmdVel msg environment]) := by
  rintro ⟨before, tick, ticks, split, _⟩
  induction ticks using List.reverseRecOn with
  | nil => simp at split
  | append_singleton ticks last _ =>
      rw [List.map_append, List.map_singleton, ← List.cons_append,
        ← List.append_assoc] at split
      have lastEq := (List.append_inj' split rfl).2
      simp at lastEq

theorem expiredSince_concat_watchdog
    (past : List Callback) (environment : Environment) :
    run.ExpiredSinceCmdVel (past ++ [.watchdog environment]) ↔
      run.ExpiredSinceCmdVel past ∨ run.Overdue past environment.now := by
  constructor
  · rintro ⟨before, tick, ticks, split, overdue⟩
    induction ticks using List.reverseRecOn with
    | nil =>
        rw [List.map_nil] at split
        rcases List.append_inj' split rfl with ⟨rfl, lastEq⟩
        cases lastEq
        exact Or.inr overdue
    | append_singleton ticks last _ =>
        rw [List.map_append, List.map_singleton, ← List.cons_append,
          ← List.append_assoc] at split
        have pastEq := (List.append_inj' split rfl).1
        exact Or.inl ⟨before, tick, ticks, pastEq, overdue⟩
  · rintro (⟨before, tick, ticks, rfl, overdue⟩ | overdue)
    · exact ⟨before, tick, ticks ++ [environment], by simp, overdue⟩
    · exact ⟨past, environment, [], by simp, overdue⟩

/-- Expiry since a command is expiry of one of the ticks which follow it. -/
theorem expiredSince_command_watchdogs
    (before : List Callback) (msg : Twist) (environment : Environment)
    (ticks : List Environment) :
    run.ExpiredSinceCmdVel
        (before ++ .cmdVel msg environment :: ticks.map .watchdog) ↔
      ∃ tick ∈ ticks,
        run.timeout < elapsedMs tick.now environment.now := by
  induction ticks using List.reverseRecOn with
  | nil =>
      simpa using
        run.not_expiredSince_concat_cmdVel before msg environment
  | append_singleton ticks tick induction =>
      have pastEq :
          before ++
              .cmdVel msg environment :: (ticks ++ [tick]).map .watchdog =
            (before ++ .cmdVel msg environment :: ticks.map .watchdog) ++
              [.watchdog tick] := by
        simp
      rw [pastEq, expiredSince_concat_watchdog, induction,
        overdue_command_watchdogs]
      simp [or_and_right, exists_or]

/--
Whatever the clock does, the watchdog has published since the last velocity
message exactly when one of its ticks since then has found it overdue.
-/
theorem stopSinceCmdVel_iff_expired
    {past future : List Callback}
    (split : run.callbacks = past ++ future) :
    stopSinceCmdVel (run.historyOf past) = true ↔
      run.ExpiredSinceCmdVel past := by
  induction past using List.reverseRecOn generalizing future with
  | nil => simp [run.not_expiredSince_nil]
  | append_singleton past callback induction =>
      have splitHere : run.callbacks = past ++ callback :: future := by
        simp [split]
      have tracks := run.tracks past (callback :: future) splitHere
      have soFar := induction splitHere
      have outcome := run.outcome splitHere
      rw [run.historyOf_concat]
      generalize run.published past callback = outputs at outcome ⊢
      generalize run.nodeAfter (past ++ [callback]) = next at outcome
      cases outcome with
      | command msg environment =>
          simp [run.not_expiredSince_concat_cmdVel]
      | alive environment within =>
          simp [expiredSince_concat_watchdog, soFar, within]
      | silent environment overdue sent recent =>
          have already := tracks.flag sent
          simp [expiredSince_concat_watchdog, already, overdue]
      | stop environment overdue reason =>
          simp [expiredSince_concat_watchdog, overdue]

/-- A stop since the last velocity message is the latest message of all. -/
theorem stoppedSince_of_stopSinceCmdVel
    {past future : List Callback}
    (split : run.callbacks = past ++ future)
    (stopped : stopSinceCmdVel (run.historyOf past) = true) :
    StoppedSince (run.historyOf past) := by
  induction past using List.reverseRecOn generalizing future with
  | nil => simp at stopped
  | append_singleton past callback induction =>
      have splitHere : run.callbacks = past ++ callback :: future := by
        simp [split]
      have outcome := run.outcome splitHere
      have tracks := run.tracks past (callback :: future) splitHere
      have extend :
          ∀ environment,
            stopSinceCmdVel (run.historyOf past) = true →
              StoppedSince
                (run.historyOf past ++ [⟨.watchdog environment, []⟩]) := by
        intro environment stoppedBefore
        rcases induction splitHere stoppedBefore with
          ⟨before, tick, ticks, historyEq⟩
        exact ⟨before, tick, ticks ++ [environment], by simp [historyEq]⟩
      rw [run.historyOf_concat] at stopped ⊢
      generalize run.published past callback = outputs at outcome stopped ⊢
      generalize run.nodeAfter (past ++ [callback]) = next at outcome
      cases outcome with
      | command msg environment => simp at stopped
      | alive environment within =>
          exact extend environment (by simpa using stopped)
      | silent environment overdue sent recent =>
          exact extend environment (tracks.flag sent)
      | stop environment overdue reason =>
          exact ⟨run.historyOf past, environment, [], by simp⟩

/-- Whatever the clock does, the latest message is a stop exactly after an expiry. -/
theorem stoppedSince_iff_expired
    {past future : List Callback}
    (split : run.callbacks = past ++ future) :
    StoppedSince (run.historyOf past) ↔ run.ExpiredSinceCmdVel past := by
  rw [← run.stopSinceCmdVel_iff_expired split]
  exact
    ⟨StoppedSince.stopSinceCmdVel,
      run.stoppedSince_of_stopSinceCmdVel split⟩

end Run

end Go2Navigation.Bridge
