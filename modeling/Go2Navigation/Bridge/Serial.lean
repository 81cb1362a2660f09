import Go2Navigation.Bridge.Termination

/-!
# Interleaved callbacks are serial

Between its critical sections a callback shares the node with the stop of the
on-shutdown callback.  A schedule still publishes what the same operations
publish one after the other, and leaves the same node behind.  A watchdog
tick takes effect as it copies the timestamps, a velocity message and a final
stop as they publish; a stop which is due but not yet published is
interchangeable with the stop of the other thread.
-/

namespace Go2Navigation.Bridge

open Go2Navigation.Foundation

/-- A callback with its reading on entry. -/
inductive Entry where
  | cmdVel (msg : Twist) (now : Time)
  | watchdog (now : Time)

/-- The callback which an operation is, if it is one. -/
def Operation.entry? : Operation → Option Entry
  | .callback (.cmdVel msg environment) => some (.cmdVel msg environment.now)
  | .callback (.watchdog environment) => some (.watchdog environment.now)
  | .sendStop _ => none
  | .destroy _ => none

/-- The final stop which an operation is, if it is one. -/
def Operation.finalStop? : Operation → Option Source
  | .callback _ => none
  | .sendStop _ => some .onShutdown
  | .destroy _ => some .destructor

/-- The final stops among the publishers. -/
def Source.finalStop? : Source → Option Source
  | .onShutdown => some .onShutdown
  | .destructor => some .destructor
  | _ => none

namespace System

/-- The callback which reads its clock on entry at a step. -/
def entries (system : System) : Label → List Entry
  | .advance .executor now =>
      match system.executor with
      | .cmdVel .stamp msg => [.cmdVel msg now]
      | .watchdog .readClock => [.watchdog now]
      | _ => []
  | _ => []

/-- The commands which a schedule hands to `publish`. -/
def handed (origin : System) (labels : List Label) : List SportModeCmd :=
  interleaving.observations
    (fun system label => label.published system.node) origin labels

/-- The callbacks entered in a schedule. -/
def entered (origin : System) (labels : List Label) : List Entry :=
  interleaving.observations entries origin labels

end System

/-! ## What a point of the executor thread stands for -/

namespace ExecutorPoint

/-- Whether a stop has been decided on and not yet published. -/
def owesStop (node : Go2NavBridge) : ExecutorPoint → Bool
  | .watchdog (.decide entry lastCmdVelTime lastStopPublishTime) =>
      { node with lastCmdVelTime := lastCmdVelTime }.timedOut entry &&
        (!node.timeoutStopSent ||
          { node with
            lastStopPublishTime :=
              lastStopPublishTime }.periodicRepublish entry)
  | .watchdog (.exchange entry lastStopPublishTime) =>
      !node.timeoutStopSent ||
        { node with
          lastStopPublishTime :=
            lastStopPublishTime }.periodicRepublish entry
  | .watchdog (.stop .acquire) => true
  | .watchdog (.stop .publish) => true
  | _ => false

/-- Whether a stop has been published and not yet stamped. -/
def owesStamp : ExecutorPoint → Bool
  | .watchdog (.stop .stamp) => true
  | .destroying .stamp => true
  | _ => false

/-- The callback which has read its clock and not yet taken effect. -/
def pendingEntry (node : Go2NavBridge) : ExecutorPoint → List Entry
  | .cmdVel .publish msg => [.cmdVel msg node.lastCmdVelTime]
  | .watchdog (.acquire entry) => [.watchdog entry]
  | .watchdog (.copy entry) => [.watchdog entry]
  | _ => []

/--
The node which the operations done so far leave behind, seen from a point.
A velocity message has written ahead of it, a tick behind it.
-/
def Commits (node committed : Go2NavBridge) : ExecutorPoint → Prop
  | .cmdVel .clear _ => node = { committed with cmdVelReceived := true }
  | .cmdVel .acquire _ =>
      node =
        { committed with cmdVelReceived := true, timeoutStopSent := false }
  | .cmdVel .stamp _ =>
      node =
        { committed with cmdVelReceived := true, timeoutStopSent := false }
  | .cmdVel .publish _ =>
      node =
        { committed with
          cmdVelReceived := true
          timeoutStopSent := false
          lastCmdVelTime := node.lastCmdVelTime }
  | .watchdog (.decide entry lastCmdVelTime _) =>
      committed =
        { node with
          timeoutStopSent :=
            { node with lastCmdVelTime := lastCmdVelTime }.timedOut entry }
  | .watchdog .clear => committed = { node with timeoutStopSent := false }
  | .watchdog (.exchange _ _) =>
      committed = { node with timeoutStopSent := true }
  | _ => committed = node

end ExecutorPoint

def SignalPoint.owesStamp : SignalPoint → Bool
  | .sendingStop .stamp => true
  | .destroying .stamp => true
  | _ => false

namespace System

/-- Whether the last stop of the serial run has no stamp yet. -/
def stampOpen (system : System) : Bool :=
  system.executor.owesStop system.node || system.executor.owesStamp ||
    system.signal.owesStamp

/-- The stop which the serial run has published ahead. -/
def credit (system : System) : List SportModeCmd :=
  if system.executor.owesStop system.node then [stopCommand] else []

/-- A stop published ahead is the stop published next. -/
theorem credit_append (system : System) :
    system.credit ++ [stopCommand] = [stopCommand] ++ system.credit := by
  rw [credit]
  split_ifs <;> rfl

end System

/-- A serial run of operations which a schedule amounts to, up to an open stamp. -/
structure SerialRun (origin : Go2NavBridge) (system : System)
    (handed : List SportModeCmd) (entered : List Entry)
    (finalStops : List Source) (committed : Go2NavBridge) (reading : Time)
    (operations : List Operation) : Prop where
  node :
    lifetimeReactor.final origin operations =
      { committed with
        lastStopPublishTime :=
          if system.stampOpen then reading
          else system.node.lastStopPublishTime }
  published :
    lifetimeReactor.outputs origin operations = handed ++ system.credit
  entries :
    operations.filterMap Operation.entry? ++
        system.executor.pendingEntry system.node =
      entered
  finalStops : operations.filterMap Operation.finalStop? = finalStops

/-- Every reading of an open stamp completes the serial run. -/
def Serial (origin : Go2NavBridge) (system : System)
    (handed : List SportModeCmd) (entered : List Entry)
    (finalStops : List Source) : Prop :=
  ∃ committed, system.executor.Commits system.node committed ∧
    ∀ reading, ∃ operations,
      SerialRun origin system handed entered finalStops committed reading
        operations

/-- A whole tick, when its publish returns. -/
theorem Go2NavBridge.watchdogCallback_eq
    (node : Go2NavBridge) {environment : Environment}
    (returns : environment.publish = .returns) :
    node.watchdogCallback environment =
      ({ node with
          timeoutStopSent := node.timedOut environment.now
          lastStopPublishTime :=
            if node.timedOut environment.now &&
                (!node.timeoutStopSent ||
                  node.periodicRepublish environment.now) then
              environment.nowAfterPublish
            else node.lastStopPublishTime },
        if node.timedOut environment.now &&
            (!node.timeoutStopSent ||
              node.periodicRepublish environment.now) then
          [stopCommand]
        else []) := by
  cases timedOut : node.timedOut environment.now with
  | false => simp [watchdogCallback_of_not_timedOut timedOut]
  | true =>
      by_cases reason :
          node.timeoutStopSent = false ∨
            node.periodicRepublish environment.now = true
      · simp [watchdogCallback_of_publishing timedOut reason returns, reason]
      · have silent := reason
        rw [not_or, Bool.not_eq_false, Bool.not_eq_true] at silent
        rw [watchdogCallback_of_silent timedOut silent.1 silent.2]
        rcases node with ⟨received, sent, lastCmd, lastStop, _, _, _⟩
        have stopSent : sent = true := silent.1
        subst stopSent
        simp [silent.2]

/-! ## What one step adds to the serial run -/

/-- The operations which a step adds, and what they do. -/
structure SerialStep (system next : System) (handed : List SportModeCmd)
    (entered : List Entry) (finalStops : List Source)
    (committed following : Go2NavBridge) (before after : Time)
    (operations : List Operation) : Prop where
  node :
    lifetimeReactor.final
        { committed with
          lastStopPublishTime :=
            if system.stampOpen then before
            else system.node.lastStopPublishTime }
        operations =
      { following with
        lastStopPublishTime :=
          if next.stampOpen then after
          else next.node.lastStopPublishTime }
  published :
    system.credit ++
        lifetimeReactor.outputs
          { committed with
            lastStopPublishTime :=
              if system.stampOpen then before
              else system.node.lastStopPublishTime }
          operations =
      handed ++ next.credit
  entries :
    operations.filterMap Operation.entry? ++
        next.executor.pendingEntry next.node =
      system.executor.pendingEntry system.node ++ entered
  finalStops : operations.filterMap Operation.finalStop? = finalStops

/-- A step whose operations can be told extends the serial run. -/
theorem Serial.extend {origin : Go2NavBridge} {system next : System}
    {handed newHanded : List SportModeCmd}
    {entered newEntered : List Entry} {finalStops newStops : List Source}
    (serial : Serial origin system handed entered finalStops)
    (follow :
      ∀ committed, system.executor.Commits system.node committed →
        ∃ following, next.executor.Commits next.node following ∧
          ∀ after, ∃ before operations,
            SerialStep system next newHanded newEntered newStops committed
              following before after operations) :
    Serial origin next (handed ++ newHanded) (entered ++ newEntered)
      (finalStops ++ newStops) := by
  rcases serial with ⟨committed, commits, serial⟩
  rcases follow committed commits with ⟨following, commitsNext, follow⟩
  refine ⟨following, commitsNext, fun after => ?_⟩
  rcases follow after with ⟨before, added, step⟩
  rcases serial before with ⟨operations, run⟩
  refine ⟨operations ++ added, ?_, ?_, ?_, ?_⟩
  · rw [Reactor.final_append, run.node, step.node]
  · have published := run.published
    rw [Reactor.outputs] at published
    rw [Reactor.outputs, Reactor.trace_append, List.flatMap_append,
      published, run.node, List.append_assoc]
    exact (congrArg _ step.published).trans (List.append_assoc _ _ _).symm
  · rw [List.filterMap_append, List.append_assoc, step.entries,
      ← List.append_assoc, run.entries]
  · rw [List.filterMap_append, run.finalStops, step.finalStops]

/-- A step which adds no operation. -/
theorem SerialStep.silent {system next : System} {entered : List Entry}
    {committed : Go2NavBridge} (reading : Time)
    (stampOpen : next.stampOpen = system.stampOpen)
    (stamp :
      next.node.lastStopPublishTime = system.node.lastStopPublishTime)
    (credit : next.credit = system.credit)
    (entries :
      next.executor.pendingEntry next.node =
        system.executor.pendingEntry system.node ++ entered) :
    SerialStep system next [] entered [] committed committed reading reading
      [] where
  node := by rw [stampOpen, stamp]; rfl
  published := by
    rw [credit]
    exact List.append_nil _
  entries := entries
  finalStops := rfl

/-- The stamp of a stop closes the serial run's last stamp, or leaves it open. -/
theorem SerialStep.stamp {system next : System} {now : Time}
    {committed : Go2NavBridge} (reading : Time)
    (opened : system.stampOpen = true)
    (node : next.node = { system.node with lastStopPublishTime := now })
    (credit : next.credit = system.credit)
    (entries :
      next.executor.pendingEntry next.node =
        system.executor.pendingEntry system.node) :
    SerialStep system next [] [] [] committed
      { committed with lastStopPublishTime := now }
      (if next.stampOpen then reading else now) reading [] where
  node := by
    rw [opened, node]
    rfl
  published := by
    rw [credit]
    exact List.append_nil _
  entries := by
    rw [entries]
    exact (List.append_nil _).symm
  finalStops := rfl

/-- The publish of a final stop, ahead of which a stop may be due. -/
theorem SerialStep.finalStop {system next : System}
    {committed : Go2NavBridge} {source : Source} (reading : Time)
    (operation : Operation)
    (isStop :
      ∀ node : Go2NavBridge,
        lifetimeReactor.step node operation =
          ({ node with lastStopPublishTime := reading }, [stopCommand]))
    (entry : operation.entry? = none)
    (stops : operation.finalStop? = some source)
    (opened : next.stampOpen = true)
    (credit : next.credit = system.credit)
    (entries :
      next.executor.pendingEntry next.node =
        system.executor.pendingEntry system.node) :
    SerialStep system next [stopCommand] [] [source] committed committed
      reading reading [operation] where
  node := by
    rw [Reactor.final_singleton, isStop, opened]
    rfl
  published := by
    rw [Reactor.outputs_cons, isStop, credit]
    exact system.credit_append
  entries := by
    rw [List.filterMap_cons_none entry, entries]
    exact (List.append_nil _).symm
  finalStops := by
    rw [List.filterMap_cons_some stops]
    rfl

theorem lifetimeReactor_sendStop (node : Go2NavBridge) (reading : Time) :
    lifetimeReactor.step node (.sendStop ⟨0, reading, .returns⟩) =
      ({ node with lastStopPublishTime := reading }, [stopCommand]) :=
  rfl

theorem lifetimeReactor_destroy (node : Go2NavBridge) (reading : Time) :
    lifetimeReactor.step node (.destroy ⟨0, reading, .returns⟩) =
      ({ node with lastStopPublishTime := reading }, [stopCommand]) :=
  rfl

/-! ## Each step of each thread -/

/-- The commitment does not read the stamp of the last stop. -/
theorem ExecutorPoint.Commits.stamp {point : ExecutorPoint}
    {node committed : Go2NavBridge} (commits : point.Commits node committed)
    (now : Time) :
    point.Commits { node with lastStopPublishTime := now }
      { committed with lastStopPublishTime := now } := by
  rcases node with ⟨received, sent, lastCmd, lastStop, linear, angular, timeout⟩
  rcases committed with ⟨_, _, _, _, _, _, _⟩
  cases point with
  | cmdVel phase msg =>
      cases phase <;> simp_all [ExecutorPoint.Commits]
  | watchdog phase =>
      cases phase <;>
        simp_all [ExecutorPoint.Commits, Go2NavBridge.timedOut]
  | _ => simp_all [ExecutorPoint.Commits]

/-- What a step adds to the serial run, whatever has been committed. -/
def Follows (system : System) (label : Label) (next : System) : Prop :=
  ∀ committed, system.executor.Commits system.node committed →
    ∃ following, next.executor.Commits next.node following ∧
      ∀ after, ∃ before operations,
        SerialStep system next (label.published system.node)
          (system.entries label)
          ((system.sources label).filterMap Source.finalStop?)
          committed following before after operations

/-- A step which keeps the commitment and adds no operation. -/
theorem Follows.silent {system next : System} {label : Label}
    (silent : label.published system.node = [])
    (stops : system.sources label = [])
    (commits :
      ∀ committed, system.executor.Commits system.node committed →
        next.executor.Commits next.node committed)
    (stampOpen : next.stampOpen = system.stampOpen)
    (stamp :
      next.node.lastStopPublishTime = system.node.lastStopPublishTime)
    (credit : next.credit = system.credit)
    (entries :
      next.executor.pendingEntry next.node =
        system.executor.pendingEntry system.node ++ system.entries label) :
    Follows system label next := by
  intro committed committedNow
  refine ⟨committed, commits committed committedNow, fun after => ?_⟩
  rw [silent, stops]
  exact ⟨after, [], .silent after stampOpen stamp credit entries⟩

/-- A step which stamps a stop. -/
theorem Follows.stamp {system next : System} {label : Label} {now : Time}
    (silent : label.published system.node = [])
    (stops : system.sources label = [])
    (opened : system.stampOpen = true)
    (node : next.node = { system.node with lastStopPublishTime := now })
    (commits :
      ∀ committed, system.executor.Commits system.node committed →
        next.executor.Commits
          { system.node with lastStopPublishTime := now }
          { committed with lastStopPublishTime := now })
    (credit : next.credit = system.credit)
    (entries :
      next.executor.pendingEntry next.node =
        system.executor.pendingEntry system.node)
    (entered : system.entries label = []) :
    Follows system label next := by
  intro committed committedNow
  refine
    ⟨_, node ▸ commits committed committedNow, fun after => ?_⟩
  rw [silent, stops, entered]
  exact ⟨_, [], .stamp after opened node credit entries⟩

theorem SignalStep.follows {system next : System} {label : Label}
    (stepped : SignalStep system label next) :
    Follows system label next := by
  cases stepped with
  | publishStop here =>
      intro committed commits
      refine ⟨committed, by simpa using commits, fun after => ?_⟩
      refine ⟨after, [.sendStop ⟨0, after, .returns⟩], ?_⟩
      have sources :
          (system.sources (.publishStop .signal)).filterMap
              Source.finalStop? =
            [.onShutdown] := by
        simp [System.sources, here, Source.finalStop?]
      rw [sources]
      exact
        .finalStop after _ (lifetimeReactor_sendStop · after) rfl rfl
          (by simp [System.stampOpen, SignalPoint.owesStamp])
          (by simp [System.credit]) (by simp)
  | publishDestructor here =>
      intro committed commits
      refine ⟨committed, by simpa using commits, fun after => ?_⟩
      refine ⟨after, [.destroy ⟨0, after, .returns⟩], ?_⟩
      have sources :
          (system.sources (.publishStop .signal)).filterMap
              Source.finalStop? =
            [.destructor] := by
        simp [System.sources, here, Source.finalStop?]
      rw [sources]
      exact
        .finalStop after _ (lifetimeReactor_destroy · after) rfl rfl
          (by simp [System.stampOpen, SignalPoint.owesStamp])
          (by simp [System.credit]) (by simp)
  | stampStop now here =>
      exact
        .stamp rfl rfl
          (by simp [System.stampOpen, here, SignalPoint.owesStamp]) rfl
          (fun _ commits => commits.stamp now) rfl rfl (by simp [System.entries])
  | stampDestructor now here =>
      exact
        .stamp rfl rfl
          (by simp [System.stampOpen, here, SignalPoint.owesStamp]) rfl
          (fun _ commits => commits.stamp now) rfl rfl (by simp [System.entries])
  | _ =>
      refine .silent rfl rfl (fun _ commits => commits) ?_ rfl rfl ?_
      · simp [System.stampOpen, SignalPoint.owesStamp, *]
      · simp [System.entries]

/-- A velocity message takes effect as its command is published. -/
theorem Follows.publishCmdVel {system : System} (msg : Twist)
    (here : system.executor = .cmdVel .publish msg) :
    Follows system (.publishCmdVel msg)
      { system.deliver (system.node.velocityCommand msg) with
        executor := .spinning } := by
  intro committed commits
  rw [here] at commits
  refine ⟨system.node, by simp [ExecutorPoint.Commits], fun after => ?_⟩
  refine
    ⟨after,
      [.callback
        (.cmdVel msg ⟨system.node.lastCmdVelTime, 0, .returns⟩)], ?_⟩
  generalize nodeEq : system.node = node at commits
  rcases node with ⟨received, sent, lastCmd, lastStop, linear, angular, timeout⟩
  rcases committed with ⟨_, _, _, _, _, _, _⟩
  simp only [ExecutorPoint.Commits, Go2NavBridge.mk.injEq] at commits
  rcases commits with ⟨rfl, rfl, -, rfl, rfl, rfl, rfl⟩
  refine ⟨?_, ?_, ?_, rfl⟩
  · simp [lifetimeReactor, bridgeReactor, Go2NavBridge.cmdVelCallback_eq,
      System.stampOpen, ExecutorPoint.owesStop, ExecutorPoint.owesStamp,
      here, nodeEq]
  · simp [lifetimeReactor, bridgeReactor, Reactor.outputs,
      Go2NavBridge.cmdVelCallback_eq, System.credit,
      ExecutorPoint.owesStop, Label.published, here, nodeEq,
      Go2NavBridge.velocityCommand]
  · simp [Operation.entry?, ExecutorPoint.pendingEntry, System.entries, here,
      nodeEq]

/-- A tick takes effect as it copies the timestamps. -/
theorem Follows.copy {system : System} (entry now : Time)
    (here : system.executor = .watchdog (.copy entry))
    (closed : system.stampOpen = false) :
    Follows system (.advance .executor now)
      { system with
        mutex := none
        executor :=
          .watchdog
            (.decide entry system.node.lastCmdVelTime
              system.node.lastStopPublishTime) } := by
  intro committed commits
  rw [here] at commits
  have committedEq : committed = system.node := commits
  subst committedEq
  refine
    ⟨{ system.node with
        timeoutStopSent := system.node.timedOut entry }, rfl,
      fun after => ?_⟩
  refine ⟨after, [.callback (.watchdog ⟨entry, after, .returns⟩)], ?_⟩
  have signalClosed : system.signal.owesStamp = false := by
    simp only [System.stampOpen, Bool.or_eq_false_iff] at closed
    exact closed.2
  have step :
      lifetimeReactor.step system.node
          (.callback (.watchdog ⟨entry, after, .returns⟩)) =
        system.node.watchdogCallback ⟨entry, after, .returns⟩ :=
    rfl
  rw [Go2NavBridge.watchdogCallback_eq _ rfl] at step
  refine ⟨?_, ?_, ?_, rfl⟩
  · rw [closed, Reactor.final_singleton]
    simp only [Bool.false_eq_true, if_false]
    rw [step]
    simp [System.stampOpen, ExecutorPoint.owesStop,
      ExecutorPoint.owesStamp, signalClosed]
  · rw [closed, Reactor.outputs_cons]
    simp only [Bool.false_eq_true, if_false]
    rw [step]
    simp [System.credit, ExecutorPoint.owesStop, here, Label.published,
      Reactor.outputs]
  · simp [Operation.entry?, ExecutorPoint.pendingEntry, here,
      System.entries]

theorem SignalPoint.owesStamp_of_not_locked {point : SignalPoint}
    (outside : point.locked = false) : point.owesStamp = false := by
  cases point with
  | sendingStop phase => cases phase <;> first | rfl | cases outside
  | destroying phase => cases phase <;> first | rfl | cases outside
  | _ => rfl

theorem ExecutorStep.follows {system next : System} {label : Label}
    (stepped : ExecutorStep system label next)
    (exact : system.MutexExact) : Follows system label next := by
  cases stepped with
  | publishCmdVel msg here => exact .publishCmdVel msg here
  | copy entry now here =>
      refine .copy entry now here ?_
      have held := (exact .executor).mpr (by
        simp [System.inCriticalSection, here, ExecutorPoint.locked])
      have outside : system.signal.locked = false := by
        by_contra inside
        rw [(exact .signal).mpr (Bool.not_eq_false _ ▸ inside)] at held
        cases held
      simp [System.stampOpen, ExecutorPoint.owesStop,
        ExecutorPoint.owesStamp, here,
        SignalPoint.owesStamp_of_not_locked outside]
  | publishStop here =>
      intro committed commits
      refine
        ⟨committed, by simpa [here, ExecutorPoint.Commits] using commits,
          fun after => ⟨after, [], ?_, ?_, ?_, ?_⟩⟩
      · simp [System.stampOpen, here, ExecutorPoint.owesStop,
          ExecutorPoint.owesStamp]
      · simp [System.credit, here, ExecutorPoint.owesStop,
          Label.published, Reactor.outputs]
      · simp [ExecutorPoint.pendingEntry, here, System.entries]
      · simp [System.sources, here, Source.finalStop?]
  | publishDestructor here =>
      intro committed commits
      refine
        ⟨committed, by simpa [here, ExecutorPoint.Commits] using commits,
          fun after => ?_⟩
      refine ⟨after, [.destroy ⟨0, after, .returns⟩], ?_⟩
      have sources :
          (system.sources (.publishStop .executor)).filterMap
              Source.finalStop? =
            [.destructor] := by
        simp [System.sources, here, Source.finalStop?]
      rw [sources]
      exact
        .finalStop after _ (lifetimeReactor_destroy · after) rfl rfl
          (by simp [System.stampOpen, ExecutorPoint.owesStamp])
          (by simp [System.credit, here, ExecutorPoint.owesStop])
          (by simp [ExecutorPoint.pendingEntry, here])
  | stampStop now here =>
      exact
        .stamp rfl rfl
          (by simp [System.stampOpen, here, ExecutorPoint.owesStamp]) rfl
          (fun committed commits => by
            have committedEq : committed = system.node := by
              simpa [here, ExecutorPoint.Commits] using commits
            rw [committedEq]
            rfl)
          (by simp [System.credit, here, ExecutorPoint.owesStop])
          (by simp [ExecutorPoint.pendingEntry, here])
          (by simp [System.entries, here])
  | stampDestructor now here =>
      exact
        .stamp rfl rfl
          (by simp [System.stampOpen, here, ExecutorPoint.owesStamp]) rfl
          (fun committed commits => by
            have committedEq : committed = system.node := by
              simpa [here, ExecutorPoint.Commits] using commits
            rw [committedEq]
            rfl)
          (by simp [System.credit, here, ExecutorPoint.owesStop])
          (by simp [ExecutorPoint.pendingEntry, here])
          (by simp [System.entries, here])
  | _ =>
      refine .silent rfl rfl ?_ ?_ rfl ?_ ?_
      · intro committed commits
        simp_all [ExecutorPoint.Commits]
      · simp [System.stampOpen, ExecutorPoint.owesStop,
          ExecutorPoint.owesStamp, *]
      · simp [System.credit, ExecutorPoint.owesStop, *]
      · simp [ExecutorPoint.pendingEntry, System.entries, *]

/-! ## Whole schedules -/

namespace System

/-- The final stops published in a schedule. -/
def finalStops (origin : System) (labels : List Label) : List Source :=
  (origin.publishers labels).filterMap Source.finalStop?

/-- The serial run which a schedule amounts to. -/
def IsSerial (origin : System) (labels : List Label) (reached : System) :
    Prop :=
  Serial origin.node reached (origin.handed labels) (origin.entered labels)
    (origin.finalStops labels)

theorem isSerial_of_run
    {parameters : Parameters} {environment : Environment}
    {labels : List Label} {last : System}
    (ran : (System.start parameters environment).run labels = some last) :
    (System.start parameters environment).IsSerial labels last := by
  rw [System.run_eq] at ran
  refine StepSystem.related_to_run ?_ ?_ ran
  · refine ⟨(construct parameters environment).node, rfl, fun _ => ?_⟩
    exact ⟨[], rfl, rfl, rfl, rfl⟩
  · intro past reached label next ranPast serial stepped
    have exact : reached.MutexExact :=
      System.mutexExact_of_run (System.run_eq _ _ ▸ ranPast)
    have follows : Follows reached label next := by
      rcases System.step_cases stepped with executor | signal
      · exact executor.follows exact
      · exact signal.follows
    rw [IsSerial, handed, entered, finalStops, publishers,
      StepSystem.observations_snoc _ _ ranPast,
      StepSystem.observations_snoc _ _ ranPast,
      StepSystem.observations_snoc _ _ ranPast, List.filterMap_append]
    exact Serial.extend serial follows

/-- Neither thread is inside a callback or between the publish and the stamp of a stop. -/
def Quiescent (system : System) : Prop :=
  (system.executor = .spinning ∨ system.executor = .returned ∨
      system.executor = .shutDown ∨ system.executor = .leaving ∨
        system.executor = .exited) ∧
    system.signal.owesStamp = false

end System

/--
Every interleaving is serial.  Whenever no callback is in progress and no stop
awaits its stamp, the callbacks entered and the final stops, in some order and
one at a time, leave the same node behind and publish the same commands.
-/
theorem interleaving_serial
    (parameters : Parameters) (environment : Environment)
    (labels : List Label) (last : System)
    (ran : (System.start parameters environment).run labels = some last)
    (quiescent : last.Quiescent) :
    ∃ operations : List Operation,
      lifetimeReactor.final (construct parameters environment).node
            operations =
          last.node ∧
        lifetimeReactor.outputs (construct parameters environment).node
            operations =
          (System.start parameters environment).handed labels ∧
        operations.filterMap Operation.entry? =
          (System.start parameters environment).entered labels ∧
        operations.filterMap Operation.finalStop? =
          (System.start parameters environment).finalStops labels := by
  rcases System.isSerial_of_run ran with ⟨committed, commits, serial⟩
  rcases serial 0 with ⟨operations, run⟩
  rcases quiescent with ⟨idle, closed⟩
  have noStop : last.executor.owesStop last.node = false := by
    rcases idle with here | here | here | here | here <;> rw [here] <;> rfl
  have noStamp : last.executor.owesStamp = false := by
    rcases idle with here | here | here | here | here <;> rw [here] <;> rfl
  have noEntry : last.executor.pendingEntry last.node = [] := by
    rcases idle with here | here | here | here | here <;> rw [here] <;> rfl
  have committedEq : committed = last.node := by
    rcases idle with here | here | here | here | here <;>
      exact (here ▸ commits : ExecutorPoint.Commits _ _ _)
  refine ⟨operations, ?_, ?_, ?_, run.finalStops⟩
  · rw [System.start] at run
    rw [run.node, System.stampOpen, noStop, noStamp, closed, committedEq]
    rfl
  · exact run.published.trans (by rw [System.credit, noStop]; exact List.append_nil _)
  · rw [← run.entries, noEntry, List.append_nil]

/-- A tick which decides on a stop, overtaken by the on-shutdown callback's stop. -/
def interruptedSchedule : List Label :=
  [ .fireTimer,
    .advance .executor 0,
    .advance .executor 0,
    .advance .executor 0,
    .invalidate,
    .advance .signal 1,
    .advance .signal 1,
    .publishStop .signal,
    .advance .signal 1,
    .advance .executor 2,
    .advance .executor 2,
    .advance .executor 2,
    .publishStop .executor,
    .advance .executor 3 ]

theorem interleaving_serial_interrupted :
    ∃ last, defaultStart.run interruptedSchedule = some last ∧
      ∃ operations : List Operation,
        lifetimeReactor.final defaultStart.node operations = last.node ∧
          lifetimeReactor.outputs defaultStart.node operations =
            defaultStart.handed interruptedSchedule ∧
          operations.filterMap Operation.entry? =
            defaultStart.entered interruptedSchedule ∧
          operations.filterMap Operation.finalStop? =
            defaultStart.finalStops interruptedSchedule := by
  refine ⟨_, rfl, interleaving_serial _ _ _ _ ?_ ?_⟩
  · rfl
  · exact ⟨Or.inl rfl, rfl⟩

end Go2Navigation.Bridge
