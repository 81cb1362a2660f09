import Go2Navigation.Bridge.Command
import Go2Navigation.Foundation.Reactor

/-!
# The bridge node

State, constructor and callbacks of `Go2NavBridge`, one callback at a time.
Clock readings and the fate of a publish call come from outside and are
arguments of each call.  A callback which catches its exceptions keeps the
state written before the throw, exactly as the source does.
-/

namespace Go2Navigation.Bridge

open Go2Navigation.Numeric
open Go2Navigation.Foundation

/-- A reading of the node clock in nanoseconds. -/
abbrev Time := ℤ

/-- `(now - last).seconds() * 1000.0`, in exact arithmetic. -/
def elapsedMs (now last : Time) : ℚ :=
  ((now - last : ℤ) : ℚ) / 10 ^ 9 * 1000

structure Vector3 where
  x : Double
  y : Double
  z : Double
deriving DecidableEq

structure Twist where
  linear : Vector3
  angular : Vector3
deriving DecidableEq

/-- A validated parameter: finite and positive by construction. -/
structure EffectiveParameter where
  value : Double
  positive : PositiveFinite value

namespace EffectiveParameter

/-- The rational value of a validated parameter. -/
def rational (parameter : EffectiveParameter) : ℚ :=
  match parameter.value with
  | .finite rational => rational
  | _ => 0

theorem value_eq (parameter : EffectiveParameter) :
    parameter.value = .finite parameter.rational := by
  rcases parameter with ⟨value, rational, rfl, positive⟩
  rfl

theorem rational_pos (parameter : EffectiveParameter) :
    0 < parameter.rational := by
  rcases parameter with ⟨value, rational, rfl, positive⟩
  exact positive

end EffectiveParameter

/-- Whether a call of `publish` returns or throws. -/
inductive PublishOutcome where
  | returns
  | throws
deriving DecidableEq

/--
What one call observes of the outside: the reading of `this->now()` on entry,
the reading taken after a stop was published, and the fate of its publish.
-/
structure Environment where
  now : Time
  nowAfterPublish : Time
  publish : PublishOutcome
deriving DecidableEq

/-- The members of the node. -/
structure Go2NavBridge where
  cmdVelReceived : Bool
  timeoutStopSent : Bool
  lastCmdVelTime : Time
  lastStopPublishTime : Time
  linearMax : EffectiveParameter
  angularMax : EffectiveParameter
  watchdogTimeoutMs : EffectiveParameter

/-- State and messages a call leaves behind, and whether it is throwing. -/
structure CallResult where
  node : Go2NavBridge
  published : List SportModeCmd
  throwing : Bool

/-- Leaving a `try` block whose handler only logs. -/
def CallResult.caught (result : CallResult) :
    Go2NavBridge × List SportModeCmd :=
  (result.node, result.published)

def validatePositiveParameter
    (value : Double) (fallback : EffectiveParameter) : EffectiveParameter where
  value :=
    if !value.isFinite || value.le (.finite 0) then fallback.value else value
  positive := validatePositiveOrFallback_positive value fallback.positive

def sanitizeFiniteInput (value : Double) : Double :=
  if !value.isFinite then .finite 0 else value

/-- The node's private validator is the utility function. -/
theorem validatePositiveParameter_value
    (value : Double) (fallback : EffectiveParameter) :
    (validatePositiveParameter value fallback).value =
      validatePositiveOrFallback value fallback.value :=
  rfl

/-- A positive finite parameter is kept as it is. -/
theorem validatePositiveParameter_rational
    {rational : ℚ} (positive : 0 < rational)
    (fallback : EffectiveParameter) :
    (validatePositiveParameter (.finite rational) fallback).rational =
      rational := by
  have kept :=
    validatePositiveOrFallback_of_positive fallback.value
      ⟨rational, rfl, positive⟩
  rw [← validatePositiveParameter_value,
    EffectiveParameter.value_eq] at kept
  exact Double.finite.inj kept

/-- The node's private sanitiser is the utility function. -/
theorem sanitizeFiniteInput_eq (value : Double) :
    sanitizeFiniteInput value = sanitizeFiniteOrZero value :=
  rfl

namespace Go2NavBridge

def publishStopUnlocked
    (node : Go2NavBridge) (environment : Environment) : CallResult :=
  match environment.publish with
  | .throws => ⟨node, [], true⟩
  | .returns =>
      ⟨{ node with lastStopPublishTime := environment.nowAfterPublish },
        [makeVelocityCommand zeroF zeroF zeroF], false⟩

def publishStopCommand
    (node : Go2NavBridge) (environment : Environment) : CallResult :=
  node.publishStopUnlocked environment

/-- The command built from one velocity message. -/
def velocityCommand (node : Go2NavBridge) (msg : Twist) : SportModeCmd :=
  let linearX := sanitizeFiniteInput msg.linear.x
  let linearY := sanitizeFiniteInput msg.linear.y
  let angularZ := sanitizeFiniteInput msg.angular.z
  makeVelocityCommand
    (clampSymmetric linearX node.linearMax.value)
    (clampSymmetric linearY node.linearMax.value)
    (clampSymmetric angularZ node.angularMax.value)

def cmdVelCallback
    (node : Go2NavBridge) (msg : Twist) (environment : Environment) :
    Go2NavBridge × List SportModeCmd :=
  let node :=
    { node with
      cmdVelReceived := true
      timeoutStopSent := false
      lastCmdVelTime := environment.now }
  let sdkMsg := node.velocityCommand msg
  match environment.publish with
  | .throws => (node, [])
  | .returns => (node, [sdkMsg])

/-- The value of `timed_out` in the watchdog. -/
def timedOut (node : Go2NavBridge) (now : Time) : Bool :=
  !node.cmdVelReceived ||
    watchdogTimeoutElapsed
      (.finite (elapsedMs now node.lastCmdVelTime))
      node.watchdogTimeoutMs.value

/-- The value of `periodic_republish` in the watchdog. -/
def periodicRepublish (node : Go2NavBridge) (now : Time) : Bool :=
  kStopRepublishMs.le (.finite (elapsedMs now node.lastStopPublishTime))

def watchdogCallback
    (node : Go2NavBridge) (environment : Environment) :
    Go2NavBridge × List SportModeCmd :=
  if !node.timedOut environment.now then
    ({ node with timeoutStopSent := false }, [])
  else
    let firstTimeout := !node.timeoutStopSent
    let periodicRepublish := node.periodicRepublish environment.now
    let node := { node with timeoutStopSent := true }
    if firstTimeout || periodicRepublish then
      (node.publishStopCommand environment).caught
    else
      (node, [])

end Go2NavBridge

/-- The declared parameters, as passed by the user. -/
structure Parameters where
  linearMax : Double
  angularMax : Double
  watchdogTimeoutMs : Double
deriving DecidableEq

/--
The constructor: parameter validation, the initial timestamps and the first
stop.  `environment.now` is the reading stored in `last_cmd_vel_time_`.
-/
def construct
    (parameters : Parameters) (environment : Environment) : CallResult :=
  Go2NavBridge.publishStopCommand
    { cmdVelReceived := false
      timeoutStopSent := false
      lastCmdVelTime := environment.now
      lastStopPublishTime := 0
      linearMax :=
        validatePositiveParameter parameters.linearMax
          ⟨kLinearMax, kLinearMax_positive⟩
      angularMax :=
        validatePositiveParameter parameters.angularMax
          ⟨kAngularMax, kAngularMax_positive⟩
      watchdogTimeoutMs :=
        validatePositiveParameter parameters.watchdogTimeoutMs
          ⟨kDefaultWatchdogMs, kDefaultWatchdogMs_positive⟩ }
    environment

/-- A callback run by the single-threaded executor. -/
inductive Callback where
  | cmdVel (msg : Twist) (environment : Environment)
  | watchdog (environment : Environment)
deriving DecidableEq

namespace Callback

def environment : Callback → Environment
  | .cmdVel _ environment => environment
  | .watchdog environment => environment

end Callback

/-- The node under its executor. -/
def bridgeReactor : Reactor Go2NavBridge Callback SportModeCmd where
  step node
    | .cmdVel msg environment => node.cmdVelCallback msg environment
    | .watchdog environment => node.watchdogCallback environment

/-! ## What one call does -/

namespace Go2NavBridge

theorem timedOut_iff (node : Go2NavBridge) (now : Time) :
    node.timedOut now = true ↔
      node.cmdVelReceived = false ∨
        node.watchdogTimeoutMs.rational <
          elapsedMs now node.lastCmdVelTime := by
  simp [timedOut, watchdogTimeoutElapsed,
    node.watchdogTimeoutMs.value_eq]

theorem periodicRepublish_iff (node : Go2NavBridge) (now : Time) :
    node.periodicRepublish now = true ↔
      500 ≤ elapsedMs now node.lastStopPublishTime := by
  simp [periodicRepublish, kStopRepublishMs]

/-- A tick within the timeout clears the flag and publishes nothing. -/
theorem watchdogCallback_of_not_timedOut
    {node : Go2NavBridge} {environment : Environment}
    (alive : node.timedOut environment.now = false) :
    node.watchdogCallback environment =
      ({ node with timeoutStopSent := false }, []) := by
  simp [watchdogCallback, alive]

/-- A timed-out tick with neither reason to publish only keeps its flag. -/
theorem watchdogCallback_of_silent
    {node : Go2NavBridge} {environment : Environment}
    (timedOut : node.timedOut environment.now = true)
    (sent : node.timeoutStopSent = true)
    (recent : node.periodicRepublish environment.now = false) :
    node.watchdogCallback environment = (node, []) := by
  rcases node with ⟨received, stopSent, lastCmd, lastStop, _, _, _⟩
  simp only at sent
  subst sent
  simp [watchdogCallback, timedOut, recent]

/-- A timed-out tick with a reason to publish publishes one stop. -/
theorem watchdogCallback_of_publishing
    {node : Go2NavBridge} {environment : Environment}
    (timedOut : node.timedOut environment.now = true)
    (reason :
      node.timeoutStopSent = false ∨
        node.periodicRepublish environment.now = true)
    (returns : environment.publish = .returns) :
    node.watchdogCallback environment =
      ({ node with
          timeoutStopSent := true
          lastStopPublishTime := environment.nowAfterPublish },
        [stopCommand]) := by
  have publishes :
      (!node.timeoutStopSent ||
        node.periodicRepublish environment.now) = true := by
    simpa using reason
  simp [watchdogCallback, timedOut, publishes, publishStopCommand,
    publishStopUnlocked, returns, CallResult.caught, stopCommand]

/-- A timed-out tick whose publish throws keeps the flag it has already set. -/
theorem watchdogCallback_of_throwing
    {node : Go2NavBridge} {environment : Environment}
    (timedOut : node.timedOut environment.now = true)
    (throws : environment.publish = .throws) :
    node.watchdogCallback environment =
      ({ node with timeoutStopSent := true }, []) := by
  simp [watchdogCallback, timedOut, publishStopCommand,
    publishStopUnlocked, throws, CallResult.caught]

theorem cmdVelCallback_eq
    (node : Go2NavBridge) (msg : Twist) {environment : Environment}
    (returns : environment.publish = .returns) :
    node.cmdVelCallback msg environment =
      ({ node with
          cmdVelReceived := true
          timeoutStopSent := false
          lastCmdVelTime := environment.now },
        [node.velocityCommand msg]) := by
  simp [cmdVelCallback, returns, velocityCommand]

end Go2NavBridge

end Go2Navigation.Bridge
