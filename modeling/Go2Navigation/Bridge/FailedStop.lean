import Go2Navigation.Bridge.Velocity
import Go2Navigation.Bridge.Watchdog

/-!
# Stops which fail to be published

The watchdog sets its flag before the publish which may throw, and the time
of the last stop after it.  A failed publish therefore leaves the state alone
only when the flag was set already, and otherwise counts as a stop which was
sent.  The next timed-out tick then tries again only for another reason.
-/

namespace Go2Navigation.Bridge

open Go2Navigation.Numeric
open Go2Navigation.Foundation

namespace Go2NavBridge

/-- A timed-out tick with a reason to publish a stop. -/
def AttemptsStop (node : Go2NavBridge) (now : Time) : Prop :=
  node.timedOut now = true ∧
    (node.timeoutStopSent = false ∨ node.periodicRepublish now = true)

/-- What the watchdog remembers of its stops. -/
def stopRecord (node : Go2NavBridge) : Bool × Time :=
  (node.timeoutStopSent, node.lastStopPublishTime)

/-- A tick which does not attempt a stop publishes nothing. -/
theorem published_of_not_attemptsStop
    {node : Go2NavBridge} {environment : Environment}
    (idle : ¬ node.AttemptsStop environment.now) :
    (node.watchdogCallback environment).2 = [] := by
  cases timedOut : node.timedOut environment.now with
  | false => rw [watchdogCallback_of_not_timedOut timedOut]
  | true =>
      have noReason := (not_and.mp idle) timedOut
      simp only [not_or, Bool.not_eq_false, Bool.not_eq_true] at noReason
      rw [watchdogCallback_of_silent timedOut noReason.1 noReason.2]

/-- While publishing works, the attempts are the stops which are published. -/
theorem attemptsStop_iff_published
    (node : Go2NavBridge) {environment : Environment}
    (returns : environment.publish = .returns) :
    node.AttemptsStop environment.now ↔
      (node.watchdogCallback environment).2 = [stopCommand] := by
  constructor
  · rintro ⟨timedOut, reason⟩
    rw [watchdogCallback_of_publishing timedOut reason returns]
  · intro published
    by_contra idle
    rw [published_of_not_attemptsStop idle] at published
    cases published

end Go2NavBridge

namespace Lifetime

/-- The node after some of its operations. -/
def nodeAfter (life : Lifetime) (past : List Operation) : Go2NavBridge :=
  lifetimeReactor.final life.startNode past

theorem nodeAfter_append
    (life : Lifetime) (past more : List Operation) :
    life.nodeAfter (past ++ more) =
      lifetimeReactor.final (life.nodeAfter past) more := by
  simp [nodeAfter]

end Lifetime

/-- A tick of a lifetime which attempts a stop, and whose publish throws. -/
structure FailedStop (life : Lifetime) where
  before : List Operation
  tick : Environment
  after : List Operation
  split :
    life.operations = before ++ .callback (.watchdog tick) :: after
  attempts : (life.nodeAfter before).AttemptsStop tick.now
  throws : tick.publish = .throws

namespace FailedStop

variable {life : Lifetime}

/-- The operations up to and including the failed stop. -/
def past (failed : FailedStop life) : List Operation :=
  failed.before ++ [.callback (.watchdog failed.tick)]

/-- The first timed-out tick after a failed stop. -/
structure NextTimedOut (failed : FailedStop life) where
  between : List Operation
  tick : Environment
  after : List Operation
  split : failed.after = between ++ .callback (.watchdog tick) :: after
  inTime :
    ∀ before quiet rest,
      between = before ++ .callback (.watchdog quiet) :: rest →
        (life.nodeAfter (failed.past ++ before)).timedOut quiet.now = false
  timedOut :
    (life.nodeAfter (failed.past ++ between)).timedOut tick.now = true

/-- The node which handles the next timed-out tick. -/
def NextTimedOut.node
    {failed : FailedStop life} (next : failed.NextTimedOut) :
    Go2NavBridge :=
  life.nodeAfter (failed.past ++ next.between)

end FailedStop

/-- A velocity message or a tick, as opposed to an explicit stop. -/
def Operation.isCallback : Operation → Bool
  | .callback _ => true
  | .sendStop _ => false
  | .destroy _ => false

namespace Lifetime

/--
Every failed stop leaves the record of the watchdog as it was, and the next
timed-out tick attempts the stop again.
-/
def FailedStopsUnrecorded (life : Lifetime) : Prop :=
  ∀ failed : FailedStop life,
    (life.nodeAfter failed.past).stopRecord =
        (life.nodeAfter failed.before).stopRecord ∧
      ∀ next : failed.NextTimedOut, next.node.AttemptsStop next.tick.now

/--
Every stop which fails finds the flag set.  If nothing but explicit stops
comes between it and the next timed-out tick, a republish is due there.
-/
def FailuresAreRepublishes (life : Lifetime) : Prop :=
  ∀ failed : FailedStop life,
    (life.nodeAfter failed.before).timeoutStopSent = true ∧
      ∀ next : failed.NextTimedOut,
        next.between.any Operation.isCallback = false →
          next.node.periodicRepublish next.tick.now = true

end Lifetime

/-! ## What a failed stop leaves behind -/

/-- An explicit stop keeps the flag; a message or a tick in time clears it. -/
theorem lifetimeReactor_flag
    (node : Go2NavBridge) (operation : Operation)
    (inTime :
      ∀ quiet, operation = .callback (.watchdog quiet) →
        node.timedOut quiet.now = false) :
    (lifetimeReactor.step node operation).1.timeoutStopSent =
      (!operation.isCallback && node.timeoutStopSent) := by
  cases operation with
  | callback callback =>
      cases callback with
      | cmdVel msg environment =>
          simp only [lifetimeReactor, bridgeReactor,
            Go2NavBridge.cmdVelCallback]
          cases environment.publish <;> rfl
      | watchdog environment =>
          simp only [lifetimeReactor, bridgeReactor,
            Go2NavBridge.watchdogCallback_of_not_timedOut
              (inTime environment rfl)]
          rfl
  | sendStop environment | destroy environment =>
      simp only [lifetimeReactor, Go2NavBridge.sendStop,
        Go2NavBridge.destroy, Go2NavBridge.publishStopUnlocked]
      cases environment.publish <;> rfl

/-- With no timed-out tick among them, operations keep or clear the flag. -/
theorem final_flag
    (node : Go2NavBridge) (operations : List Operation)
    (inTime :
      ∀ before quiet rest,
        operations = before ++ .callback (.watchdog quiet) :: rest →
          (lifetimeReactor.final node before).timedOut quiet.now = false) :
    (lifetimeReactor.final node operations).timeoutStopSent =
      (!operations.any Operation.isCallback && node.timeoutStopSent) := by
  induction operations generalizing node with
  | nil => simp
  | cons operation rest induction =>
      have first :=
        lifetimeReactor_flag node operation fun quiet isQuiet =>
          inTime [] quiet rest (by rw [isQuiet, List.nil_append])
      have later :=
        induction (lifetimeReactor.step node operation).1
          fun before quiet tail split =>
            inTime (operation :: before) quiet tail
              (by rw [split, List.cons_append])
      change
        (lifetimeReactor.final (lifetimeReactor.step node operation).1
            rest).timeoutStopSent = _
      rw [later, first, List.any_cons, Bool.not_or, ← Bool.and_assoc,
        Bool.and_comm (!rest.any _)]

namespace FailedStop

variable {life : Lifetime} (failed : FailedStop life)

theorem nodeAfter_past :
    life.nodeAfter failed.past =
      { life.nodeAfter failed.before with timeoutStopSent := true } := by
  have stepEq :=
    Go2NavBridge.watchdogCallback_of_throwing failed.attempts.1
      failed.throws
  rw [past, life.nodeAfter_append, Reactor.final_singleton]
  exact congrArg Prod.fst stepEq

/-- The record is left as it was exactly if the flag was set already. -/
theorem stopRecord_eq_iff :
    (life.nodeAfter failed.past).stopRecord =
        (life.nodeAfter failed.before).stopRecord ↔
      (life.nodeAfter failed.before).timeoutStopSent = true := by
  rw [failed.nodeAfter_past, Go2NavBridge.stopRecord,
    Go2NavBridge.stopRecord, Prod.mk.injEq, and_iff_left rfl]
  exact eq_comm

variable {failed}

/-- The flag stays set unless a message or a tick in time clears it. -/
theorem NextTimedOut.flag (next : failed.NextTimedOut) :
    next.node.timeoutStopSent =
      !next.between.any Operation.isCallback := by
  have flag :=
    final_flag (life.nodeAfter failed.past) next.between
      fun before quiet rest split => by
        rw [← life.nodeAfter_append]
        exact next.inTime before quiet rest split
  rw [NextTimedOut.node, life.nodeAfter_append, flag,
    failed.nodeAfter_past, Bool.and_true]

/-- The next timed-out tick tries again after a message or a tick in time, or if due. -/
theorem NextTimedOut.attemptsStop_iff (next : failed.NextTimedOut) :
    next.node.AttemptsStop next.tick.now ↔
      (next.between.any Operation.isCallback = false →
        next.node.periodicRepublish next.tick.now = true) := by
  rw [Go2NavBridge.AttemptsStop, next.flag, NextTimedOut.node,
    and_iff_right next.timedOut, Bool.not_eq_false', ← Bool.not_eq_false,
    ← imp_iff_not_or]

/-- One failed stop is not recorded as sent, and is retried. -/
theorem unrecorded_iff (failed : FailedStop life) :
    ((life.nodeAfter failed.past).stopRecord =
          (life.nodeAfter failed.before).stopRecord ∧
        ∀ next : failed.NextTimedOut,
          next.node.AttemptsStop next.tick.now) ↔
      (life.nodeAfter failed.before).timeoutStopSent = true ∧
        ∀ next : failed.NextTimedOut,
          next.between.any Operation.isCallback = false →
            next.node.periodicRepublish next.tick.now = true := by
  rw [failed.stopRecord_eq_iff]
  exact
    and_congr_right' (forall_congr' fun next => next.attemptsStop_iff)

end FailedStop

/--
Failed stops are not recorded as sent, and are retried, in exactly the
lifetimes in which every failing stop is a republish.
-/
theorem failedStopsUnrecorded_iff_failuresAreRepublishes
    (life : Lifetime) :
    life.FailedStopsUnrecorded ↔ life.FailuresAreRepublishes := by
  apply forall_congr'
  intro failed
  exact failed.unrecorded_iff

/--
Without explicit stops, and with a clock which is not stepped back, a failed
republish is always retried.
-/
theorem failedStopsUnrecorded_iff_of_nonDecreasing
    (life : Lifetime)
    (callbacksOnly : life.operations.all Operation.isCallback = true)
    (nonDecreasing :
      ∀ (failed : FailedStop life) (next : failed.NextTimedOut),
        failed.tick.now ≤ next.tick.now) :
    life.FailedStopsUnrecorded ↔
      ∀ failed : FailedStop life,
        (life.nodeAfter failed.before).timeoutStopSent = true := by
  apply forall_congr'
  intro failed
  rw [failed.unrecorded_iff]
  apply and_iff_left_of_imp
  intro flag next noCallback
  have between : next.between = [] := by
    cases betweenEq : next.between with
    | nil => rfl
    | cons operation rest =>
        have member : operation ∈ life.operations := by
          simp [failed.split, next.split, betweenEq]
        have isCallback := List.all_eq_true.mp callbacksOnly _ member
        simp [betweenEq, isCallback] at noCallback
  have due :
      (life.nodeAfter failed.before).periodicRepublish failed.tick.now =
        true := by
    rcases failed.attempts.2 with unset | due
    · rw [flag] at unset
      cases unset
    · exact due
  rw [FailedStop.NextTimedOut.node, between, List.append_nil,
    failed.nodeAfter_past, Go2NavBridge.periodicRepublish_iff]
  rw [Go2NavBridge.periodicRepublish_iff] at due
  exact due.trans (elapsedMs_mono (nonDecreasing failed next))

/-! ## A first stop which fails -/

/-- A clock reading at the given millisecond, at which publishing throws. -/
def throwsAtMs (reading : ℤ) : Environment :=
  { atMs reading with publish := .throws }

/-- The first stop after a command fails, a quarter second after another stop. -/
def failedLife : Lifetime where
  parameters := ⟨.finite 1, .finite 1, .finite 200⟩
  start := atMs 50
  operations :=
    [.callback (.cmdVel zeroTwist (atMs 50)),
      .callback (.watchdog (throwsAtMs 300)),
      .callback (.watchdog (atMs 400))]
  start_returns := rfl

/-- The tick at 300 milliseconds. -/
def failedFirstStop : FailedStop failedLife where
  before := [.callback (.cmdVel zeroTwist (atMs 50))]
  tick := throwsAtMs 300
  after := [.callback (.watchdog (atMs 400))]
  split := rfl
  attempts := by
    refine ⟨?_, Or.inl rfl⟩
    rw [Go2NavBridge.timedOut_iff]
    right
    have timeout :
        failedLife.startNode.watchdogTimeoutMs.rational = 200 :=
      validatePositiveParameter_rational (by norm_num) _
    change
      failedLife.startNode.watchdogTimeoutMs.rational <
        elapsedMs (300 * 10 ^ 6) (50 * 10 ^ 6)
    rw [timeout]
    norm_num [elapsedMs]
  throws := rfl

/-- The tick at 400 milliseconds. -/
def failedNextTick : failedFirstStop.NextTimedOut where
  between := []
  tick := atMs 400
  after := []
  split := rfl
  inTime := by simp
  timedOut := by
    have stillOverdue :=
      (Go2NavBridge.timedOut_iff _ _).mp failedFirstStop.attempts.1
    rw [List.append_nil, failedFirstStop.nodeAfter_past,
      Go2NavBridge.timedOut_iff]
    exact
      stillOverdue.imp_right fun overdue =>
        overdue.trans_le (elapsedMs_mono (by decide))

/-- The failed stop is recorded as sent, and the next tick is silent. -/
theorem not_failedStopsUnrecorded :
    ¬ failedLife.FailedStopsUnrecorded ∧
      ¬ failedNextTick.node.AttemptsStop failedNextTick.tick.now := by
  constructor
  · intro unrecorded
    have flag :=
      failedFirstStop.stopRecord_eq_iff.mp (unrecorded failedFirstStop).1
    cases flag
  · intro attempts
    have due := failedNextTick.attemptsStop_iff.mp attempts rfl
    have nodeEq :
        failedNextTick.node.lastStopPublishTime = 50 * 10 ^ 6 := by
      rw [FailedStop.NextTimedOut.node, failedNextTick, List.append_nil,
        failedFirstStop.nodeAfter_past]
      rfl
    rw [Go2NavBridge.periodicRepublish_iff, nodeEq] at due
    change 500 ≤ elapsedMs (400 * 10 ^ 6) (50 * 10 ^ 6) at due
    norm_num [elapsedMs] at due

end Go2Navigation.Bridge
