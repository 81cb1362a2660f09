import Go2Navigation.Bridge.FailedStop

/-!
# The layout of the command message

Every command is built by `make_velocity_command`, whose element writes go
through an unchecked subscript.  Each call of a run is followed, whether its
message is then published or not.  All of them write one element past the end
of the same array.
-/

namespace Go2Navigation.Bridge

open Go2Navigation.Numeric
open Go2Navigation.Foundation

/-- The length with which `SportModeCmd` declares an array. -/
def ArrayMember.declaredLength : ArrayMember → ℕ
  | .position => SportModeCmd.zero.position.size
  | .euler => SportModeCmd.zero.euler.size
  | .velocity => SportModeCmd.zero.velocity.size

/-- The element exists in the declared array. -/
def ElementWrite.Inside (write : ElementWrite) : Prop :=
  write.index < write.member.declaredLength

instance (write : ElementWrite) : Decidable write.Inside :=
  inferInstanceAs (Decidable (_ < _))

/-- The arguments of one call of `make_velocity_command`. -/
structure VelocityCall where
  linearX : Binary32
  linearY : Binary32
  yawSpeed : Binary32

namespace VelocityCall

/-- The arguments of every stop. -/
def stop : VelocityCall :=
  ⟨zeroF, zeroF, zeroF⟩

/-- The element writes of a call. -/
def writes (call : VelocityCall) : List ElementWrite :=
  makeVelocityCommandWrites call.linearX call.linearY

/-- The message a call returns. -/
def message (call : VelocityCall) : SportModeCmd :=
  makeVelocityCommand call.linearX call.linearY call.yawSpeed

end VelocityCall

/-- The message differs from a zero message at most in its mode and velocities. -/
def SportModeCmd.OnlyVelocity (cmd : SportModeCmd) : Prop :=
  ∃ mode linearX linearY yawSpeed,
    cmd =
      { SportModeCmd.zero with
        mode := mode
        velocity := #v[linearX, linearY]
        yawSpeed := yawSpeed }

namespace Go2NavBridge

/-- The call made for a velocity message. -/
def velocityCall (node : Go2NavBridge) (msg : Twist) : VelocityCall where
  linearX :=
    clampSymmetric (sanitizeFiniteInput msg.linear.x) node.linearMax.value
  linearY :=
    clampSymmetric (sanitizeFiniteInput msg.linear.y) node.linearMax.value
  yawSpeed :=
    clampSymmetric (sanitizeFiniteInput msg.angular.z) node.angularMax.value

instance (node : Go2NavBridge) (now : Time) :
    Decidable (node.AttemptsStop now) :=
  inferInstanceAs (Decidable (_ ∧ _))

/-- The calls made during one operation. -/
def calls (node : Go2NavBridge) : Operation → List VelocityCall
  | .callback (.cmdVel msg _) => [node.velocityCall msg]
  | .callback (.watchdog environment) =>
      if node.AttemptsStop environment.now then [.stop] else []
  | .sendStop _ => [.stop]
  | .destroy _ => [.stop]

end Go2NavBridge

/-- What one operation observes of the outside. -/
def Operation.environment : Operation → Environment
  | .callback (.cmdVel _ environment) => environment
  | .callback (.watchdog environment) => environment
  | .sendStop environment => environment
  | .destroy environment => environment

/-- The messages built for one tick. -/
theorem watchdogCallback_calls
    (node : Go2NavBridge) (environment : Environment) :
    (node.watchdogCallback environment).2 =
      match environment.publish with
      | .returns =>
          (node.calls (.callback (.watchdog environment))).map
            VelocityCall.message
      | .throws => [] := by
  by_cases attempts : node.AttemptsStop environment.now
  · cases publishEq : environment.publish with
    | returns =>
        rw [(node.attemptsStop_iff_published publishEq).mp attempts]
        simp only [Go2NavBridge.calls, if_pos attempts]
        rfl
    | throws =>
        rw [Go2NavBridge.watchdogCallback_of_throwing attempts.1 publishEq]
  · rw [Go2NavBridge.published_of_not_attemptsStop attempts,
      Go2NavBridge.calls, if_neg attempts]
    cases environment.publish <;> rfl

/-- The messages built during an operation are published unless publishing throws. -/
theorem lifetimeReactor_published
    (node : Go2NavBridge) (operation : Operation) :
    (lifetimeReactor.step node operation).2 =
      match operation.environment.publish with
      | .returns => (node.calls operation).map VelocityCall.message
      | .throws => [] := by
  cases operation with
  | callback callback =>
      cases callback with
      | cmdVel msg environment =>
          simp only [lifetimeReactor, bridgeReactor,
            Go2NavBridge.cmdVelCallback, Operation.environment]
          cases environment.publish <;> rfl
      | watchdog environment =>
          exact watchdogCallback_calls node environment
  | sendStop environment | destroy environment =>
      simp only [lifetimeReactor, Go2NavBridge.sendStop,
        Go2NavBridge.destroy, Go2NavBridge.publishStopUnlocked,
        Operation.environment]
      cases environment.publish <;> rfl

/-- The node, emitting the calls it makes. -/
def callReactor : Reactor Go2NavBridge Operation VelocityCall where
  step node operation :=
    ((lifetimeReactor.step node operation).1, node.calls operation)

/--
All calls of a run.  The constructor publishes a stop; if that throws, there
is no node.
-/
def runCalls
    (parameters : Parameters) (start : Environment)
    (operations : List Operation) : List VelocityCall :=
  .stop ::
    match start.publish with
    | .returns =>
        callReactor.outputs (construct parameters start).node operations
    | .throws => []

/-- Every published command is the message of a call. -/
theorem mem_published_built (life : Lifetime) :
    ∀ cmd ∈ life.published,
      ∃ call ∈ runCalls life.parameters life.start life.operations,
        call.message = cmd := by
  intro cmd member
  have explained :
      ∀ node operation,
        ∀ cmd ∈ (lifetimeReactor.step node operation).2,
          ∃ call ∈ (callReactor.step node operation).2,
            call.message = cmd := by
    intro node operation cmd emitted
    rw [lifetimeReactor_published] at emitted
    cases publishEq : operation.environment.publish with
    | returns =>
        rw [publishEq] at emitted
        exact List.mem_map.mp emitted
    | throws =>
        rw [publishEq] at emitted
        cases emitted
  rw [Lifetime.published, List.mem_append] at member
  rw [runCalls, life.start_returns]
  rcases member with first | later
  · refine ⟨.stop, List.mem_cons_self, ?_⟩
    have published := publishStopUnlocked_published _ life.start cmd first
    exact published.symm
  · rcases
      lifetimeReactor.exists_mem_outputs callReactor (fun _ _ => rfl)
        explained later with
      ⟨call, made, messageEq⟩
    exact ⟨call, List.mem_cons_of_mem _ made, messageEq⟩

/-- Every element written exists, and only mode and velocities are set. -/
def BuiltInsideLayout (calls : List VelocityCall) : Prop :=
  ∀ call ∈ calls,
    (∀ write ∈ call.writes, write.Inside) ∧ call.message.OnlyVelocity

/-- The one element write which is outside, in every call. -/
theorem VelocityCall.writes_outside (call : VelocityCall) :
    (call.writes.filter fun write => ¬ write.Inside) =
      [⟨.position, 2, zeroF⟩] :=
  rfl

theorem VelocityCall.not_inside (call : VelocityCall) :
    ¬ ∀ write ∈ call.writes, write.Inside := by
  intro inside
  have member :
      (⟨.position, 2, zeroF⟩ : ElementWrite) ∈ call.writes := by
    simp [VelocityCall.writes, makeVelocityCommandWrites]
  exact absurd (inside _ member) (by decide)

/-- As far as its writes are inside, a call sets only the mode and the velocities. -/
theorem VelocityCall.message_onlyVelocity (call : VelocityCall) :
    call.message.OnlyVelocity :=
  ⟨kVelocityMoveMode, call.linearX, call.linearY, call.yawSpeed, rfl⟩

/--
No run builds its messages inside their layout: every call writes a third
element of the two-element `position`, and the constructor makes the first.
-/
theorem not_builtInsideLayout
    (parameters : Parameters) (start : Environment)
    (operations : List Operation) :
    ¬ BuiltInsideLayout (runCalls parameters start operations) ∧
      ∀ call ∈ runCalls parameters start operations,
        (call.writes.filter fun write => ¬ write.Inside) =
          [⟨.position, 2, zeroF⟩] := by
  refine ⟨?_, fun call _ => call.writes_outside⟩
  intro inside
  exact VelocityCall.stop.not_inside (inside _ List.mem_cons_self).1

/-- Construction with the default parameters is enough. -/
theorem not_builtInsideLayout_constructed :
    ¬ BuiltInsideLayout
      (runCalls ⟨kLinearMax, kAngularMax, kDefaultWatchdogMs⟩ (atMs 0)
        []) := by
  intro inside
  exact VelocityCall.stop.not_inside (inside _ List.mem_cons_self).1

end Go2Navigation.Bridge
