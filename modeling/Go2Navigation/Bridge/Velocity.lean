import Go2Navigation.Bridge.Node

/-!
# The velocities which leave the bridge

A lifetime is a constructed node followed by callbacks, explicit stops and
destruction in any order.  A published command is safe when its velocities
are finite and within the effective limits, rounded to the message's own
format.  Validation, sanitising and clamping work on doubles; only the final
narrowing can break safety, and it does so exactly when both an input and its
limit are past the overflow threshold of binary32.
-/

namespace Go2Navigation.Bridge

open Go2Navigation.Numeric
open Go2Navigation.Foundation

/-- Everything which can happen to a constructed node. -/
inductive Operation where
  | callback (callback : Callback)
  | sendStop (environment : Environment)
  | destroy (environment : Environment)

namespace Go2NavBridge

def sendStop (node : Go2NavBridge) (environment : Environment) :
    CallResult :=
  node.publishStopUnlocked environment

/-- The destructor cancels the timer and publishes one more stop. -/
def destroy (node : Go2NavBridge) (environment : Environment) :
    CallResult :=
  node.publishStopUnlocked environment

end Go2NavBridge

/-- The node over its whole lifetime. -/
def lifetimeReactor : Reactor Go2NavBridge Operation SportModeCmd where
  step node
    | .callback callback => bridgeReactor.step node callback
    | .sendStop environment => (node.sendStop environment).caught
    | .destroy environment => (node.destroy environment).caught

/-- A constructed node and everything which happens to it. -/
structure Lifetime where
  parameters : Parameters
  start : Environment
  operations : List Operation
  start_returns : start.publish = .returns

namespace Lifetime

def startNode (life : Lifetime) : Go2NavBridge :=
  (construct life.parameters life.start).node

/-- Every command published, the constructor's stop first. -/
def published (life : Lifetime) : List SportModeCmd :=
  (construct life.parameters life.start).published ++
    lifetimeReactor.outputs life.startNode life.operations

/-- The effective linear limit. -/
def linearLimit (life : Lifetime) : EffectiveParameter :=
  validatePositiveParameter life.parameters.linearMax
    ⟨kLinearMax, kLinearMax_positive⟩

/-- The effective angular limit. -/
def angularLimit (life : Lifetime) : EffectiveParameter :=
  validatePositiveParameter life.parameters.angularMax
    ⟨kAngularMax, kAngularMax_positive⟩

end Lifetime

/-- A finite narrowed value whose magnitude is at most a narrowed limit. -/
def WithinLimit (value limit : Binary32) : Prop :=
  ∃ rational, value = .finite rational ∧
    ∀ bound, limit = .finite bound → |rational| ≤ bound

/-- Finite velocities within the narrowed effective limits. -/
def SafeCommand
    (linearLimit angularLimit : EffectiveParameter)
    (cmd : SportModeCmd) : Prop :=
  WithinLimit cmd.velocities.1 linearLimit.value.toBinary32 ∧
    WithinLimit cmd.velocities.2.1 linearLimit.value.toBinary32 ∧
      WithinLimit cmd.velocities.2.2 angularLimit.value.toBinary32

/-- The input is replaced by zero, or it or its limit is below the overflow threshold. -/
def Narrowable (value : Double) (limit : EffectiveParameter) : Prop :=
  ∀ rational, value = .finite rational →
    |rational| < binary32Overflow ∨ limit.rational < binary32Overflow

/-- All three used components of a velocity message are narrowable. -/
def NarrowableTwist
    (linearLimit angularLimit : EffectiveParameter) (msg : Twist) : Prop :=
  Narrowable msg.linear.x linearLimit ∧
    Narrowable msg.linear.y linearLimit ∧
      Narrowable msg.angular.z angularLimit

theorem binary32Overflow_eq : binary32Overflow = 2 ^ 128 - 2 ^ 103 := by
  norm_num [binary32Overflow, BinaryFormat.overflowThreshold, binary32]

theorem binary32Overflow_pos : 0 < binary32Overflow := by
  rw [binary32Overflow_eq]
  norm_num

theorem cappedMagnitude_lt_iff
    (value : Double) (limit : EffectiveParameter) :
    cappedMagnitude value limit.rational < binary32Overflow ↔
      Narrowable value limit := by
  cases value with
  | finite rational => simp [cappedMagnitude, Narrowable]
  | posInf => simp [cappedMagnitude, Narrowable, binary32Overflow_pos]
  | negInf => simp [cappedMagnitude, Narrowable, binary32Overflow_pos]
  | nan => simp [cappedMagnitude, Narrowable, binary32Overflow_pos]

theorem cappedMagnitude_le
    (value : Double) (limit : EffectiveParameter) :
    cappedMagnitude value limit.rational ≤ limit.rational := by
  cases value with
  | finite rational => exact min_le_right _ _
  | posInf => exact limit.rational_pos.le
  | negInf => exact limit.rational_pos.le
  | nan => exact limit.rational_pos.le

/-- One component: sanitised, clamped and narrowed, it is safe exactly if narrowable. -/
theorem withinLimit_clampSymmetric_iff
    (value : Double) (limit : EffectiveParameter) :
    WithinLimit
        (clampSymmetric (sanitizeFiniteInput value) limit.value)
        limit.value.toBinary32 ↔
      Narrowable value limit := by
  rw [sanitizeFiniteInput_eq, limit.value_eq]
  rcases clampSymmetric_sanitized value limit.rational_pos.le with
    ⟨clamped, clampedEq, magnitude⟩
  rw [clampedEq, ← cappedMagnitude_lt_iff, ← magnitude]
  constructor
  · rintro ⟨rational, narrowedEq, _⟩
    apply (toBinary32_isFinite_iff clamped).mp
    rw [narrowedEq]
    rfl
  · intro below
    refine ⟨binary32.roundTo clamped, toBinary32_of_lt below, ?_⟩
    intro bound boundEq
    have limitBelow : |limit.rational| < binary32Overflow := by
      apply (toBinary32_isFinite_iff limit.rational).mp
      rw [boundEq]
      rfl
    rw [toBinary32_of_lt limitBelow] at boundEq
    have boundValue := Binary32.finite.inj boundEq
    have limitNonneg := binary32.roundTo_nonneg limit.rational_pos.le
    rw [← boundValue, ← abs_of_nonneg limitNonneg]
    apply binary32.abs_roundTo_mono
    rw [magnitude, abs_of_pos limit.rational_pos]
    exact cappedMagnitude_le value limit

theorem withinLimit_zeroF (limit : EffectiveParameter) :
    WithinLimit zeroF limit.value.toBinary32 := by
  refine ⟨0, rfl, ?_⟩
  intro bound boundEq
  rw [limit.value_eq] at boundEq
  have limitBelow : |limit.rational| < binary32Overflow := by
    apply (toBinary32_isFinite_iff limit.rational).mp
    rw [boundEq]
    rfl
  rw [toBinary32_of_lt limitBelow] at boundEq
  rw [abs_zero, ← Binary32.finite.inj boundEq]
  exact binary32.roundTo_nonneg limit.rational_pos.le

theorem safeCommand_stop (linearLimit angularLimit : EffectiveParameter) :
    SafeCommand linearLimit angularLimit stopCommand :=
  ⟨withinLimit_zeroF linearLimit, withinLimit_zeroF linearLimit,
    withinLimit_zeroF angularLimit⟩

/-- A velocity command is safe exactly if its message is narrowable. -/
theorem safeCommand_velocityCommand_iff
    (node : Go2NavBridge) (msg : Twist) :
    SafeCommand node.linearMax node.angularMax (node.velocityCommand msg) ↔
      NarrowableTwist node.linearMax node.angularMax msg := by
  simp only [SafeCommand, NarrowableTwist, Go2NavBridge.velocityCommand,
    makeVelocityCommand_velocities, withinLimit_clampSymmetric_iff]

/-! ## Whole lifetimes -/

theorem publishStopUnlocked_published
    (node : Go2NavBridge) (environment : Environment) :
    ∀ cmd ∈ (node.publishStopUnlocked environment).published,
      cmd = stopCommand := by
  rw [Go2NavBridge.publishStopUnlocked]
  cases environment.publish <;> simp [stopCommand]

theorem publishStopUnlocked_limits
    (node : Go2NavBridge) (environment : Environment) :
    (node.publishStopUnlocked environment).node.linearMax =
        node.linearMax ∧
      (node.publishStopUnlocked environment).node.angularMax =
        node.angularMax := by
  rw [Go2NavBridge.publishStopUnlocked]
  cases environment.publish <;> exact ⟨rfl, rfl⟩

/-- The watchdog publishes nothing but stops. -/
theorem watchdogCallback_published
    (node : Go2NavBridge) (environment : Environment) :
    ∀ cmd ∈ (node.watchdogCallback environment).2, cmd = stopCommand := by
  simp only [Go2NavBridge.watchdogCallback]
  split_ifs
  · simp
  · exact publishStopUnlocked_published _ environment
  · simp

/-- No operation changes the limits. -/
theorem lifetimeReactor_limits
    (node : Go2NavBridge) (operation : Operation) :
    (lifetimeReactor.step node operation).1.linearMax = node.linearMax ∧
      (lifetimeReactor.step node operation).1.angularMax =
        node.angularMax := by
  cases operation with
  | callback callback =>
      cases callback with
      | cmdVel msg environment =>
          simp only [lifetimeReactor, bridgeReactor,
            Go2NavBridge.cmdVelCallback]
          cases environment.publish <;> exact ⟨rfl, rfl⟩
      | watchdog environment =>
          simp only [lifetimeReactor, bridgeReactor,
            Go2NavBridge.watchdogCallback]
          split_ifs
          · exact ⟨rfl, rfl⟩
          · exact publishStopUnlocked_limits _ environment
          · exact ⟨rfl, rfl⟩
  | sendStop environment => exact publishStopUnlocked_limits _ environment
  | destroy environment => exact publishStopUnlocked_limits _ environment

/-- The one operation which can publish an unsafe command, and when it does not. -/
def OperationNarrowable
    (linearLimit angularLimit : EffectiveParameter) : Operation → Prop
  | .callback (.cmdVel msg environment) =>
      environment.publish = .returns →
        NarrowableTwist linearLimit angularLimit msg
  | _ => True

/-- One operation publishes only safe commands exactly if it is narrowable. -/
theorem step_safe_iff (node : Go2NavBridge) (operation : Operation) :
    (∀ cmd ∈ (lifetimeReactor.step node operation).2,
        SafeCommand node.linearMax node.angularMax cmd) ↔
      OperationNarrowable node.linearMax node.angularMax operation := by
  have stops :
      ∀ outputs : List SportModeCmd,
        (∀ cmd ∈ outputs, cmd = stopCommand) →
          ((∀ cmd ∈ outputs,
              SafeCommand node.linearMax node.angularMax cmd) ↔ True) := by
    intro outputs allStops
    rw [iff_true]
    intro cmd member
    rw [allStops cmd member]
    exact safeCommand_stop _ _
  cases operation with
  | callback callback =>
      cases callback with
      | cmdVel msg environment =>
          cases publishEq : environment.publish with
          | throws =>
              simp [lifetimeReactor, bridgeReactor, OperationNarrowable,
                Go2NavBridge.cmdVelCallback, publishEq]
          | returns =>
              simp only [lifetimeReactor, bridgeReactor,
                node.cmdVelCallback_eq msg publishEq, List.mem_singleton,
                forall_eq, OperationNarrowable, publishEq, true_implies]
              exact safeCommand_velocityCommand_iff node msg
      | watchdog environment =>
          exact stops _ (watchdogCallback_published node environment)
  | sendStop environment =>
      exact stops _ (publishStopUnlocked_published node environment)
  | destroy environment =>
      exact stops _ (publishStopUnlocked_published node environment)

/--
Every published command of a lifetime is safe exactly if every velocity
message which is published is narrowable under the effective limits.
-/
theorem published_safe_iff (life : Lifetime) :
    (∀ cmd ∈ life.published,
        SafeCommand life.linearLimit life.angularLimit cmd) ↔
      ∀ operation ∈ life.operations,
        OperationNarrowable life.linearLimit life.angularLimit operation := by
  have started :
      (construct life.parameters life.start).published = [stopCommand] ∧
        life.startNode.linearMax = life.linearLimit ∧
          life.startNode.angularMax = life.angularLimit := by
    simp [Lifetime.startNode, Lifetime.linearLimit, Lifetime.angularLimit,
      construct, Go2NavBridge.publishStopCommand,
      Go2NavBridge.publishStopUnlocked, life.start_returns, stopCommand]
  have preserved :
      ∀ node operation,
        node.linearMax = life.linearLimit ∧
            node.angularMax = life.angularLimit →
          OperationNarrowable life.linearLimit life.angularLimit
              operation →
            (lifetimeReactor.step node operation).1.linearMax =
                life.linearLimit ∧
              (lifetimeReactor.step node operation).1.angularMax =
                life.angularLimit := by
    intro node operation limits _
    have kept := lifetimeReactor_limits node operation
    exact ⟨kept.1.trans limits.1, kept.2.trans limits.2⟩
  have exactStep :
      ∀ node operation,
        node.linearMax = life.linearLimit ∧
            node.angularMax = life.angularLimit →
          ((∀ cmd ∈ (lifetimeReactor.step node operation).2,
              SafeCommand life.linearLimit life.angularLimit cmd) ↔
            OperationNarrowable life.linearLimit life.angularLimit
              operation) := by
    intro node operation limits
    rw [← limits.1, ← limits.2]
    exact step_safe_iff node operation
  have wholeRun :
      (∀ cmd ∈ lifetimeReactor.outputs life.startNode life.operations,
          SafeCommand life.linearLimit life.angularLimit cmd) ↔
        ∀ before operation after,
          life.operations = before ++ operation :: after →
            OperationNarrowable life.linearLimit life.angularLimit
              operation :=
    lifetimeReactor.forall_mem_outputs_iff preserved exactStep started.2
  rw [Lifetime.published, started.1, List.forall_mem_append]
  simp only [List.mem_singleton, forall_eq, safeCommand_stop, true_and]
  rw [wholeRun]
  constructor
  · intro meets operation member
    rcases List.append_of_mem member with ⟨before, after, split⟩
    exact meets before operation after split
  · intro meets before operation after split
    exact meets operation (by simp [split])

/-- Full speed ahead at a limit past the overflow threshold. -/
def overflowingTwist : Twist :=
  ⟨⟨.finite (10 ^ 39), .finite 0, .finite 0⟩,
    ⟨.finite 0, .finite 0, .finite 0⟩⟩

/-- A finite limit past the overflow threshold, and a command at that limit. -/
def overflowingLife : Lifetime where
  parameters := ⟨.finite (10 ^ 39), .finite 1, .finite 200⟩
  start := ⟨1, 1, .returns⟩
  operations :=
    [.callback (.cmdVel overflowingTwist ⟨0, 0, .returns⟩)]
  start_returns := rfl

/-- A finite command under a finite limit is published as an infinity. -/
theorem not_published_safe :
    ¬ ∀ life : Lifetime, ∀ cmd ∈ life.published,
      SafeCommand life.linearLimit life.angularLimit cmd := by
  intro safe
  have limitEq : overflowingLife.linearLimit.rational = 10 ^ 39 :=
    validatePositiveParameter_rational (by norm_num) _
  have member :
      overflowingLife.startNode.velocityCommand overflowingTwist ∈
        overflowingLife.published :=
    List.mem_append_right _ List.mem_cons_self
  have narrowable :=
    (safeCommand_velocityCommand_iff overflowingLife.startNode _).mp
      (safe overflowingLife _ member)
  rcases narrowable.1 (10 ^ 39) rfl with inputBelow | limitBelow
  · rw [binary32Overflow_eq] at inputBelow
    norm_num at inputBelow
  · change overflowingLife.linearLimit.rational < _ at limitBelow
    rw [limitEq, binary32Overflow_eq] at limitBelow
    norm_num at limitBelow

end Go2Navigation.Bridge
