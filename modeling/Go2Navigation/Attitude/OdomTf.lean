import Go2Navigation.Attitude.Transform
import Go2Navigation.Foundation.Reactor

/-!
# The odometry transform broadcaster

State, constructor and callbacks of `OdomTfBroadcaster`.  The two mode
parameters are free strings, compared with the names the source compares
them with.  A negative stamp makes the filter throw out of the callback,
which ends the process.
-/

namespace Go2Navigation.Attitude

open Go2Navigation.Foundation

universe u

/-- The declared parameters, topic names and quality of service apart. -/
structure Parameters (K : Type u) where
  odomFrame : String
  baseFrame : String
  lockZ : Bool
  fixedZ : K
  publishStabilized : Bool
  stabilizedFrame : String
  tiltSource : String
  imuMode : String
  cfTau : K
  rollOffset : K
  pitchOffset : K

/-- The members of the node. -/
structure OdomTfBroadcaster (K : Type u) where
  parameters : Parameters K
  useImuTilt : Bool
  resolvedMode : String
  haveCfState : Bool
  roll : K
  pitch : K
  lastImuTime : ℤ

section Gravity

variable {K : Type u} [Add K] [Mul K] [Neg K] [Transcendental K]

/-- The roll at which gravity alone gives this acceleration. -/
def rollAcc (acceleration : Vector3 K) : K :=
  Transcendental.atan2 acceleration.y acceleration.z

/-- The pitch at which gravity alone gives this acceleration. -/
def pitchAcc (acceleration : Vector3 K) : K :=
  Transcendental.atan2 (-acceleration.x)
    (Transcendental.sqrt
      (acceleration.y * acceleration.y + acceleration.z * acceleration.z))

end Gravity

section Node

variable {K : Type u} [RatCast K]

/-- The declared defaults. -/
def Parameters.defaults : Parameters K where
  odomFrame := "odom"
  baseFrame := "base_link"
  lockZ := false
  fixedZ := literal 0
  publishStabilized := true
  stabilizedFrame := "base_stabilized"
  tiltSource := "odom"
  imuMode := "auto"
  cfTau := literal (1 / 4)
  rollOffset := literal 0
  pitchOffset := literal 0

/-- The tilt is published, and taken from the IMU. -/
structure Parameters.TiltFromImu (parameters : Parameters K) : Prop where
  published : parameters.publishStabilized = true
  source : parameters.tiltSource = "imu"

theorem Parameters.tiltFromImu_defaults :
    ({ Parameters.defaults with tiltSource := "imu" } :
      Parameters K).TiltFromImu :=
  ⟨rfl, rfl⟩

namespace OdomTfBroadcaster

def construct (parameters : Parameters K) : OdomTfBroadcaster K :=
  let useImuTilt :=
    parameters.publishStabilized && parameters.tiltSource == "imu"
  { parameters := parameters
    useImuTilt := useImuTilt
    resolvedMode := if useImuTilt then parameters.imuMode else ""
    haveCfState := false
    roll := literal 0
    pitch := literal 0
    lastImuTime := 0 }

/-- A node which takes its tilt from the IMU starts in the configured mode. -/
theorem construct_of_imu
    {parameters : Parameters K} (fromImu : parameters.TiltFromImu) :
    construct parameters =
      { parameters := parameters
        useImuTilt := true
        resolvedMode := parameters.imuMode
        haveCfState := false
        roll := literal 0
        pitch := literal 0
        lastImuTime := 0 } := by
  simp [construct, fromImu.published, fromImu.source]

def sendStabilized
    (tf2 : Tf2 K) (node : OdomTfBroadcaster K)
    (stamp : Stamp) (blToStab : QuaternionMsg K) : TransformStamped K where
  stamp := stamp
  frameId := node.parameters.baseFrame
  childFrameId := node.parameters.stabilizedFrame
  translation := ⟨literal 0, literal 0, literal 0⟩
  rotation := tf2.normalize blToStab

section Mode

variable [LE K] [DecidableLE K]

/-- The resolution of "auto", once, from the covariance flag. -/
def resolveMode
    (node : OdomTfBroadcaster K) (msg : Imu K) : OdomTfBroadcaster K :=
  if node.resolvedMode == "auto" then
    { node with
      resolvedMode :=
        if literal 0 ≤ msg.orientationFlag then "quaternion"
        else "complementary" }
  else node

theorem resolveMode_of_auto
    {node : OdomTfBroadcaster K} (auto : node.resolvedMode = "auto")
    (msg : Imu K) :
    node.resolveMode msg =
      { node with
        resolvedMode :=
          if literal 0 ≤ msg.orientationFlag then "quaternion"
          else "complementary" } := by
  simp [resolveMode, auto]

theorem resolveMode_of_ne_auto
    {node : OdomTfBroadcaster K} (resolved : node.resolvedMode ≠ "auto")
    (msg : Imu K) : node.resolveMode msg = node := by
  simp [resolveMode, resolved]

/-- Resolving the mode changes nothing else. -/
theorem resolveMode_eq
    (node : OdomTfBroadcaster K) (msg : Imu K) :
    ∃ mode, node.resolveMode msg = { node with resolvedMode := mode } := by
  by_cases auto : node.resolvedMode = "auto"
  · exact ⟨_, resolveMode_of_auto auto msg⟩
  · exact ⟨node.resolvedMode, resolveMode_of_ne_auto auto msg⟩

@[simp]
theorem resolveMode_parameters
    (node : OdomTfBroadcaster K) (msg : Imu K) :
    (node.resolveMode msg).parameters = node.parameters := by
  rcases node.resolveMode_eq msg with ⟨mode, resolved⟩
  rw [resolved]

@[simp]
theorem resolveMode_haveCfState
    (node : OdomTfBroadcaster K) (msg : Imu K) :
    (node.resolveMode msg).haveCfState = node.haveCfState := by
  rcases node.resolveMode_eq msg with ⟨mode, resolved⟩
  rw [resolved]

@[simp]
theorem resolveMode_lastImuTime
    (node : OdomTfBroadcaster K) (msg : Imu K) :
    (node.resolveMode msg).lastImuTime = node.lastImuTime := by
  rcases node.resolveMode_eq msg with ⟨mode, resolved⟩
  rw [resolved]

/-- The mode in which the filter runs, for good. -/
def Filtering (node : OdomTfBroadcaster K) : Prop :=
  node.useImuTilt = true ∧ node.resolvedMode ≠ "auto" ∧
    node.resolvedMode ≠ "quaternion"

theorem Filtering.resolved
    {node : OdomTfBroadcaster K} (filtering : node.Filtering)
    (msg : Imu K) : (node.resolveMode msg).Filtering := by
  rw [resolveMode_of_ne_auto filtering.2.1]
  exact filtering

/-- On its first message the constructed node resolves its mode to filtering. -/
theorem filtering_construct
    {parameters : Parameters K} (fromImu : parameters.TiltFromImu)
    (notQuaternion : parameters.imuMode ≠ "quaternion") {first : Imu K}
    (noOrientation :
      parameters.imuMode = "auto" →
        ¬ literal 0 ≤ first.orientationFlag) :
    ((construct parameters).resolveMode first).Filtering := by
  rw [construct_of_imu fromImu]
  by_cases auto : parameters.imuMode = "auto"
  · rw [resolveMode_of_auto auto, if_neg (noOrientation auto)]
    simp [Filtering]
  · rw [resolveMode_of_ne_auto auto]
    exact ⟨rfl, auto, notQuaternion⟩

end Mode

variable [Add K] [Sub K] [Mul K] [Div K] [Neg K] [Transcendental K]

/--
The complementary filter: the new state, and the roll and pitch to publish.
The first message only seeds the state.
-/
def complementaryFilter
    (node : OdomTfBroadcaster K) (msg : Imu K) :
    Option (OdomTfBroadcaster K × Option (K × K)) :=
  let rollAcc := rollAcc msg.linearAcceleration
  let pitchAcc := pitchAcc msg.linearAcceleration
  msg.stamp.toTime.map fun stamp =>
    if !node.haveCfState then
      ({ node with
          roll := rollAcc
          pitch := pitchAcc
          lastImuTime := stamp
          haveCfState := true }, none)
    else
      let dt := durationSeconds (stamp - node.lastImuTime)
      if dt ≤ 0 ∨ dt > 1 / 10 then
        ({ node with
            roll := rollAcc
            pitch := pitchAcc
            lastImuTime := stamp }, some (rollAcc, pitchAcc))
      else
        let alpha :=
          node.parameters.cfTau / (node.parameters.cfTau + literal dt)
        let roll :=
          alpha * (node.roll + msg.angularVelocity.x * literal dt) +
            (literal 1 - alpha) * rollAcc
        let pitch :=
          alpha * (node.pitch + msg.angularVelocity.y * literal dt) +
            (literal 1 - alpha) * pitchAcc
        ({ node with
            roll := roll
            pitch := pitch
            lastImuTime := stamp }, some (roll, pitch))

/-- The tail of `on_imu`: remove the static offset and send. -/
def stabilizedFromTilt
    (tf2 : Tf2 K) (node : OdomTfBroadcaster K)
    (stamp : Stamp) (roll pitch : K) : TransformStamped K :=
  let rollCorr := roll - node.parameters.rollOffset
  let pitchCorr := pitch - node.parameters.pitchOffset
  let qTilt := tf2.setRPY rollCorr pitchCorr (literal 0)
  node.sendStabilized tf2 stamp (tf2.inverse qTilt)

/-- The state after seeding or resynchronising from gravity. -/
def resynced
    (node : OdomTfBroadcaster K) (msg : Imu K) (time : ℤ) :
    OdomTfBroadcaster K :=
  { node with
    roll := rollAcc msg.linearAcceleration
    pitch := pitchAcc msg.linearAcceleration
    lastImuTime := time
    haveCfState := true }

/-- The time step to a message, in seconds. -/
def timeStep (node : OdomTfBroadcaster K) (time : ℤ) : ℚ :=
  durationSeconds (time - node.lastImuTime)

/-- The time steps over which the gyro is integrated. -/
def Integrates (node : OdomTfBroadcaster K) (time : ℤ) : Prop :=
  0 < node.timeStep time ∧ node.timeStep time ≤ 1 / 10

/-- The weight of the gyro. -/
def alpha (node : OdomTfBroadcaster K) (time : ℤ) : K :=
  node.parameters.cfTau /
    (node.parameters.cfTau + literal (node.timeStep time))

/-- The state after blending the integrated gyro with gravity. -/
def integrated
    (node : OdomTfBroadcaster K) (msg : Imu K) (time : ℤ) :
    OdomTfBroadcaster K :=
  { node with
    roll :=
      node.alpha time *
          (node.roll +
            msg.angularVelocity.x * literal (node.timeStep time)) +
        (literal 1 - node.alpha time) * rollAcc msg.linearAcceleration
    pitch :=
      node.alpha time *
          (node.pitch +
            msg.angularVelocity.y * literal (node.timeStep time)) +
        (literal 1 - node.alpha time) * pitchAcc msg.linearAcceleration
    lastImuTime := time }

theorem complementaryFilter_of_throwing
    {node : OdomTfBroadcaster K} {msg : Imu K}
    (negative : msg.stamp.toTime = none) :
    node.complementaryFilter msg = none := by
  simp [complementaryFilter, negative]

theorem complementaryFilter_of_seeding
    {node : OdomTfBroadcaster K} {msg : Imu K} {time : ℤ}
    (timeEq : msg.stamp.toTime = some time)
    (fresh : node.haveCfState = false) :
    node.complementaryFilter msg =
      some (node.resynced msg time, none) := by
  simp [complementaryFilter, timeEq, fresh, resynced]

theorem complementaryFilter_of_gap
    {node : OdomTfBroadcaster K} {msg : Imu K} {time : ℤ}
    (timeEq : msg.stamp.toTime = some time)
    (seeded : node.haveCfState = true)
    (outside : ¬ node.Integrates time) :
    node.complementaryFilter msg =
      some
        (node.resynced msg time,
          some
            ((node.resynced msg time).roll,
              (node.resynced msg time).pitch)) := by
  have gap : node.timeStep time ≤ 0 ∨ node.timeStep time > 1 / 10 := by
    rw [Integrates, not_and_or, not_lt, not_le] at outside
    exact outside
  rw [timeStep] at gap
  simp only [complementaryFilter, timeEq, Option.map_some, seeded,
    Bool.not_true, Bool.false_eq_true, if_false, if_pos gap, resynced]

theorem complementaryFilter_of_step
    {node : OdomTfBroadcaster K} {msg : Imu K} {time : ℤ}
    (timeEq : msg.stamp.toTime = some time)
    (seeded : node.haveCfState = true)
    (inside : node.Integrates time) :
    node.complementaryFilter msg =
      some
        (node.integrated msg time,
          some
            ((node.integrated msg time).roll,
              (node.integrated msg time).pitch)) := by
  have noGap :
      ¬ (node.timeStep time ≤ 0 ∨ node.timeStep time > 1 / 10) := by
    rw [not_or, not_le, gt_iff_lt, not_lt]
    exact inside
  rw [timeStep] at noGap
  simp only [complementaryFilter, timeEq, Option.map_some, seeded,
    Bool.not_true, Bool.false_eq_true, if_false, if_neg noGap, integrated,
    alpha, timeStep]

/-! ## The callbacks -/

variable [LT K] [DecidableLT K] [LE K] [DecidableLE K]

def publishStabilizedFromOdom
    (tf2 : Tf2 K) (node : OdomTfBroadcaster K) (msg : Odometry K) :
    List (TransformStamped K) :=
  if tf2.length2 msg.orientation < literal (1 / 10 ^ 9) then []
  else
    let q := tf2.normalize msg.orientation
    let yaw := (tf2.getRPY q).yaw
    let qYaw := tf2.setRPY (literal 0) (literal 0) yaw
    let blToStab := tf2.inverse (tf2.mul (tf2.inverse qYaw) q)
    [node.sendStabilized tf2 msg.stamp blToStab]

def onOdom
    (tf2 : Tf2 K) (node : OdomTfBroadcaster K) (msg : Odometry K) :
    List (TransformStamped K) :=
  { stamp := msg.stamp
    frameId := node.parameters.odomFrame
    childFrameId := node.parameters.baseFrame
    translation :=
      { x := msg.position.x
        y := msg.position.y
        z :=
          if node.parameters.lockZ then node.parameters.fixedZ
          else msg.position.z }
    rotation := msg.orientation } ::
  if node.parameters.publishStabilized && !node.useImuTilt then
    node.publishStabilizedFromOdom tf2 msg
  else []

/-- `on_imu`; `none` where an exception leaves the callback. -/
def onImu
    (tf2 : Tf2 K) (node : OdomTfBroadcaster K) (msg : Imu K) :
    Option (OdomTfBroadcaster K × List (TransformStamped K)) :=
  let node := node.resolveMode msg
  if node.resolvedMode == "quaternion" then
    if tf2.length2 msg.orientation < literal (1 / 10 ^ 9) then
      some (node, [])
    else
      let angles := tf2.getRPY (tf2.normalize msg.orientation)
      some
        (node,
          [node.stabilizedFromTilt tf2 msg.stamp angles.roll angles.pitch])
  else
    (node.complementaryFilter msg).map fun
      | (node, none) => (node, [])
      | (node, some (roll, pitch)) =>
          (node, [node.stabilizedFromTilt tf2 msg.stamp roll pitch])

theorem onImu_of_empty
    (tf2 : Tf2 K) {node : OdomTfBroadcaster K} {msg : Imu K}
    (mode : (node.resolveMode msg).resolvedMode = "quaternion")
    (empty : tf2.length2 msg.orientation < literal (1 / 10 ^ 9)) :
    node.onImu tf2 msg = some (node.resolveMode msg, []) := by
  simp only [onImu, mode, beq_self_eq_true, if_true, if_pos empty]

theorem onImu_of_orientation
    (tf2 : Tf2 K) {node : OdomTfBroadcaster K} {msg : Imu K}
    (mode : (node.resolveMode msg).resolvedMode = "quaternion")
    (kept : ¬ tf2.length2 msg.orientation < literal (1 / 10 ^ 9)) :
    node.onImu tf2 msg =
      some
        (node.resolveMode msg,
          [(node.resolveMode msg).stabilizedFromTilt tf2 msg.stamp
            (tf2.getRPY (tf2.normalize msg.orientation)).roll
            (tf2.getRPY (tf2.normalize msg.orientation)).pitch]) := by
  simp only [onImu, mode, beq_self_eq_true, if_true, if_neg kept]

/-- The transforms sent for a roll and pitch, if there are any. -/
def tiltTransforms
    (tf2 : Tf2 K) (node : OdomTfBroadcaster K) (stamp : Stamp) :
    Option (K × K) → List (TransformStamped K)
  | none => []
  | some (roll, pitch) => [node.stabilizedFromTilt tf2 stamp roll pitch]

theorem onImu_of_filtering
    (tf2 : Tf2 K) {node : OdomTfBroadcaster K} {msg : Imu K}
    (mode : (node.resolveMode msg).resolvedMode ≠ "quaternion") :
    node.onImu tf2 msg =
      ((node.resolveMode msg).complementaryFilter msg).map fun result =>
        (result.1, result.1.tiltTransforms tf2 msg.stamp result.2) := by
  simp only [onImu, beq_iff_eq, if_neg mode]
  congr 1
  funext result
  rcases result with ⟨next, _ | ⟨roll, pitch⟩⟩ <;> rfl

end OdomTfBroadcaster

/-- A message delivered to the node. -/
inductive Message (K : Type u) where
  | odom (msg : Odometry K)
  | imu (msg : Imu K)

variable [Add K] [Sub K] [Mul K] [Div K] [Neg K] [Transcendental K]
variable [LT K] [DecidableLT K] [LE K] [DecidableLE K]

/--
The node under its executor.  Without tilt from the IMU there is no IMU
subscription.  The state is `none` once an exception has ended the process.
-/
def odomTfReactor (tf2 : Tf2 K) :
    Reactor (Option (OdomTfBroadcaster K)) (Message K)
      (TransformStamped K) where
  step
    | none, _ => (none, [])
    | some node, .odom msg => (some node, node.onOdom tf2 msg)
    | some node, .imu msg =>
        if node.useImuTilt then
          match node.onImu tf2 msg with
          | none => (none, [])
          | some (next, transforms) => (some next, transforms)
        else (some node, [])

/-- The six things a message can do to a node, once its mode is resolved. -/
inductive ImuOutcome
    (tf2 : Tf2 K) (node : OdomTfBroadcaster K) (msg : Imu K) :
    Option (OdomTfBroadcaster K) × List (TransformStamped K) → Prop where
  | empty (mode : node.resolvedMode = "quaternion")
      (short : tf2.length2 msg.orientation < literal (1 / 10 ^ 9)) :
      ImuOutcome tf2 node msg (some node, [])
  | orientation (mode : node.resolvedMode = "quaternion")
      (long : ¬ tf2.length2 msg.orientation < literal (1 / 10 ^ 9)) :
      ImuOutcome tf2 node msg
        (some node,
          [node.stabilizedFromTilt tf2 msg.stamp
            (tf2.getRPY (tf2.normalize msg.orientation)).roll
            (tf2.getRPY (tf2.normalize msg.orientation)).pitch])
  | throwing (mode : node.resolvedMode ≠ "quaternion")
      (negative : msg.stamp.sec < 0) :
      ImuOutcome tf2 node msg (none, [])
  | seeding (mode : node.resolvedMode ≠ "quaternion")
      (valid : 0 ≤ msg.stamp.sec) (fresh : node.haveCfState = false) :
      ImuOutcome tf2 node msg
        (some (node.resynced msg msg.stamp.nanoseconds), [])
  | gap (mode : node.resolvedMode ≠ "quaternion")
      (valid : 0 ≤ msg.stamp.sec) (seeded : node.haveCfState = true)
      (outside : ¬ node.Integrates msg.stamp.nanoseconds) :
      ImuOutcome tf2 node msg
        (some (node.resynced msg msg.stamp.nanoseconds),
          [(node.resynced msg msg.stamp.nanoseconds).stabilizedFromTilt
            tf2 msg.stamp
            (node.resynced msg msg.stamp.nanoseconds).roll
            (node.resynced msg msg.stamp.nanoseconds).pitch])
  | step (mode : node.resolvedMode ≠ "quaternion")
      (valid : 0 ≤ msg.stamp.sec) (seeded : node.haveCfState = true)
      (inside : node.Integrates msg.stamp.nanoseconds) :
      ImuOutcome tf2 node msg
        (some (node.integrated msg msg.stamp.nanoseconds),
          [(node.integrated msg msg.stamp.nanoseconds).stabilizedFromTilt
            tf2 msg.stamp
            (node.integrated msg msg.stamp.nanoseconds).roll
            (node.integrated msg msg.stamp.nanoseconds).pitch])

/-- Every message to a subscribed node has one of the six outcomes. -/
theorem imuOutcome
    (tf2 : Tf2 K) {node : OdomTfBroadcaster K}
    (subscribed : node.useImuTilt = true) (msg : Imu K) :
    ImuOutcome tf2 (node.resolveMode msg) msg
      ((odomTfReactor tf2).step (some node) (.imu msg)) := by
  simp only [odomTfReactor, subscribed, if_true]
  by_cases mode : (node.resolveMode msg).resolvedMode = "quaternion"
  · by_cases short :
        tf2.length2 msg.orientation < literal (1 / 10 ^ 9)
    · rw [OdomTfBroadcaster.onImu_of_empty tf2 mode short]
      exact .empty mode short
    · rw [OdomTfBroadcaster.onImu_of_orientation tf2 mode short]
      exact .orientation mode short
  · rw [OdomTfBroadcaster.onImu_of_filtering tf2 mode]
    cases timeEq : msg.stamp.toTime with
    | none =>
        rw [OdomTfBroadcaster.complementaryFilter_of_throwing timeEq]
        exact .throwing mode ((Stamp.toTime_eq_none_iff _).mp timeEq)
    | some time =>
        rcases (Stamp.toTime_eq_some_iff _ _).mp timeEq with
          ⟨valid, rfl⟩
        cases seeded : (node.resolveMode msg).haveCfState with
        | false =>
            rw [OdomTfBroadcaster.complementaryFilter_of_seeding timeEq
              seeded]
            exact .seeding mode valid seeded
        | true =>
            by_cases inside :
                (node.resolveMode msg).Integrates msg.stamp.nanoseconds
            · rw [OdomTfBroadcaster.complementaryFilter_of_step timeEq
                seeded inside]
              exact .step mode valid seeded inside
            · rw [OdomTfBroadcaster.complementaryFilter_of_gap timeEq
                seeded inside]
              exact .gap mode valid seeded inside

/-- A negative stamp ends the process. -/
theorem OdomTfBroadcaster.step_of_negative
    (tf2 : Tf2 K) {node : OdomTfBroadcaster K} {msg : Imu K}
    (filtering : (node.resolveMode msg).Filtering)
    (subscribed : node.useImuTilt = true)
    (negative : msg.stamp.sec < 0) :
    (odomTfReactor tf2).step (some node) (.imu msg) = (none, []) := by
  have outcome := imuOutcome tf2 subscribed msg
  generalize (odomTfReactor tf2).step (some node) (.imu msg) = result
    at outcome ⊢
  cases outcome with
  | empty mode _ | orientation mode _ => exact absurd mode filtering.2.2
  | throwing => rfl
  | seeding _ valid _ | gap _ valid _ _ | step _ valid _ _ =>
      exact absurd negative valid.not_gt

end Node

end Go2Navigation.Attitude
