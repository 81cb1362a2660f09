import Go2Navigation.Attitude.Documented
import Go2Navigation.Attitude.OdomTf

/-!
# The automatic mode

The first message latches a mode by its covariance flag.  In complementary
mode every later message is broadcast.  In quaternion mode a later message is
dropped exactly when its orientation is taken for an empty one.
-/

noncomputable section

namespace Go2Navigation.Attitude

open Go2Navigation.Foundation

/-- A node in automatic mode, and messages with valid stamps. -/
structure AutoRun where
  parameters : Parameters ℝ
  messages : List (Imu ℝ)
  imuTilt : parameters.TiltFromImu
  automatic : parameters.imuMode = "auto"
  stamps : ∀ msg ∈ messages, 0 ≤ msg.stamp.sec

/-- The message says that it carries an orientation. -/
def Imu.ClaimsOrientation (msg : Imu ℝ) : Prop :=
  0 ≤ msg.orientationFlag

/-- The node broadcasts the levelled frame once, with the stamp of the message. -/
def BroadcastsOnce
    (parameters : Parameters ℝ) (msg : Imu ℝ)
    (transforms : List (TransformStamped ℝ)) : Prop :=
  ∃ transform,
    transforms = [transform] ∧ transform.stamp = msg.stamp ∧
      transform.frameId = parameters.baseFrame ∧
        transform.childFrameId = parameters.stabilizedFrame

/-- What the first message leaves behind for good. -/
structure Latched
    (parameters : Parameters ℝ) (first : Imu ℝ)
    (node : OdomTfBroadcaster ℝ) : Prop where
  parameters : node.parameters = parameters
  subscribed : node.useImuTilt = true
  resolved : node.resolvedMode ≠ "auto"
  quaternion :
    node.resolvedMode = "quaternion" ↔ first.ClaimsOrientation
  seeded : ¬ first.ClaimsOrientation → node.haveCfState = true

/-- The covariance flag decides the mode. -/
theorem resolveMode_of_flag
    {node : OdomTfBroadcaster ℝ} (auto : node.resolvedMode = "auto")
    (msg : Imu ℝ) :
    (node.resolveMode msg).resolvedMode ≠ "auto" ∧
      ((node.resolveMode msg).resolvedMode = "quaternion" ↔
        msg.ClaimsOrientation) := by
  rw [OdomTfBroadcaster.resolveMode_of_auto auto,
    Imu.ClaimsOrientation, literal, Rat.cast_zero]
  split_ifs with flag <;> simp [flag]

theorem broadcastsOnce_stabilizedFromTilt
    (tf2 : Tf2 ℝ) {parameters : Parameters ℝ}
    {node : OdomTfBroadcaster ℝ} (same : node.parameters = parameters)
    (msg : Imu ℝ) (roll pitch : ℝ) :
    BroadcastsOnce parameters msg
      [node.stabilizedFromTilt tf2 msg.stamp roll pitch] := by
  subst same
  exact ⟨_, rfl, rfl, rfl, rfl⟩

section Steps

variable {tf2 : Tf2 ℝ} (documented : tf2.Documented)

/-- The first message latches the mode. -/
theorem latched_first
    (tf2 : Tf2 ℝ) (run : AutoRun) {first : Imu ℝ}
    (valid : 0 ≤ first.stamp.sec) :
    ∃ node transforms,
      (odomTfReactor tf2).step
          (some (OdomTfBroadcaster.construct run.parameters))
          (.imu first) = (some node, transforms) ∧
        Latched run.parameters first node := by
  rw [OdomTfBroadcaster.construct_of_imu run.imuTilt, run.automatic]
  generalize constructed : OdomTfBroadcaster.mk run.parameters true
    "auto" false (literal 0 : ℝ) (literal 0) 0 = node
  have auto : node.resolvedMode = "auto" := by rw [← constructed]
  have subscribed : node.useImuTilt = true := by rw [← constructed]
  have mode := resolveMode_of_flag auto first
  have outcome := imuOutcome tf2 subscribed first
  rcases node.resolveMode_eq first with ⟨name, resolvedEq⟩
  generalize (odomTfReactor tf2).step (some node) (.imu first) = result
    at outcome
  rw [resolvedEq] at outcome mode
  rw [← constructed] at outcome mode
  cases outcome with
  | empty quaternion _ | orientation quaternion _ =>
      refine ⟨_, _, rfl, rfl, rfl, mode.1, mode.2, ?_⟩
      intro noClaim
      exact absurd (mode.2.mp quaternion) noClaim
  | throwing _ negative => exact absurd valid negative.not_ge
  | seeding => exact ⟨_, _, rfl, rfl, rfl, mode.1, mode.2, fun _ => rfl⟩
  | gap _ _ seeded _ | step _ _ seeded _ => cases seeded

include documented in
/-- A later message is broadcast once, unless its orientation is used and empty. -/
theorem Latched.next
    {parameters : Parameters ℝ} {first msg : Imu ℝ}
    {node : OdomTfBroadcaster ℝ} (latched : Latched parameters first node)
    (valid : 0 ≤ msg.stamp.sec) :
    ∃ next transforms,
      (odomTfReactor tf2).step (some node) (.imu msg) =
          (some next, transforms) ∧
        Latched parameters first next ∧
          (first.ClaimsOrientation ∧ msg.orientation.Unfilled →
            transforms = []) ∧
            (¬ (first.ClaimsOrientation ∧ msg.orientation.Unfilled) →
              BroadcastsOnce parameters msg transforms) := by
  have emptyIff := documented.length2_lt_iff msg.orientation
  have resolvedEq :=
    OdomTfBroadcaster.resolveMode_of_ne_auto latched.resolved msg
  have outcome := imuOutcome tf2 latched.subscribed msg
  rw [resolvedEq] at outcome
  generalize (odomTfReactor tf2).step (some node) (.imu msg) = result
    at outcome
  cases outcome with
  | empty mode short =>
      refine ⟨node, [], rfl, latched, fun _ => rfl, ?_⟩
      intro notDropped
      exact
        absurd ⟨latched.quaternion.mp mode, emptyIff.mp short⟩ notDropped
  | orientation mode long =>
      refine
        ⟨node, _, rfl, latched,
          fun dropped => absurd (emptyIff.mpr dropped.2) long, fun _ => ?_⟩
      exact
        broadcastsOnce_stabilizedFromTilt tf2 latched.parameters msg _ _
  | throwing _ negative => exact absurd valid negative.not_ge
  | seeding mode _ fresh =>
      have seeded := latched.seeded (latched.quaternion.not.mp mode)
      rw [fresh] at seeded
      cases seeded
  | gap mode _ seeded _ =>
      refine
        ⟨_, _, rfl,
          ⟨latched.parameters, latched.subscribed, latched.resolved,
            latched.quaternion, fun _ => rfl⟩,
          fun dropped => absurd (latched.quaternion.mpr dropped.1) mode,
          fun _ => ?_⟩
      exact
        broadcastsOnce_stabilizedFromTilt tf2 latched.parameters msg _ _
  | step mode _ seeded _ =>
      refine
        ⟨_, _, rfl,
          ⟨latched.parameters, latched.subscribed, latched.resolved,
            latched.quaternion, fun _ => seeded⟩,
          fun dropped => absurd (latched.quaternion.mpr dropped.1) mode,
          fun _ => ?_⟩
      exact
        broadcastsOnce_stabilizedFromTilt tf2 latched.parameters msg _ _

include documented in
/-- The latch holds from the first message on. -/
theorem Latched.run
    {parameters : Parameters ℝ} {first : Imu ℝ}
    {node : OdomTfBroadcaster ℝ} (latched : Latched parameters first node)
    {past : List (Imu ℝ)} (valid : ∀ msg ∈ past, 0 ≤ msg.stamp.sec) :
    ∃ next,
      (odomTfReactor tf2).final (some node) (past.map .imu) = some next ∧
        Latched parameters first next := by
  induction past generalizing node with
  | nil => exact ⟨node, rfl, latched⟩
  | cons msg past induction =>
      rw [List.forall_mem_cons] at valid
      rcases latched.next documented valid.1 with
        ⟨next, transforms, stepEq, nextLatched, _⟩
      rcases induction nextLatched valid.2 with ⟨last, lastEq, lastLatched⟩
      refine ⟨last, ?_, lastLatched⟩
      rw [List.map_cons, Reactor.final, stepEq]
      exact lastEq

end Steps

namespace AutoRun

/-- The transforms sent while a message is handled, after some earlier ones. -/
def sent
    (run : AutoRun) (tf2 : Tf2 ℝ) (past : List (Imu ℝ)) (msg : Imu ℝ) :
    List (TransformStamped ℝ) :=
  ((odomTfReactor tf2).step
    ((odomTfReactor tf2).final
      (some (OdomTfBroadcaster.construct run.parameters))
      (past.map .imu))
    (.imu msg)).2

/-- What a message after the first one causes. -/
theorem sent_after_first
    {tf2 : Tf2 ℝ} (documented : tf2.Documented) (run : AutoRun)
    {first msg : Imu ℝ} {past later : List (Imu ℝ)}
    (split : run.messages = first :: past ++ msg :: later) :
    (first.ClaimsOrientation ∧ msg.orientation.Unfilled →
      run.sent tf2 (first :: past) msg = []) ∧
      (¬ (first.ClaimsOrientation ∧ msg.orientation.Unfilled) →
        BroadcastsOnce run.parameters msg
          (run.sent tf2 (first :: past) msg)) := by
  have valid := run.stamps
  rw [split, List.forall_mem_append, List.forall_mem_cons,
    List.forall_mem_cons] at valid
  rcases latched_first tf2 run valid.1.1 with
    ⟨seeded, transforms, firstEq, latched⟩
  rcases latched.run documented valid.1.2 with ⟨node, nodeEq, held⟩
  rcases held.next documented valid.2.1 with
    ⟨next, outputs, stepEq, _, outcome⟩
  have sentEq : run.sent tf2 (first :: past) msg = outputs := by
    rw [sent, List.map_cons, Reactor.final, firstEq, nodeEq, stepEq]
  rw [sentEq]
  exact outcome

/--
Every message after the first one is broadcast once with its stamp, unless
the first one claims an orientation and this one's is empty.  Where the first
one also carried the orientation it claims, an empty one is dropped.
-/
theorem levelled_unless_empty
    {tf2 : Tf2 ℝ} (documented : tf2.Documented) (run : AutoRun)
    {first msg : Imu ℝ} {past later : List (Imu ℝ)}
    (split : run.messages = first :: past ++ msg :: later) :
    (¬ (first.ClaimsOrientation ∧ msg.orientation.Unfilled) →
      BroadcastsOnce run.parameters msg
        (run.sent tf2 (first :: past) msg)) ∧
      (first.ClaimsOrientation → ¬ first.orientation.Unfilled →
        msg.orientation.Unfilled →
          run.sent tf2 (first :: past) msg = []) := by
  have outcome := run.sent_after_first documented split
  exact ⟨outcome.2, fun claims _ empty => outcome.1 ⟨claims, empty⟩⟩

end AutoRun

/-! ## A firmware which stops filling the orientation -/

/-- A body at rest, with a given orientation and covariance flag. -/
def restSample
    (second : ℕ) (orientation : QuaternionMsg ℝ) (flag : ℝ) : Imu ℝ where
  stamp := ⟨second, 0⟩
  orientation := orientation
  orientationCovariance := Vector.replicate 9 flag
  angularVelocity := ⟨0, 0, 0⟩
  linearAcceleration := ⟨0, 0, 1⟩

/-- An orientation with an unknown covariance, then an empty one. -/
def dropoutRun : AutoRun where
  parameters := { Parameters.defaults with tiltSource := "imu" }
  messages :=
    [restSample 0 ⟨0, 0, 0, 1⟩ 0, restSample 1 ⟨0, 0, 0, 0⟩ 0]
  imuTilt := Parameters.tiltFromImu_defaults
  automatic := rfl
  stamps := by simp [restSample]

/-- Without a claimed orientation every message after the first is broadcast. -/
def filteringRun : AutoRun where
  parameters := { Parameters.defaults with tiltSource := "imu" }
  messages :=
    [restSample 0 ⟨0, 0, 0, 0⟩ (-1), restSample 1 ⟨0, 0, 0, 0⟩ (-1)]
  imuTilt := Parameters.tiltFromImu_defaults
  automatic := rfl
  stamps := by simp [restSample]

theorem restSample_claims_iff
    (second : ℕ) (orientation : QuaternionMsg ℝ) (flag : ℝ) :
    (restSample second orientation flag).ClaimsOrientation ↔ 0 ≤ flag := by
  simp [Imu.ClaimsOrientation, Imu.orientationFlag, restSample]

theorem restSample_empty (second : ℕ) (flag : ℝ) :
    (restSample second ⟨0, 0, 0, 0⟩ flag).orientation.Unfilled := by
  rw [QuaternionMsg.Unfilled, QuaternionMsg.normSq_eq]
  norm_num [restSample]

theorem levelled_unless_empty_filteringRun :
    BroadcastsOnce filteringRun.parameters
      (restSample 1 ⟨0, 0, 0, 0⟩ (-1))
      (filteringRun.sent Tf2.reference
        [restSample 0 ⟨0, 0, 0, 0⟩ (-1)]
        (restSample 1 ⟨0, 0, 0, 0⟩ (-1))) := by
  have split :
      filteringRun.messages =
        restSample 0 ⟨0, 0, 0, 0⟩ (-1) :: [] ++
          restSample 1 ⟨0, 0, 0, 0⟩ (-1) :: [] :=
    rfl
  have outcome :=
    filteringRun.levelled_unless_empty Tf2.reference_documented split
  apply outcome.1
  rintro ⟨claims, _⟩
  rw [restSample_claims_iff] at claims
  linarith

/-- The second message of the dropout is not broadcast. -/
theorem not_levelled_dropoutRun :
    dropoutRun.messages =
        restSample 0 ⟨0, 0, 0, 1⟩ 0 :: [] ++
          restSample 1 ⟨0, 0, 0, 0⟩ 0 :: [] ∧
      (∀ msg ∈ dropoutRun.messages,
        msg.linearAcceleration ≠ ⟨0, 0, 0⟩) ∧
        ¬ BroadcastsOnce dropoutRun.parameters
          (restSample 1 ⟨0, 0, 0, 0⟩ 0)
          (dropoutRun.sent Tf2.reference
            [restSample 0 ⟨0, 0, 0, 1⟩ 0]
            (restSample 1 ⟨0, 0, 0, 0⟩ 0)) := by
  have split :
      dropoutRun.messages =
        restSample 0 ⟨0, 0, 0, 1⟩ 0 :: [] ++
          restSample 1 ⟨0, 0, 0, 0⟩ 0 :: [] :=
    rfl
  have claims : (restSample 0 ⟨0, 0, 0, 1⟩ 0).ClaimsOrientation :=
    (restSample_claims_iff 0 _ 0).mpr le_rfl
  have nothing :=
    (dropoutRun.sent_after_first Tf2.reference_documented split).1
      ⟨claims, restSample_empty 1 0⟩
  refine ⟨split, ?_, ?_⟩
  · simp [dropoutRun, restSample]
  · rw [nothing]
    rintro ⟨transform, empty, _⟩
    cases empty

end Go2Navigation.Attitude

end
