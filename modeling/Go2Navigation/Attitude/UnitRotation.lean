import Go2Navigation.Attitude.Lifted

/-!
# Which broadcasts are rotations

The levelled frame is normalised before it is sent, and empty quaternions are
dropped.  The odometry and map transforms forward the orientation they are
given.  A run broadcasts rotations only exactly if these orientations have
norm one and every levelled frame is computed from numbers.
-/

noncomputable section

namespace Go2Navigation.Attitude

open Go2Navigation.Foundation
open Go2Navigation.Numeric

/-! ## Conditions -/

namespace OdomTfBroadcaster

variable (node : OdomTfBroadcaster (Absorbing ℝ))

/-- The filter takes the message, in the mode it resolves to. -/
def Filters (msg : Imu ℝ) : Prop :=
  (node.resolveMode (msg.map .finite)).resolvedMode ≠ "quaternion"

/-- The message makes the node send the levelled frame. -/
def SendsTilt (msg : Imu ℝ) : Prop :=
  (node.Filters msg → 0 ≤ msg.stamp.sec ∧ node.haveCfState = true) ∧
    (¬ node.Filters msg → ¬ msg.orientation.Unfilled)

/-- The static offset is a number. -/
def OffsetFinite : Prop :=
  node.parameters.rollOffset.IsFinite ∧
    node.parameters.pitchOffset.IsFinite

/-- The weight of the gyro is a number. -/
def WeightFinite (time : ℤ) : Prop :=
  node.parameters.cfTau.IsFinite ∧
    node.parameters.cfTau + literal (node.timeStep time) ≠ .finite 0

/-- What a message must meet, in the state before it. -/
def Admits : Message ℝ → Prop
  | .odom msg => msg.orientation.normSq = 1
  | .imu msg =>
      node.useImuTilt = true → node.SendsTilt msg →
        node.OffsetFinite ∧
          (node.Filters msg → node.Integrates msg.stamp.nanoseconds →
            node.WeightFinite msg.stamp.nanoseconds)

/-- The filtered angles are numbers. -/
def StateFinite : Prop :=
  node.roll.IsFinite ∧ node.pitch.IsFinite

/-- After a resynchronisation the angles are finite if the acceleration is. -/
theorem stateFinite_resynced_iff (msg : Imu (Absorbing ℝ)) (time : ℤ) :
    (node.resynced msg time).StateFinite ↔
      msg.linearAcceleration.IsFinite := by
  rw [StateFinite, resynced, isFinite_rollAcc_iff,
    isFinite_pitchAcc_iff, Vector3.IsFinite]
  tauto

theorem resynced_stateFinite (msg : Imu ℝ) (time : ℤ) :
    (node.resynced (msg.map .finite) time).StateFinite := by
  rw [stateFinite_resynced_iff]
  exact Vector3.isFinite_map _

theorem alpha_isFinite_iff (time : ℤ) :
    (node.alpha time).IsFinite ↔ node.WeightFinite time := by
  simp [alpha, WeightFinite]

/-- Integration gives finite angles exactly if all it uses is finite. -/
theorem stateFinite_integrated_iff
    (msg : Imu (Absorbing ℝ)) (time : ℤ) :
    (node.integrated msg time).StateFinite ↔
      node.WeightFinite time ∧ node.StateFinite ∧ msg.RateFinite ∧
        msg.linearAcceleration.IsFinite := by
  rw [← node.alpha_isFinite_iff, StateFinite, StateFinite, integrated]
  simp only [Absorbing.isFinite_add, Absorbing.isFinite_mul,
    Absorbing.isFinite_sub, isFinite_literal, isFinite_rollAcc_iff,
    isFinite_pitchAcc_iff, Vector3.IsFinite, Imu.RateFinite]
  tauto

/-- Integration keeps the angles finite exactly if its weight is. -/
theorem integrated_stateFinite_iff
    {node : OdomTfBroadcaster (Absorbing ℝ)} (finite : node.StateFinite)
    (msg : Imu ℝ) (time : ℤ) :
    (node.integrated (msg.map .finite) time).StateFinite ↔
      node.WeightFinite time := by
  rw [stateFinite_integrated_iff]
  exact
    ⟨And.left, fun weight =>
      ⟨weight, finite, ⟨trivial, trivial⟩, Vector3.isFinite_map _⟩⟩

end OdomTfBroadcaster

section Steps

variable {tf2 : Tf2 ℝ} (documented : tf2.Documented)

/-- The node, receiving finite messages. -/
def finiteOdomTfReactor (tf2 : Tf2 ℝ) :
    Reactor (Option (OdomTfBroadcaster (Absorbing ℝ))) (Message ℝ)
      (TransformStamped (Absorbing ℝ)) :=
  (odomTfReactor tf2.absorbing).comap (Message.map .finite)

/-- A step sends rotations only if admitted, and then keeps finite angles. -/
structure StepAdmits
    (admitted : Prop)
    (result :
      Option (OdomTfBroadcaster (Absorbing ℝ)) ×
        List (TransformStamped (Absorbing ℝ))) : Prop where
  rotations :
    (∀ transform ∈ result.2, transform.rotation.HasUnitNorm) ↔ admitted
  stateFinite : admitted → ∀ next ∈ result.1, next.StateFinite

/-- A message for which nothing is sent is admitted. -/
theorem stepAdmits_of_silent
    {node next : OdomTfBroadcaster (Absorbing ℝ)} {msg : Imu ℝ}
    (silent : ¬ node.SendsTilt msg) (finite : next.StateFinite) :
    StepAdmits (node.Admits (.imu msg)) (some next, []) where
  rotations := by
    apply iff_of_true
    · simp
    · intro _ sends
      exact absurd sends silent
  stateFinite := by
    rintro _ _ ⟨⟩
    exact finite

include documented in
/-- A message for which the levelled frame is sent. -/
theorem stepAdmits_of_sent
    {node next : OdomTfBroadcaster (Absorbing ℝ)} {msg : Imu ℝ}
    {roll pitch : Absorbing ℝ} (subscribed : node.useImuTilt = true)
    (sends : node.SendsTilt msg)
    (sameParameters : next.parameters = node.parameters)
    (angles :
      roll.IsFinite ∧ pitch.IsFinite ↔
        (node.Filters msg → node.Integrates msg.stamp.nanoseconds →
          node.WeightFinite msg.stamp.nanoseconds))
    (finite : roll.IsFinite ∧ pitch.IsFinite → next.StateFinite) :
    StepAdmits (node.Admits (.imu msg))
      (some next,
        [next.stabilizedFromTilt tf2.absorbing msg.stamp roll pitch]) := by
  have sameOffset : next.OffsetFinite ↔ node.OffsetFinite := by
    rw [OdomTfBroadcaster.OffsetFinite, sameParameters,
      OdomTfBroadcaster.OffsetFinite]
  have admits :
      node.Admits (.imu msg) ↔
        node.OffsetFinite ∧ roll.IsFinite ∧ pitch.IsFinite := by
    rw [angles]
    exact
      ⟨fun admitted => admitted subscribed sends,
        fun admitted _ _ => admitted⟩
  constructor
  · rw [List.forall_mem_singleton,
      hasUnitNorm_stabilizedFromTilt_iff documented,
      Absorbing.isFinite_sub, Absorbing.isFinite_sub, admits,
      ← sameOffset, and_and_and_comm, and_comm]
    rfl
  · rintro admitted _ ⟨⟩
    exact finite (admits.mp admitted).2

include documented in
/-- An IMU message, by the six things it can do. -/
theorem stepAdmits_of_imu
    {node : OdomTfBroadcaster (Absorbing ℝ)} {msg : Imu ℝ}
    (finite : node.StateFinite) (subscribed : node.useImuTilt = true) :
    StepAdmits (node.Admits (.imu msg))
      ((finiteOdomTfReactor tf2).step (some node) (.imu msg)) := by
  have outcome :=
    imuOutcome tf2.absorbing subscribed (msg.map Absorbing.finite)
  have sameState :=
    node.resolveMode_haveCfState (msg.map Absorbing.finite)
  have sameParameters :=
    node.resolveMode_parameters (msg.map Absorbing.finite)
  have short := absorbing_length2_lt_iff documented msg.orientation
  rcases node.resolveMode_eq (msg.map .finite) with ⟨_, resolved⟩
  change
    StepAdmits (node.Admits (.imu msg))
      ((odomTfReactor tf2.absorbing).step (some node)
        (.imu (msg.map .finite)))
  generalize
    (odomTfReactor tf2.absorbing).step (some node)
      (.imu (msg.map .finite)) = result at outcome ⊢
  cases outcome with
  | empty mode unfilled =>
      apply stepAdmits_of_silent
      · exact fun sends =>
          sends.2 (not_not.mpr mode) (short.mp unfilled)
      · rw [resolved]
        exact finite
  | orientation mode long =>
      have filled := short.not.mp long
      have length : tf2.length2 msg.orientation ≠ 0 :=
        documented.length2 _ ▸ QuaternionMsg.normSq_ne_zero filled
      apply
        stepAdmits_of_sent documented subscribed
          ⟨fun filters => absurd mode filters, fun _ => filled⟩
      · exact sameParameters
      · rw [Imu.map_orientation, tf2.absorbing_normalize length]
        exact
          iff_of_true ⟨trivial, trivial⟩ fun filters => absurd mode filters
      · rw [resolved]
        exact fun _ => finite
  | throwing filters negative =>
      constructor
      · apply iff_of_true
        · simp
        · intro _ sends
          exact absurd (sends.1 filters).1 negative.not_ge
      · rintro _ _ ⟨⟩
  | seeding filters _ fresh =>
      apply stepAdmits_of_silent
      · intro sends
        rw [sameState, (sends.1 filters).2] at fresh
        cases fresh
      · exact OdomTfBroadcaster.resynced_stateFinite _ msg _
  | gap filters valid seeded outside =>
      rw [resolved] at outside
      apply
        stepAdmits_of_sent documented subscribed
          ⟨fun _ => ⟨valid, sameState.symm.trans seeded⟩,
            fun noFilter => absurd filters noFilter⟩
      · exact sameParameters
      · exact
          iff_of_true (OdomTfBroadcaster.resynced_stateFinite _ msg _)
            fun _ inside => absurd inside outside
      · exact id
  | step filters valid seeded inside =>
      have weights :=
        OdomTfBroadcaster.integrated_stateFinite_iff finite msg
          msg.stamp.nanoseconds
      rw [resolved] at inside
      apply
        stepAdmits_of_sent documented subscribed
          ⟨fun _ => ⟨valid, sameState.symm.trans seeded⟩,
            fun noFilter => absurd filters noFilter⟩
      · exact sameParameters
      · rw [resolved]
        exact
          ⟨fun angles _ _ => weights.mp angles,
            fun admitted => weights.mpr (admitted filters inside)⟩
      · exact id

include documented in
/-- The odometry transform forwards the orientation as it is. -/
theorem stepAdmits_of_odom
    {node : OdomTfBroadcaster (Absorbing ℝ)} {msg : Odometry ℝ}
    (finite : node.StateFinite) :
    StepAdmits (node.Admits (.odom msg))
      ((finiteOdomTfReactor tf2).step (some node) (.odom msg)) := by
  have levelled :=
    hasUnitNorm_publishStabilizedFromOdom documented node msg
  constructor
  · change
      (∀ transform ∈ node.onOdom tf2.absorbing (msg.map .finite),
          transform.rotation.HasUnitNorm) ↔
        msg.orientation.normSq = 1
    rw [OdomTfBroadcaster.onOdom, List.forall_mem_cons,
      Odometry.map_orientation, QuaternionMsg.hasUnitNorm_map,
      and_iff_left_iff_imp]
    intro _
    split_ifs
    · exact levelled
    · simp
  · rintro _ _ ⟨⟩
    exact finite

include documented in
/-- One step of the node. -/
theorem stepAdmits
    {node : OdomTfBroadcaster (Absorbing ℝ)} (finite : node.StateFinite)
    (msg : Message ℝ) :
    StepAdmits (node.Admits msg)
      ((finiteOdomTfReactor tf2).step (some node) msg) := by
  cases msg with
  | odom msg => exact stepAdmits_of_odom documented finite
  | imu msg =>
      cases subscribed : node.useImuTilt with
      | true => exact stepAdmits_of_imu documented finite subscribed
      | false =>
          have stepEq :
              (finiteOdomTfReactor tf2).step (some node) (.imu msg) =
                (some node, []) := by
            simp [finiteOdomTfReactor, Reactor.comap, Message.map,
              odomTfReactor, subscribed]
          rw [stepEq]
          constructor
          · apply iff_of_true
            · simp
            · intro imuTilt
              rw [imuTilt] at subscribed
              cases subscribed
          · rintro _ _ ⟨⟩
            exact finite

end Steps

/-! ## Runs -/

/-- The message is admitted, or the process has ended. -/
def Admitted
    (state : Option (OdomTfBroadcaster (Absorbing ℝ)))
    (msg : Message ℝ) : Prop :=
  ∀ node ∈ state, node.Admits msg

/-- Every message is admitted in the state before it. -/
def OdomTfAdmits
    (tf2 : Tf2 ℝ) (parameters : Parameters (Absorbing ℝ))
    (messages : List (Message ℝ)) : Prop :=
  ∀ before msg after, messages = before ++ msg :: after →
    Admitted
      ((finiteOdomTfReactor tf2).final
        (some (OdomTfBroadcaster.construct parameters)) before)
      msg

theorem odomTf_rotations_iff
    {tf2 : Tf2 ℝ} (documented : tf2.Documented)
    (parameters : Parameters (Absorbing ℝ))
    (messages : List (Message ℝ)) :
    (∀ transform ∈
        (finiteOdomTfReactor tf2).outputs
          (some (OdomTfBroadcaster.construct parameters)) messages,
        transform.rotation.HasUnitNorm) ↔
      OdomTfAdmits tf2 parameters messages := by
  have started :
      ∀ node ∈ some (OdomTfBroadcaster.construct parameters),
        node.StateFinite := by
    rintro _ ⟨⟩
    exact ⟨isFinite_literal 0, isFinite_literal 0⟩
  have preserved :
      ∀ (state : Option (OdomTfBroadcaster (Absorbing ℝ))) msg,
        (∀ node ∈ state, node.StateFinite) → Admitted state msg →
          ∀ next ∈ ((finiteOdomTfReactor tf2).step state msg).1,
            next.StateFinite := by
    intro state msg finite admitted
    cases state with
    | none => rintro _ ⟨⟩
    | some node =>
        exact
          (stepAdmits documented (finite node rfl) msg).stateFinite
            (admitted node rfl)
  have exactStep :
      ∀ (state : Option (OdomTfBroadcaster (Absorbing ℝ))) msg,
        (∀ node ∈ state, node.StateFinite) →
          ((∀ transform ∈ ((finiteOdomTfReactor tf2).step state msg).2,
              transform.rotation.HasUnitNorm) ↔
            Admitted state msg) := by
    intro state msg finite
    cases state with
    | none =>
        simp [finiteOdomTfReactor, Reactor.comap, odomTfReactor, Admitted]
    | some node =>
        rw [(stepAdmits documented (finite node rfl) msg).rotations]
        simp [Admitted]
  exact
    (finiteOdomTfReactor tf2).forall_mem_outputs_iff preserved exactStep
      started

/-- The node, receiving finite messages. -/
def finiteMapOdomReactor :
    Reactor (MapOdomBroadcaster (Absorbing ℝ)) (MapOdomEvent ℝ)
      (TransformStamped (Absorbing ℝ)) :=
  mapOdomReactor.comap (MapOdomEvent.map .finite)

/-- The orientation after one more event. -/
def MapOdomEvent.orientationAfter
    (latest : QuaternionMsg ℝ) : MapOdomEvent ℝ → QuaternionMsg ℝ
  | .publish _ => latest
  | .initialpose msg => msg.orientation

/-- The orientation of the last initial pose, or the identity. -/
def latestOrientation (events : List (MapOdomEvent ℝ)) :
    QuaternionMsg ℝ :=
  events.foldl MapOdomEvent.orientationAfter
    ⟨literal 0, literal 0, literal 0, literal 1⟩

/-- What the timer would send is the latest orientation. -/
theorem finiteMapOdomReactor_rotation
    (mapFrame odomFrame : String) (events : List (MapOdomEvent ℝ)) :
    (finiteMapOdomReactor.final (.construct mapFrame odomFrame)
        events).transform.rotation =
      (latestOrientation events).map .finite := by
  induction events using List.reverseRecOn with
  | nil => rfl
  | append_singleton events event induction =>
      rw [Reactor.final_append, Reactor.final_singleton,
        latestOrientation, List.foldl_concat]
      cases event with
      | publish now => exact induction
      | initialpose msg => rfl

/-- Whenever the timer fires, the latest orientation has norm one. -/
def MapOdomAdmits (events : List (MapOdomEvent ℝ)) : Prop :=
  ∀ before now after, events = before ++ .publish now :: after →
    (latestOrientation before).normSq = 1

theorem mapOdom_rotations_iff
    (mapFrame odomFrame : String) (events : List (MapOdomEvent ℝ)) :
    (∀ transform ∈
        finiteMapOdomReactor.outputs (.construct mapFrame odomFrame)
          events,
        transform.rotation.HasUnitNorm) ↔
      MapOdomAdmits events := by
  have exactStep :
      ∀ (node : MapOdomBroadcaster (Absorbing ℝ)) event, True →
        ((∀ transform ∈ (finiteMapOdomReactor.step node event).2,
            transform.rotation.HasUnitNorm) ↔
          ∀ now, event = .publish now →
            node.transform.rotation.HasUnitNorm) := by
    intro node event _
    cases event with
    | publish now =>
        simp [finiteMapOdomReactor, Reactor.comap, MapOdomEvent.map,
          mapOdomReactor, MapOdomBroadcaster.publish]
    | initialpose msg =>
        simp [finiteMapOdomReactor, Reactor.comap, MapOdomEvent.map,
          mapOdomReactor]
  rw [finiteMapOdomReactor.forall_mem_outputs_iff
    (fun _ _ _ _ => trivial) exactStep trivial]
  constructor
  · intro admitted before now after split
    have unit := admitted before _ after split now rfl
    rwa [finiteMapOdomReactor_rotation,
      QuaternionMsg.hasUnitNorm_map] at unit
  · rintro admitted before _ after split now rfl
    rw [finiteMapOdomReactor_rotation, QuaternionMsg.hasUnitNorm_map]
    exact admitted before now after split

/-! ## Both broadcasters -/

/-- The two nodes of the package which broadcast transforms. -/
def broadcasters (tf2 : Tf2 ℝ) :
    Reactor
      (Option (OdomTfBroadcaster (Absorbing ℝ)) ×
        MapOdomBroadcaster (Absorbing ℝ))
      (Message ℝ ⊕ MapOdomEvent ℝ) (TransformStamped (Absorbing ℝ)) :=
  (finiteOdomTfReactor tf2).beside finiteMapOdomReactor

/-- Parameters of both nodes, and everything that happens to them. -/
structure BroadcastRun where
  parameters : Parameters (Absorbing ℝ)
  mapFrame : String
  odomFrame : String
  events : List (Message ℝ ⊕ MapOdomEvent ℝ)

namespace BroadcastRun

/-- All transforms sent. -/
def sent (run : BroadcastRun) (tf2 : Tf2 ℝ) :
    List (TransformStamped (Absorbing ℝ)) :=
  (broadcasters tf2).outputs
    (some (OdomTfBroadcaster.construct run.parameters),
      .construct run.mapFrame run.odomFrame)
    run.events

/-- Every transform sent carries a quaternion of norm one. -/
def SendsRotations (run : BroadcastRun) (tf2 : Tf2 ℝ) : Prop :=
  ∀ transform ∈ run.sent tf2, transform.rotation.HasUnitNorm

/--
A run sends rotations only exactly if every forwarded orientation has norm
one, and every levelled frame is computed from a finite offset and, where the
gyro is integrated, with a finite weight.
-/
theorem sendsRotations_iff
    {tf2 : Tf2 ℝ} (documented : tf2.Documented) (run : BroadcastRun) :
    run.SendsRotations tf2 ↔
      OdomTfAdmits tf2 run.parameters
          (run.events.filterMap Sum.getLeft?) ∧
        MapOdomAdmits (run.events.filterMap Sum.getRight?) := by
  rw [SendsRotations, sent, broadcasters,
    Reactor.forall_mem_outputs_beside_iff,
    odomTf_rotations_iff documented, mapOdom_rotations_iff]

end BroadcastRun

/-! ## Forwarded orientations -/

/-- One odometry message at the origin, with default parameters. -/
def odometryRun (orientation : QuaternionMsg ℝ) : BroadcastRun where
  parameters := .defaults
  mapFrame := "map"
  odomFrame := "odom"
  events := [.inl (.odom ⟨⟨1, 0⟩, ⟨0, 0, 0⟩, orientation⟩)]

/-- One initial pose at the origin, then one tick. -/
def initialposeRun (orientation : QuaternionMsg ℝ) : BroadcastRun where
  parameters := .defaults
  mapFrame := "map"
  odomFrame := "odom"
  events :=
    [.inr (.initialpose ⟨⟨0, 0, 0⟩, orientation⟩),
      .inr (.publish ⟨1, 0⟩)]

theorem sendsRotations_iff_unrotated :
    (odometryRun ⟨0, 0, 0, 1⟩).SendsRotations Tf2.reference := by
  apply
    ((odometryRun ⟨0, 0, 0, 1⟩).sendsRotations_iff
      Tf2.reference_documented).mpr
  constructor
  · intro before msg after split node _
    have member :
        msg ∈ [Message.odom ⟨⟨1, 0⟩, ⟨0, 0, 0⟩, ⟨0, 0, 0, 1⟩⟩] := by
      change [_] = _ at split
      rw [split]
      simp
    rw [List.mem_singleton.mp member]
    change QuaternionMsg.normSq ⟨0, 0, 0, 1⟩ = 1
    norm_num [QuaternionMsg.normSq_eq]
  · intro before now after split
    change [] = _ at split
    simp at split

/-- The orientation of an odometry message is broadcast as it is. -/
theorem forwarded_odometryRun (tf2 : Tf2 ℝ) (orientation : QuaternionMsg ℝ) :
    ∃ transform ∈ (odometryRun orientation).sent tf2,
      transform.rotation = orientation.map .finite :=
  ⟨_, List.mem_cons_self, rfl⟩

/-- The orientation of an initial pose is broadcast as it is. -/
theorem forwarded_initialposeRun
    (tf2 : Tf2 ℝ) (orientation : QuaternionMsg ℝ) :
    ∃ transform ∈ (initialposeRun orientation).sent tf2,
      transform.rotation = orientation.map .finite :=
  ⟨_, List.mem_cons_self, rfl⟩

/-- Neither an empty nor an unnormalised orientation is a rotation. -/
theorem not_sendsRotations_forwarded :
    ¬ (odometryRun ⟨0, 0, 0, 0⟩).SendsRotations Tf2.reference ∧
      ¬ (initialposeRun ⟨0, 0, 0, 2⟩).SendsRotations Tf2.reference := by
  constructor
  · intro rotations
    rcases forwarded_odometryRun Tf2.reference ⟨0, 0, 0, 0⟩ with
      ⟨transform, member, rotationEq⟩
    have unit := rotations transform member
    rw [rotationEq, QuaternionMsg.hasUnitNorm_map,
      QuaternionMsg.normSq_eq] at unit
    norm_num at unit
  · intro rotations
    rcases forwarded_initialposeRun Tf2.reference ⟨0, 0, 0, 2⟩ with
      ⟨transform, member, rotationEq⟩
    have unit := rotations transform member
    rw [rotationEq, QuaternionMsg.hasUnitNorm_map,
      QuaternionMsg.normSq_eq] at unit
    norm_num at unit

end Go2Navigation.Attitude

end
