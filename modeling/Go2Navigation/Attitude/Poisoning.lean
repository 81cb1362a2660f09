import Go2Navigation.Attitude.UnitRotation

/-!
# What a bad sample does to the filter

The filter computes each angle from the last one, so an angle which is not a
number stays one until the filter takes its angles from gravity alone.  It
does so on its first message and where the stamps leave the integrated range,
and never because of what it has computed.  Which messages it has used since
then can be read off the stamps, and its angles are finite exactly if all it
used of these messages is.
-/

noncomputable section

namespace Go2Navigation.Attitude

open Go2Navigation.Foundation
open Go2Navigation.Numeric

universe u

/-! ## Messages in use -/

section Used

variable {K : Type u}

/-- The gyro is integrated from this message to the next. -/
def Imu.Integrates (previous msg : Imu K) : Prop :=
  0 < durationSeconds (msg.stamp.nanoseconds - previous.stamp.nanoseconds) ∧
    durationSeconds
        (msg.stamp.nanoseconds - previous.stamp.nanoseconds) ≤
      1 / 10

instance (previous msg : Imu K) : Decidable (previous.Integrates msg) :=
  inferInstanceAs (Decidable (_ ∧ _))

/-- The messages in use, after one more. -/
def useNext (used : List (Imu K)) (msg : Imu K) : List (Imu K) :=
  match used.getLast? with
  | none => [msg]
  | some previous =>
      if previous.Integrates msg then used ++ [msg] else [msg]

/-- The messages the filter has used since it last took gravity alone. -/
def sinceResync (messages : List (Imu K)) : List (Imu K) :=
  messages.foldl useNext []

theorem sinceResync_concat (past : List (Imu K)) (msg : Imu K) :
    sinceResync (past ++ [msg]) = useNext (sinceResync past) msg :=
  List.foldl_concat useNext [] msg past

theorem sinceResync_getLast? (messages : List (Imu K)) :
    (sinceResync messages).getLast? = messages.getLast? := by
  cases messages using List.reverseRecOn with
  | nil => rfl
  | append_singleton past msg =>
      rw [sinceResync_concat, useNext, List.getLast?_concat]
      split
      · rfl
      · split_ifs
        · exact List.getLast?_concat
        · rfl

theorem sinceResync_of_integrates
    {past : List (Imu K)} {previous msg : Imu K}
    (last : past.getLast? = some previous)
    (integrates : previous.Integrates msg) :
    sinceResync (past ++ [msg]) = sinceResync past ++ [msg] := by
  rw [sinceResync_concat, useNext, sinceResync_getLast?, last]
  exact if_pos integrates

theorem sinceResync_of_gap
    {past : List (Imu K)} {previous msg : Imu K}
    (last : past.getLast? = some previous)
    (gap : ¬ previous.Integrates msg) :
    sinceResync (past ++ [msg]) = [msg] := by
  rw [sinceResync_concat, useNext, sinceResync_getLast?, last]
  exact if_neg gap

end Used

/-- Of each message but the first the filter also uses the angular rates. -/
structure UsedFinite (used : List (Imu (Absorbing ℝ))) : Prop where
  acceleration : ∀ msg ∈ used, msg.linearAcceleration.IsFinite
  rate : ∀ msg ∈ used.tail, msg.RateFinite

theorem usedFinite_singleton_iff (msg : Imu (Absorbing ℝ)) :
    UsedFinite [msg] ↔ msg.linearAcceleration.IsFinite := by
  constructor
  · intro finite
    exact finite.acceleration msg (List.mem_singleton_self msg)
  · intro finite
    constructor
    · exact List.forall_mem_singleton.mpr finite
    · exact List.forall_mem_nil _

theorem usedFinite_concat_iff
    {used : List (Imu (Absorbing ℝ))} (nonempty : used ≠ [])
    (msg : Imu (Absorbing ℝ)) :
    UsedFinite (used ++ [msg]) ↔
      UsedFinite used ∧ msg.RateFinite ∧
        msg.linearAcceleration.IsFinite := by
  have tailEq : (used ++ [msg]).tail = used.tail ++ [msg] :=
    List.tail_append_of_ne_nil nonempty
  constructor
  · rintro ⟨acceleration, rate⟩
    rw [List.forall_mem_append, List.forall_mem_singleton] at acceleration
    rw [tailEq, List.forall_mem_append, List.forall_mem_singleton] at rate
    exact ⟨⟨acceleration.1, rate.1⟩, rate.2, acceleration.2⟩
  · rintro ⟨finite, rate, acceleration⟩
    constructor
    · rw [List.forall_mem_append, List.forall_mem_singleton]
      exact ⟨finite.acceleration, acceleration⟩
    · rw [tailEq, List.forall_mem_append, List.forall_mem_singleton]
      exact ⟨finite.rate, rate⟩

/-- All fields are finite. -/
structure Imu.IsFinite (msg : Imu (Absorbing ℝ)) : Prop where
  orientation : msg.orientation.IsFinite
  covariance : ∀ entry ∈ msg.orientationCovariance, entry.IsFinite
  angularVelocity : msg.angularVelocity.IsFinite
  linearAcceleration : msg.linearAcceleration.IsFinite

/-- The angular velocity or the linear acceleration is not finite. -/
def Imu.IsBad (msg : Imu (Absorbing ℝ)) : Prop :=
  ¬ (msg.angularVelocity.IsFinite ∧ msg.linearAcceleration.IsFinite)

/-- With a positive time constant the weight of the gyro is a number. -/
theorem OdomTfBroadcaster.weightFinite_of_integrates
    {node : OdomTfBroadcaster (Absorbing ℝ)} {time : ℤ}
    (cfTauPos : literal 0 < node.parameters.cfTau)
    (inside : node.Integrates time) : node.WeightFinite time := by
  have stepPos : (0 : ℝ) < node.timeStep time := by
    exact_mod_cast inside.1
  rw [WeightFinite]
  generalize node.parameters.cfTau = tau at cfTauPos ⊢
  cases tau with
  | nonFinite => cases cfTauPos
  | finite tau =>
      have tauPos : (literal 0 : ℝ) < tau := cfTauPos
      rw [literal, Rat.cast_zero] at tauPos
      refine ⟨trivial, ?_⟩
      intro sumEq
      have sumZero : tau + node.timeStep time = 0 :=
        Absorbing.finite.inj sumEq
      linarith

/-! ## Runs -/

/-- A node in complementary mode, and the messages it receives. -/
structure ImuRun where
  parameters : Parameters (Absorbing ℝ)
  messages : List (Imu (Absorbing ℝ))
  imuTilt : parameters.TiltFromImu
  notQuaternion : parameters.imuMode ≠ "quaternion"
  noOrientation :
    parameters.imuMode = "auto" →
      ∀ first ∈ messages.head?, ¬ literal 0 ≤ first.orientationFlag
  cfTau_pos : literal 0 < parameters.cfTau

namespace ImuRun

/-- The node after some messages; `none` once it has thrown. -/
def nodeAfter
    (tf2 : Tf2 ℝ) (run : ImuRun) (past : List (Imu (Absorbing ℝ))) :
    Option (OdomTfBroadcaster (Absorbing ℝ)) :=
  (odomTfReactor tf2.absorbing).final
    (some (OdomTfBroadcaster.construct run.parameters))
    (past.map .imu)

/-- What the node keeps of the messages it has processed. -/
structure Keeps
    (run : ImuRun) (past : List (Imu (Absorbing ℝ)))
    (node : OdomTfBroadcaster (Absorbing ℝ)) : Prop where
  parameters : node.parameters = run.parameters
  subscribed : node.useImuTilt = true
  filtering :
    ∀ msg later, run.messages = past ++ msg :: later →
      (node.resolveMode msg).Filtering
  seeded : node.haveCfState = true ↔ past ≠ []
  lastImuTime :
    ∀ last ∈ past.getLast?, node.lastImuTime = last.stamp.nanoseconds
  stateFinite : node.StateFinite ↔ UsedFinite (sinceResync past)

theorem keeps_nil (run : ImuRun) :
    run.Keeps [] (OdomTfBroadcaster.construct run.parameters) where
  parameters := rfl
  subscribed := by
    rw [OdomTfBroadcaster.construct_of_imu run.imuTilt]
  filtering msg later split := by
    apply
      OdomTfBroadcaster.filtering_construct run.imuTilt
        run.notQuaternion
    intro auto
    apply run.noOrientation auto msg
    rw [split]
    rfl
  seeded := by
    simp [OdomTfBroadcaster.construct]
  lastImuTime := by
    rintro _ ⟨⟩
  stateFinite := by
    apply iff_of_true
    · exact ⟨isFinite_literal 0, isFinite_literal 0⟩
    · exact ⟨List.forall_mem_nil _, List.forall_mem_nil _⟩

theorem keeps_concat
    {run : ImuRun} {past : List (Imu (Absorbing ℝ))}
    {msg : Imu (Absorbing ℝ)} {next : OdomTfBroadcaster (Absorbing ℝ)}
    (parameters : next.parameters = run.parameters)
    (filtering : next.Filtering) (seeded : next.haveCfState = true)
    (lastImuTime : next.lastImuTime = msg.stamp.nanoseconds)
    (stateFinite :
      next.StateFinite ↔ UsedFinite (sinceResync (past ++ [msg]))) :
    run.Keeps (past ++ [msg]) next where
  parameters := parameters
  subscribed := filtering.1
  filtering following _ _ := filtering.resolved following
  seeded := by
    simp [seeded]
  lastImuTime := by
    intro last member
    rw [List.getLast?_concat] at member
    cases member
    exact lastImuTime
  stateFinite := stateFinite

/-- One more message, whether it seeds, resynchronises or is integrated. -/
theorem Keeps.next
    (tf2 : Tf2 ℝ) {run : ImuRun} {past later : List (Imu (Absorbing ℝ))}
    {node : OdomTfBroadcaster (Absorbing ℝ)}
    {msg : Imu (Absorbing ℝ)} (keeps : run.Keeps past node)
    (split : run.messages = past ++ msg :: later)
    (valid : 0 ≤ msg.stamp.sec) :
    ∃ next transforms,
      (odomTfReactor tf2.absorbing).step (some node) (.imu msg) =
          (some next, transforms) ∧
        run.Keeps (past ++ [msg]) next ∧
          (past ≠ [] →
            transforms =
              [next.stabilizedFromTilt tf2.absorbing msg.stamp
                next.roll next.pitch]) := by
  have filtering := keeps.filtering msg later split
  have seeded :
      (node.resolveMode msg).haveCfState = true ↔ past ≠ [] := by
    rw [node.resolveMode_haveCfState msg]
    exact keeps.seeded
  have sameParameters :
      (node.resolveMode msg).parameters = run.parameters :=
    (node.resolveMode_parameters msg).trans keeps.parameters
  have sameState :
      (node.resolveMode msg).StateFinite ↔
        UsedFinite (sinceResync past) := by
    rcases node.resolveMode_eq msg with ⟨_, resolved⟩
    rw [resolved]
    exact keeps.stateFinite
  have integrates :
      ∀ previous ∈ past.getLast?,
        ((node.resolveMode msg).Integrates msg.stamp.nanoseconds ↔
          previous.Integrates msg) := by
    intro previous last
    rw [OdomTfBroadcaster.Integrates, OdomTfBroadcaster.timeStep,
      node.resolveMode_lastImuTime msg, keeps.lastImuTime previous last,
      Imu.Integrates]
  have outcome := imuOutcome tf2.absorbing keeps.subscribed msg
  generalize
    (odomTfReactor tf2.absorbing).step (some node) (.imu msg) = result
    at outcome ⊢
  cases outcome with
  | empty mode _ | orientation mode _ => exact absurd mode filtering.2.2
  | throwing _ negative => exact absurd valid negative.not_ge
  | seeding _ _ fresh =>
      have first : past = [] := by
        by_contra nonempty
        rw [seeded.mpr nonempty] at fresh
        cases fresh
      subst first
      refine ⟨_, _, rfl, ?_, fun nonempty => absurd rfl nonempty⟩
      refine keeps_concat sameParameters filtering rfl rfl ?_
      rw [OdomTfBroadcaster.stateFinite_resynced_iff]
      exact (usedFinite_singleton_iff msg).symm
  -- A seeded node has a last message, and its stamp decides the branch.
  | gap _ _ haveState outside =>
      rcases Option.isSome_iff_exists.mp
          (List.getLast?_isSome.mpr (seeded.mp haveState)) with
        ⟨previous, last⟩
      refine ⟨_, _, rfl, ?_, fun _ => rfl⟩
      refine keeps_concat sameParameters filtering rfl rfl ?_
      rw [OdomTfBroadcaster.stateFinite_resynced_iff,
        sinceResync_of_gap last
          ((integrates previous last).not.mp outside)]
      exact (usedFinite_singleton_iff msg).symm
  | step _ _ haveState inside =>
      rcases Option.isSome_iff_exists.mp
          (List.getLast?_isSome.mpr (seeded.mp haveState)) with
        ⟨previous, last⟩
      have used : sinceResync past ≠ [] := by
        rw [← List.getLast?_isSome, sinceResync_getLast?, last]
        rfl
      have weight :=
        OdomTfBroadcaster.weightFinite_of_integrates
          (sameParameters ▸ run.cfTau_pos) inside
      refine ⟨_, _, rfl, ?_, fun _ => rfl⟩
      refine keeps_concat sameParameters filtering haveState rfl ?_
      rw [OdomTfBroadcaster.stateFinite_integrated_iff,
        sinceResync_of_integrates last
          ((integrates previous last).mp inside),
        usedFinite_concat_iff used, sameState, and_iff_right weight]

/--
After every prefix of a run its node keeps what it should, unless a negative
stamp has ended the process.
-/
theorem keeps_or_negative
    (tf2 : Tf2 ℝ) (run : ImuRun) {past later : List (Imu (Absorbing ℝ))}
    (split : run.messages = past ++ later) :
    (∃ node,
        run.nodeAfter tf2 past = some node ∧ run.Keeps past node ∧
          ∀ msg ∈ past, ¬ msg.stamp.sec < 0) ∨
      run.nodeAfter tf2 past = none ∧ ∃ msg ∈ past, msg.stamp.sec < 0 := by
  apply
    Reactor.alive_or_ended (odomTfReactor tf2.absorbing) (fun _ => rfl)
      run.keeps_nil ?_ split
  intro before msg after node splitMsg keeps
  rcases lt_or_ge msg.stamp.sec 0 with negative | valid
  · have stepEq :=
      OdomTfBroadcaster.step_of_negative tf2.absorbing
        (keeps.filtering msg after splitMsg) keeps.subscribed negative
    exact Or.inl ⟨negative, congrArg Prod.fst stepEq⟩
  · rcases keeps.next tf2 splitMsg valid with
      ⟨next, transforms, stepEq, keepsNext, _⟩
    exact
      Or.inr
        ⟨valid.not_gt, next, congrArg Prod.fst stepEq, keepsNext⟩

/-! ## Recovery -/

/-- Handling the message leaves finite angles and sends a finite rotation. -/
def StaysFinite
    (tf2 : Tf2 ℝ) (run : ImuRun) (past : List (Imu (Absorbing ℝ)))
    (msg : Imu (Absorbing ℝ)) : Prop :=
  ∃ next transform,
    (odomTfReactor tf2.absorbing).step (run.nodeAfter tf2 past)
          (.imu msg) =
        (some next, [transform]) ∧
      next.StateFinite ∧ transform.rotation.IsFinite

/--
The process is alive after these messages, the static offset is a number, and
all the filter has used since it last took gravity alone is finite.
-/
structure Unpoisoned
    (run : ImuRun) (messages : List (Imu (Absorbing ℝ))) : Prop where
  stamps : ∀ msg ∈ messages, 0 ≤ msg.stamp.sec
  rollOffset : run.parameters.rollOffset.IsFinite
  pitchOffset : run.parameters.pitchOffset.IsFinite
  used : UsedFinite (sinceResync messages)

theorem staysFinite_iff
    {tf2 : Tf2 ℝ} (documented : tf2.Documented) {run : ImuRun}
    {past later : List (Imu (Absorbing ℝ))} {msg : Imu (Absorbing ℝ)}
    (split : run.messages = past ++ msg :: later)
    (nonempty : past ≠ []) :
    run.StaysFinite tf2 past msg ↔ run.Unpoisoned (past ++ [msg]) := by
  rcases run.keeps_or_negative tf2 split with
    ⟨node, nodeEq, keeps, valid⟩ | ⟨ended, bad, member, negative⟩
  · rcases lt_or_ge msg.stamp.sec 0 with negative | validMsg
    · apply iff_of_false
      · rintro ⟨next, transform, stepEq, _⟩
        rw [nodeEq,
          OdomTfBroadcaster.step_of_negative tf2.absorbing
            (keeps.filtering msg later split) keeps.subscribed negative]
          at stepEq
        cases stepEq
      · intro unpoisoned
        exact (unpoisoned.stamps msg (by simp)).not_gt negative
    · rcases keeps.next tf2 split validMsg with
        ⟨next, transforms, stepEq, keepsNext, sent⟩
      have rotation :=
        isFinite_stabilizedFromTilt_iff documented next msg.stamp
          next.roll next.pitch
      rw [keepsNext.parameters, Absorbing.isFinite_sub,
        Absorbing.isFinite_sub] at rotation
      rw [StaysFinite, nodeEq, stepEq, sent nonempty]
      constructor
      · rintro ⟨_, _, ⟨⟩, finite, rotationFinite⟩
        have offsets := rotation.mp rotationFinite
        constructor
        · rw [List.forall_mem_append, List.forall_mem_singleton]
          exact
            ⟨fun earlier mem => not_lt.mp (valid earlier mem), validMsg⟩
        · exact offsets.1.2
        · exact offsets.2.2
        · exact keepsNext.stateFinite.mp finite
      · intro unpoisoned
        have finite := keepsNext.stateFinite.mpr unpoisoned.used
        refine ⟨next, _, rfl, finite, rotation.mpr ?_⟩
        exact
          ⟨⟨finite.1, unpoisoned.rollOffset⟩,
            ⟨finite.2, unpoisoned.pitchOffset⟩⟩
  · apply iff_of_false
    · rintro ⟨next, transform, stepEq, _⟩
      rw [ended] at stepEq
      cases stepEq
    · intro unpoisoned
      have mem := List.mem_append_left [msg] member
      exact (unpoisoned.stamps bad mem).not_gt negative

/-- A property of every finite message which comes after a bad one. -/
def AfterBadSamples
    (run : ImuRun)
    (property :
      List (Imu (Absorbing ℝ)) → Imu (Absorbing ℝ) → Prop) : Prop :=
  ∀ past msg later, run.messages = past ++ msg :: later →
    (∃ bad ∈ past, bad.IsBad) → msg.IsFinite → property past msg

/-- Every finite message after a bad one leaves and sends finite values. -/
def RecoversFromBadSamples (tf2 : Tf2 ℝ) (run : ImuRun) : Prop :=
  run.AfterBadSamples (run.StaysFinite tf2)

/--
A run recovers from its bad samples exactly if, at every finite message after
one, they are no longer in use.
-/
theorem recoversFromBadSamples_iff_unpoisoned
    {tf2 : Tf2 ℝ} (documented : tf2.Documented) (run : ImuRun) :
    run.RecoversFromBadSamples tf2 ↔
      run.AfterBadSamples fun past msg =>
        run.Unpoisoned (past ++ [msg]) := by
  have exactly :
      ∀ past msg later, run.messages = past ++ msg :: later →
        (∃ bad ∈ past, bad.IsBad) →
          (run.StaysFinite tf2 past msg ↔
            run.Unpoisoned (past ++ [msg])) := by
    rintro past msg later split ⟨bad, member, _⟩
    exact
      staysFinite_iff documented split (List.ne_nil_of_mem member)
  constructor
  · intro recovers past msg later split bad finite
    exact
      (exactly past msg later split bad).mp
        (recovers past msg later split bad finite)
  · intro unpoisoned past msg later split bad finite
    exact
      (exactly past msg later split bad).mpr
        (unpoisoned past msg later split bad finite)

/-! ## One bad sample -/

/-- An upright body, with a given lateral acceleration. -/
def uprightImu (nanosec : ℕ) (lateral : Absorbing ℝ) :
    Imu (Absorbing ℝ) where
  stamp := ⟨0, nanosec⟩
  orientation := ⟨literal 0, literal 0, literal 0, literal 0⟩
  orientationCovariance := Vector.replicate 9 (literal (-1))
  angularVelocity := ⟨literal 0, literal 0, literal 0⟩
  linearAcceleration := ⟨literal 0, lateral, literal 1⟩

theorem uprightImu_isFinite (nanosec : ℕ) :
    (uprightImu nanosec (literal 0)).IsFinite where
  orientation := ⟨trivial, trivial, trivial, trivial⟩
  covariance := by
    intro entry member
    rw [uprightImu, Vector.mem_replicate] at member
    rw [member.2]
    exact isFinite_literal (-1)
  angularVelocity := ⟨trivial, trivial, trivial⟩
  linearAcceleration := ⟨trivial, trivial, trivial⟩

theorem uprightImu_isBad_iff (nanosec : ℕ) (lateral : Absorbing ℝ) :
    (uprightImu nanosec lateral).IsBad ↔ ¬ lateral.IsFinite := by
  simp [Imu.IsBad, Vector3.IsFinite, uprightImu]

theorem uprightImu_integrates_iff
    (earlier later : ℕ) (first second : Absorbing ℝ) :
    (uprightImu earlier first).Integrates (uprightImu later second) ↔
      earlier < later ∧ later ≤ earlier + 10 ^ 8 := by
  have timeEq :
      (uprightImu later second).stamp.nanoseconds -
          (uprightImu earlier first).stamp.nanoseconds =
        (later : ℤ) - earlier := by
    simp [uprightImu, Stamp.nanoseconds]
  have billion : (0 : ℚ) < 10 ^ 9 := by norm_num
  rw [Imu.Integrates, timeEq, durationSeconds, lt_div_iff₀ billion,
    div_le_iff₀ billion]
  constructor
  · rintro ⟨after, within⟩
    have tenth : (1 / 10 * 10 ^ 9 : ℚ) = 10 ^ 8 := by norm_num
    rw [tenth] at within
    rw [zero_mul] at after
    have afterInt : (0 : ℤ) < later - earlier := by exact_mod_cast after
    have withinInt : (later - earlier : ℤ) ≤ 10 ^ 8 := by
      exact_mod_cast within
    omega
  · rintro ⟨after, within⟩
    have afterInt : (0 : ℤ) < later - earlier := by omega
    have withinInt : (later - earlier : ℤ) ≤ 10 ^ 8 := by omega
    have afterRat : (0 : ℚ) < ((later - earlier : ℤ) : ℚ) := by
      exact_mod_cast afterInt
    have withinRat : ((later - earlier : ℤ) : ℚ) ≤ 10 ^ 8 := by
      exact_mod_cast withinInt
    constructor
    · linarith
    · linarith

theorem uprightImu_orientationFlag
    (nanosec : ℕ) (lateral : Absorbing ℝ) :
    ¬ literal 0 ≤ (uprightImu nanosec lateral).orientationFlag := by
  have flag :
      (uprightImu nanosec lateral).orientationFlag =
        .finite (literal (-1)) := by
    simp [uprightImu, Imu.orientationFlag, literal_eq_finite]
  rw [flag, literal_eq_finite, Absorbing.finite_le]
  norm_num [literal]

/-- The defaults, with the tilt taken from the IMU. -/
def imuDefaults : Parameters (Absorbing ℝ) :=
  { Parameters.defaults with tiltSource := "imu" }

theorem imuDefaults_notQuaternion :
    imuDefaults.imuMode ≠ "quaternion" := by
  show "auto" ≠ "quaternion"
  decide

theorem imuDefaults_cfTau_pos : literal 0 < imuDefaults.cfTau := by
  show (literal 0 : ℝ) < literal (1 / 4)
  norm_num [literal]

/--
The filter is seeded at rest, four milliseconds later the lateral
acceleration is not a number, and then the body is at rest again.
-/
def oneBadSample (nanosec : ℕ) : ImuRun where
  parameters := imuDefaults
  messages :=
    [uprightImu 0 (literal 0), uprightImu (4 * 10 ^ 6) .nonFinite,
      uprightImu nanosec (literal 0)]
  imuTilt := Parameters.tiltFromImu_defaults
  notQuaternion := imuDefaults_notQuaternion
  noOrientation := by
    rintro _ _ ⟨⟩
    exact uprightImu_orientationFlag _ _
  cfTau_pos := imuDefaults_cfTau_pos

/-- After half a second of silence the bad sample is forgotten. -/
theorem recoversFromBadSamples_iff_unpoisoned_gap :
    (oneBadSample (5 * 10 ^ 8)).RecoversFromBadSamples Tf2.reference := by
  apply
    (recoversFromBadSamples_iff_unpoisoned Tf2.reference_documented
      _).mpr
  rintro past msg later split ⟨bad, member, isBad⟩ _
  change [_, _, _] = _ at split
  rcases past with _ | ⟨first, _ | ⟨second, _ | ⟨third, rest⟩⟩⟩
  · cases member
  · cases split
    cases List.mem_singleton.mp member
    exact
      absurd (isFinite_literal 0) ((uprightImu_isBad_iff _ _).mp isBad)
  · cases split
    have gap :
        ¬ (uprightImu (4 * 10 ^ 6) .nonFinite).Integrates
          (uprightImu (5 * 10 ^ 8) (literal 0)) := by
      rw [uprightImu_integrates_iff]
      norm_num
    constructor
    · simp [uprightImu]
    · exact isFinite_literal 0
    · exact isFinite_literal 0
    · rw [sinceResync_of_gap rfl gap, usedFinite_singleton_iff]
      exact (uprightImu_isFinite _).linearAcceleration
  · simp at split

/-- Four milliseconds after the bad sample it is still in use. -/
theorem not_recoversFromBadSamples :
    ¬ (oneBadSample (8 * 10 ^ 6)).RecoversFromBadSamples
        Tf2.reference := by
  intro recovers
  have split :
      (oneBadSample (8 * 10 ^ 6)).messages =
        [uprightImu 0 (literal 0), uprightImu (4 * 10 ^ 6) .nonFinite] ++
          uprightImu (8 * 10 ^ 6) (literal 0) :: [] :=
    rfl
  have isBad : (uprightImu (4 * 10 ^ 6) .nonFinite).IsBad :=
    (uprightImu_isBad_iff _ _).mpr Absorbing.not_isFinite_nonFinite
  have stays :=
    recovers _ _ _ split ⟨_, by simp, isBad⟩ (uprightImu_isFinite _)
  rw [staysFinite_iff Tf2.reference_documented split (by simp)] at stays
  have integrates :
      (uprightImu (4 * 10 ^ 6) .nonFinite).Integrates
        (uprightImu (8 * 10 ^ 6) (literal 0)) := by
    rw [uprightImu_integrates_iff]
    norm_num
  have inUse :
      uprightImu (4 * 10 ^ 6) .nonFinite ∈
        sinceResync
          ([uprightImu 0 (literal 0),
              uprightImu (4 * 10 ^ 6) .nonFinite] ++
            [uprightImu (8 * 10 ^ 6) (literal 0)]) := by
    rw [sinceResync_of_integrates rfl integrates]
    apply List.mem_append_left
    apply List.mem_of_getLast?
    rw [sinceResync_getLast?]
    rfl
  have finite := stays.used.acceleration _ inUse
  exact Absorbing.not_isFinite_nonFinite finite.2.1

end ImuRun

end Go2Navigation.Attitude

end
