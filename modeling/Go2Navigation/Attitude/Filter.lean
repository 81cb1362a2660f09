import Go2Navigation.Attitude.Documented
import Go2Navigation.Attitude.OdomTf
import Go2Navigation.Numeric.Blend

/-!
# The error of the complementary filter

The filter is run on samples, each a message together with a reference
angle.  If gravity gives every angle up to a measurement error, and the gyro
follows the reference up to a drift rate whenever it is integrated, then the
filtered angle is never further from the reference than the measurement
error plus the drift of one time constant.  No number of samples and no
spacing of stamps accumulates more.
-/

noncomputable section

namespace Go2Navigation.Attitude

open Go2Navigation.Foundation
open Go2Navigation.Numeric

/-- The two angles of the filter. -/
inductive Axis where
  | roll
  | pitch

namespace Imu

/-- The angle gravity alone gives. -/
def gravityAngle (msg : Imu ℝ) : Axis → ℝ
  | .roll => rollAcc msg.linearAcceleration
  | .pitch => pitchAcc msg.linearAcceleration

/-- The angular rate which the filter integrates. -/
def rate (msg : Imu ℝ) : Axis → ℝ
  | .roll => msg.angularVelocity.x
  | .pitch => msg.angularVelocity.y

end Imu

namespace OdomTfBroadcaster

/-- The filtered angle. -/
def angle (node : OdomTfBroadcaster ℝ) : Axis → ℝ
  | .roll => node.roll
  | .pitch => node.pitch

@[simp]
theorem angle_resynced
    (node : OdomTfBroadcaster ℝ) (msg : Imu ℝ) (time : ℤ) (axis : Axis) :
    (node.resynced msg time).angle axis = msg.gravityAngle axis := by
  cases axis <;> rfl

theorem angle_integrated
    (node : OdomTfBroadcaster ℝ) (msg : Imu ℝ) (time : ℤ) (axis : Axis) :
    (node.integrated msg time).angle axis =
      blend (blendGain node.parameters.cfTau (node.timeStep time))
        (node.angle axis + msg.rate axis * node.timeStep time)
        (msg.gravityAngle axis) := by
  cases axis <;>
    simp [angle, integrated, alpha, literal, blend, blendGain, Imu.rate,
      Imu.gravityAngle]

end OdomTfBroadcaster

/-- A message, and the angle the filter should report after it. -/
structure Sample where
  msg : Imu ℝ
  angle : ℝ

/--
If the message is integrated after its predecessor, the gyro follows the
reference angle up to a drift rate.
-/
def Sample.RateWithin
    (axis : Axis) (drift : ℝ) (previous sample : Sample) : Prop :=
  let dt :=
    durationSeconds
      (sample.msg.stamp.nanoseconds - previous.msg.stamp.nanoseconds)
  0 < dt → dt ≤ 1 / 10 →
    |sample.msg.rate axis * dt - (sample.angle - previous.angle)| ≤
      drift * dt

/-- A node in complementary mode, and samples whose errors are bounded. -/
structure FilterRun where
  parameters : Parameters ℝ
  axis : Axis
  error : ℝ
  drift : ℝ
  samples : List Sample
  cfTau_nonneg : 0 ≤ parameters.cfTau
  drift_nonneg : 0 ≤ drift
  imuTilt : parameters.TiltFromImu
  complementary :
    parameters.imuMode ≠ "quaternion" ∧
      (parameters.imuMode = "auto" →
        ∀ first ∈ samples.head?, first.msg.orientationFlag < 0)
  gravity :
    ∀ sample ∈ samples,
      |sample.msg.gravityAngle axis - sample.angle| ≤ error
  rates : samples.IsChain (Sample.RateWithin axis drift)

namespace FilterRun

/-- The node after some samples; `none` once it has thrown. -/
def nodeAfter (tf2 : Tf2 ℝ) (run : FilterRun) (samples : List Sample) :
    Option (OdomTfBroadcaster ℝ) :=
  (odomTfReactor tf2).final
    (some (OdomTfBroadcaster.construct run.parameters))
    (samples.map fun sample => .imu sample.msg)

@[simp]
theorem nodeAfter_nil (tf2 : Tf2 ℝ) (run : FilterRun) :
    run.nodeAfter tf2 [] =
      some (OdomTfBroadcaster.construct run.parameters) :=
  rfl

theorem nodeAfter_concat
    (tf2 : Tf2 ℝ) (run : FilterRun) (past : List Sample)
    (last : Sample) :
    run.nodeAfter tf2 (past ++ [last]) =
      ((odomTfReactor tf2).step (run.nodeAfter tf2 past)
        (.imu last.msg)).1 := by
  simp [nodeAfter]

/-- What the filter keeps of the samples it has processed. -/
structure Tracks
    (run : FilterRun) (last : Sample) (node : OdomTfBroadcaster ℝ) :
    Prop where
  parameters : node.parameters = run.parameters
  filtering : node.Filtering
  seeded : node.haveCfState = true
  lastImuTime : node.lastImuTime = last.msg.stamp.nanoseconds
  within :
    |node.angle run.axis - last.angle| ≤
      run.error + run.parameters.cfTau * run.drift

theorem construct_subscribed (run : FilterRun) :
    (OdomTfBroadcaster.construct run.parameters).useImuTilt = true := by
  rw [OdomTfBroadcaster.construct_of_imu run.imuTilt]

/-- On the first sample the constructed node resolves its mode to filtering. -/
theorem filtering_first
    (run : FilterRun) {first : Sample}
    (head : first ∈ run.samples.head?) :
    ((OdomTfBroadcaster.construct run.parameters).resolveMode
      first.msg).Filtering := by
  apply
    OdomTfBroadcaster.filtering_construct run.imuTilt
      run.complementary.1
  intro auto
  simpa [literal] using run.complementary.2 auto first head

/-- The constructed node seeds its filter from the first sample. -/
theorem tracks_first
    (tf2 : Tf2 ℝ) (run : FilterRun) {first : Sample}
    (head : first ∈ run.samples.head?)
    (valid : 0 ≤ first.msg.stamp.sec) :
    ∃ node,
      run.nodeAfter tf2 [first] = some node ∧ run.Tracks first node := by
  have filtering := run.filtering_first head
  have constructed := OdomTfBroadcaster.construct_of_imu run.imuTilt
  have outcome := imuOutcome tf2 run.construct_subscribed first.msg
  rcases
    (OdomTfBroadcaster.construct run.parameters).resolveMode_eq
      first.msg with ⟨mode, resolved⟩
  rw [resolved, constructed] at outcome filtering
  rw [← List.nil_append [first], nodeAfter_concat, nodeAfter_nil,
    constructed]
  generalize
    (odomTfReactor tf2).step _ (.imu first.msg) = result at outcome ⊢
  cases outcome with
  | empty quaternion _ | orientation quaternion _ =>
      exact absurd quaternion filtering.2.2
  | throwing _ negative => exact absurd valid negative.not_ge
  | gap _ _ seeded _ | step _ _ seeded _ => cases seeded
  | seeding =>
      refine ⟨_, rfl, rfl, filtering, rfl, rfl, ?_⟩
      rw [OdomTfBroadcaster.angle_resynced]
      have gravity := run.gravity first (List.mem_of_mem_head? head)
      have drift := mul_nonneg run.cfTau_nonneg run.drift_nonneg
      linarith

/-- Integration keeps the error bound: the drift is blended away. -/
theorem Tracks.within_integrated
    {run : FilterRun} {previous sample : Sample}
    {node : OdomTfBroadcaster ℝ} (tracks : run.Tracks previous node)
    (rate : previous.RateWithin run.axis run.drift sample)
    (gravity :
      |sample.msg.gravityAngle run.axis - sample.angle| ≤ run.error)
    {time : ℤ} (timeIs : sample.msg.stamp.nanoseconds = time)
    (inside : node.Integrates time) :
    |(node.integrated sample.msg time).angle run.axis - sample.angle| ≤
      run.error + run.parameters.cfTau * run.drift := by
  have dtPos : (0 : ℝ) < node.timeStep time := by
    exact_mod_cast inside.1
  have gyro :
      |sample.msg.rate run.axis * node.timeStep time -
          (sample.angle - previous.angle)| ≤
        run.drift * node.timeStep time := by
    have stepEq :
        node.timeStep time =
          durationSeconds
            (sample.msg.stamp.nanoseconds -
              previous.msg.stamp.nanoseconds) := by
      rw [OdomTfBroadcaster.timeStep, tracks.lastImuTime, timeIs]
    rw [stepEq]
    exact rate (stepEq ▸ inside.1) (stepEq ▸ inside.2)
  rw [OdomTfBroadcaster.angle_integrated, tracks.parameters]
  apply abs_blend_sub_le_of_drift run.cfTau_nonneg dtPos ?_ gravity
  calc
    |node.angle run.axis +
          sample.msg.rate run.axis * node.timeStep time -
        sample.angle| =
        |(node.angle run.axis - previous.angle) +
          (sample.msg.rate run.axis * node.timeStep time -
            (sample.angle - previous.angle))| := by
      congr 1
      ring
    _ ≤ |node.angle run.axis - previous.angle| +
          |sample.msg.rate run.axis * node.timeStep time -
            (sample.angle - previous.angle)| :=
      abs_add_le _ _
    _ ≤ run.error + run.parameters.cfTau * run.drift +
          run.drift * node.timeStep time :=
      add_le_add tracks.within gyro

/-- One more sample keeps the error bound, in each branch of the filter. -/
theorem Tracks.next
    {tf2 : Tf2 ℝ} {run : FilterRun} {previous sample : Sample}
    {node : OdomTfBroadcaster ℝ} (tracks : run.Tracks previous node)
    (rate : previous.RateWithin run.axis run.drift sample)
    (member : sample ∈ run.samples)
    (valid : 0 ≤ sample.msg.stamp.sec) :
    ∃ next,
      ((odomTfReactor tf2).step (some node) (.imu sample.msg)).1 =
          some next ∧
        run.Tracks sample next := by
  have resolved :=
    OdomTfBroadcaster.resolveMode_of_ne_auto tracks.filtering.2.1
      sample.msg
  have outcome := imuOutcome tf2 tracks.filtering.1 sample.msg
  have gravity := run.gravity sample member
  rw [resolved] at outcome
  generalize
    (odomTfReactor tf2).step (some node) (.imu sample.msg) = result
    at outcome ⊢
  cases outcome with
  | empty mode _ | orientation mode _ =>
      exact absurd mode tracks.filtering.2.2
  | throwing _ negative => exact absurd valid negative.not_ge
  | seeding _ _ fresh =>
      rw [tracks.seeded] at fresh
      cases fresh
  | gap =>
      refine ⟨_, rfl, tracks.parameters, tracks.filtering, rfl, rfl, ?_⟩
      rw [OdomTfBroadcaster.angle_resynced]
      have drift := mul_nonneg run.cfTau_nonneg run.drift_nonneg
      linarith
  | step _ _ seeded inside =>
      refine
        ⟨_, rfl, tracks.parameters, tracks.filtering, seeded, rfl, ?_⟩
      exact tracks.within_integrated rate gravity rfl inside

/-- After some samples the node is newly constructed or tracks the last one. -/
def Reached
    (run : FilterRun) (past : List Sample)
    (node : OdomTfBroadcaster ℝ) : Prop :=
  match past.getLast? with
  | none => node = OdomTfBroadcaster.construct run.parameters
  | some last => run.Tracks last node

theorem reached_concat_iff
    (run : FilterRun) (past : List Sample) (last : Sample)
    (node : OdomTfBroadcaster ℝ) :
    run.Reached (past ++ [last]) node ↔ run.Tracks last node := by
  rw [Reached, List.getLast?_concat]

/-- A sample ends the process or is tracked, the first one and every other. -/
theorem Reached.next
    (tf2 : Tf2 ℝ) {run : FilterRun} {past later : List Sample}
    {last : Sample} {node : OdomTfBroadcaster ℝ}
    (reached : run.Reached past node)
    (split : run.samples = past ++ last :: later) :
    last.msg.stamp.sec < 0 ∧
        ((odomTfReactor tf2).step (some node) (.imu last.msg)).1 = none ∨
      ¬ last.msg.stamp.sec < 0 ∧
        ∃ next,
          ((odomTfReactor tf2).step (some node) (.imu last.msg)).1 =
              some next ∧
            run.Reached (past ++ [last]) next := by
  simp only [reached_concat_iff]
  cases past using List.reverseRecOn with
  | nil =>
      have head : last ∈ run.samples.head? := by simp [split]
      cases reached
      rcases lt_or_ge last.msg.stamp.sec 0 with negative | valid
      · have stepEq :=
          OdomTfBroadcaster.step_of_negative tf2
            (run.filtering_first head) run.construct_subscribed negative
        exact Or.inl ⟨negative, congrArg Prod.fst stepEq⟩
      · exact Or.inr ⟨valid.not_gt, run.tracks_first tf2 head valid⟩
  | append_singleton past previous =>
      have tracks := (run.reached_concat_iff past previous node).mp reached
      rcases lt_or_ge last.msg.stamp.sec 0 with negative | valid
      · have stepEq :=
          OdomTfBroadcaster.step_of_negative tf2
            (tracks.filtering.resolved last.msg) tracks.filtering.1
            negative
        exact Or.inl ⟨negative, congrArg Prod.fst stepEq⟩
      · have rate :
            previous.RateWithin run.axis run.drift last := by
          have chain := run.rates
          rw [split, List.append_assoc, List.isChain_append] at chain
          exact List.IsChain.rel chain.2.1
        exact
          Or.inr ⟨valid.not_gt, tracks.next rate (by simp [split]) valid⟩

/--
After every sample the filtered angle is within the error bound, unless a
negative stamp has ended the process.
-/
theorem tracks_or_negative
    (tf2 : Tf2 ℝ) (run : FilterRun) {past later : List Sample}
    {last : Sample} (split : run.samples = past ++ last :: later) :
    (∃ node,
        run.nodeAfter tf2 (past ++ [last]) = some node ∧
          run.Tracks last node) ∨
      run.nodeAfter tf2 (past ++ [last]) = none ∧
        ∃ sample ∈ past ++ [last], sample.msg.stamp.sec < 0 := by
  have splitLast : run.samples = (past ++ [last]) ++ later := by
    simpa using split
  have start :
      run.Reached [] (OdomTfBroadcaster.construct run.parameters) :=
    rfl
  rcases
    Reactor.alive_or_ended (odomTfReactor tf2) (fun _ => rfl) start
      (fun _ _ _ _ splitNext reached => reached.next tf2 splitNext)
      splitLast with
    ⟨node, nodeEq, reached, _⟩ | ended
  · exact Or.inl ⟨node, nodeEq, (run.reached_concat_iff _ _ _).mp reached⟩
  · exact Or.inr ended

/--
After every sample, the seeding one and every resynchronisation included, the
filtered angle is within the measurement error plus the drift of one time
constant; only a negative stamp can end the process.
-/
theorem error_bounded
    (tf2 : Tf2 ℝ) (run : FilterRun) {past later : List Sample}
    {last : Sample} (split : run.samples = past ++ last :: later) :
    match run.nodeAfter tf2 (past ++ [last]) with
    | some node =>
        |node.angle run.axis - last.angle| ≤
          run.error + run.parameters.cfTau * run.drift
    | none => ∃ sample ∈ past ++ [last], sample.msg.stamp.sec < 0 := by
  rcases run.tracks_or_negative tf2 split with
    ⟨node, nodeEq, tracks⟩ | ⟨ended, negative⟩
  · rw [nodeEq]
    exact tracks.within
  · rw [ended]
    exact negative

end FilterRun

/-! ## A biased gyro on a level body -/

/-- The body is level, and the gyro reports one radian per second. -/
def biasedSample (milliseconds : ℕ) : Sample where
  msg :=
    { stamp := ⟨milliseconds / 1000, milliseconds % 1000 * 10 ^ 6⟩
      orientation := ⟨0, 0, 0, 0⟩
      orientationCovariance := Vector.replicate 9 (-1)
      angularVelocity := ⟨1, 0, 0⟩
      linearAcceleration := ⟨0, 0, 1⟩ }
  angle := 0

theorem biasedSample_error (milliseconds : ℕ) :
    (biasedSample milliseconds).msg.gravityAngle .roll -
        (biasedSample milliseconds).angle = 0 := by
  have level : (biasedSample milliseconds).msg.gravityAngle .roll = 0 :=
    Complex.arg_one
  rw [level]
  exact sub_zero 0

theorem biasedSample_rateWithin (previous sample : ℕ) :
    (biasedSample previous).RateWithin .roll 1 (biasedSample sample) := by
  intro dtPos _
  have dtNonneg : (0 : ℝ) ≤ _ := Rat.cast_nonneg.mpr dtPos.le
  simpa [Imu.rate, biasedSample] using (abs_of_nonneg dtNonneg).le

/-- Seeded, then integrated over fifty milliseconds, then resynchronised. -/
def biasedRun : FilterRun where
  parameters := { Parameters.defaults with tiltSource := "imu" }
  axis := .roll
  error := 0
  drift := 1
  samples := [biasedSample 0, biasedSample 50, biasedSample 2000]
  cfTau_nonneg := by
    simp [Parameters.defaults, literal]
  drift_nonneg := zero_le_one
  imuTilt := Parameters.tiltFromImu_defaults
  complementary := by
    refine ⟨by decide, ?_⟩
    intro _ first head
    cases head
    simp [biasedSample, Imu.orientationFlag]
  gravity := by
    simp [biasedSample_error]
  rates := by
    simp [biasedSample_rateWithin]

/-- Integrated over fifty milliseconds, the roll is within a quarter radian. -/
theorem error_bounded_biasedRun :
    ∃ node,
      biasedRun.nodeAfter Tf2.reference
          [biasedSample 0, biasedSample 50] = some node ∧
        |node.roll - 0| ≤ 0 + literal (1 / 4) * 1 := by
  have split :
      biasedRun.samples =
        [biasedSample 0] ++ biasedSample 50 :: [biasedSample 2000] :=
    rfl
  have bounded := FilterRun.error_bounded Tf2.reference biasedRun split
  rw [List.singleton_append] at bounded
  cases nodeEq :
      biasedRun.nodeAfter Tf2.reference
        [biasedSample 0, biasedSample 50] with
  | none =>
      rw [nodeEq] at bounded
      simp [biasedSample] at bounded
  | some node =>
      rw [nodeEq] at bounded
      exact ⟨node, rfl, bounded⟩

end Go2Navigation.Attitude

end
