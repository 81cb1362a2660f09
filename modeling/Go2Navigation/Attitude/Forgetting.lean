import Go2Navigation.Attitude.Filter
import Go2Navigation.Numeric.Forgetting

/-!
# How the complementary filter forgets

Two nodes which filter the same messages from different angles.  A message
which resynchronises the filter makes them agree at once; as long as every
message is integrated, their difference decays, at a rate between that of the
time constant and that of the longest time step.  A constant bias of the gyro
is not forgotten: it leaves the drift of one time constant, and every other
error decays around it.
-/

noncomputable section

namespace Go2Navigation.Attitude

open Go2Navigation.Foundation
open Go2Navigation.Numeric

/-- Every message of a sequence is integrated, after a time. -/
def StepsWithin : ℤ → List (Imu ℝ) → Prop
  | _, [] => True
  | time, msg :: rest =>
      (0 < durationSeconds (msg.stamp.nanoseconds - time) ∧
          durationSeconds (msg.stamp.nanoseconds - time) ≤ 1 / 10) ∧
        StepsWithin msg.stamp.nanoseconds rest

/-- The time steps of a sequence of messages, after a time. -/
def timeSteps : ℤ → List (Imu ℝ) → List ℝ
  | _, [] => []
  | time, msg :: rest =>
      (durationSeconds (msg.stamp.nanoseconds - time) : ℝ) ::
        timeSteps msg.stamp.nanoseconds rest

/-- The time of the last message, or the time before the first. -/
def lastTime (time : ℤ) (messages : List (Imu ℝ)) : ℤ :=
  messages.foldl (fun _ msg => msg.stamp.nanoseconds) time

@[simp]
theorem lastTime_nil (time : ℤ) : lastTime time [] = time :=
  rfl

@[simp]
theorem lastTime_cons (time : ℤ) (msg : Imu ℝ) (rest : List (Imu ℝ)) :
    lastTime time (msg :: rest) = lastTime msg.stamp.nanoseconds rest :=
  rfl

theorem timeSteps_sum (time : ℤ) (messages : List (Imu ℝ)) :
    (timeSteps time messages).sum =
      durationSeconds (lastTime time messages - time) := by
  induction messages generalizing time with
  | nil => simp [timeSteps, durationSeconds]
  | cons msg rest induction =>
      rw [timeSteps, List.sum_cons, induction, lastTime_cons,
        ← Rat.cast_add]
      congr 1
      simp only [durationSeconds]
      push_cast
      ring

theorem StepsWithin.timeSteps {time : ℤ} {messages : List (Imu ℝ)}
    (within : StepsWithin time messages) :
    ∀ step ∈ timeSteps time messages, 0 < step ∧ step ≤ 1 / 10 := by
  induction messages generalizing time with
  | nil => simp [Attitude.timeSteps]
  | cons msg rest induction =>
      rw [Attitude.timeSteps, List.forall_mem_cons]
      refine ⟨⟨Rat.cast_pos.mpr within.1.1, ?_⟩, induction within.2⟩
      calc
        (durationSeconds (msg.stamp.nanoseconds - time) : ℝ) ≤
            ((1 / 10 : ℚ) : ℝ) :=
          Rat.cast_le.mpr within.1.2
        _ = 1 / 10 := by norm_num

/-- The decay of integrated steps over a duration, in seconds. -/
def filterDecay (tau duration : ℝ) : ℝ :=
  decay tau (literal (1 / 10)) duration

/-- The gains of a sequence of integrated messages. -/
theorem StepsWithin.remainingWeight_bounds
    {tau : ℝ} (tau_pos : 0 < tau) {time : ℤ} {messages : List (Imu ℝ)}
    (within : StepsWithin time messages) :
    Real.exp
          (-((durationSeconds (lastTime time messages - time) : ℝ) /
            tau)) ≤
        remainingWeight tau (Attitude.timeSteps time messages) ∧
      remainingWeight tau (Attitude.timeSteps time messages) ≤
        (1 + (durationSeconds (lastTime time messages - time) : ℝ) / tau)⁻¹ ∧
      remainingWeight tau (Attitude.timeSteps time messages) ≤
        filterDecay tau
          (durationSeconds (lastTime time messages - time)) := by
  have steps := within.timeSteps
  have positive := fun step member => (steps step member).1
  have total := timeSteps_sum time messages
  refine ⟨?_, ?_, ?_⟩
  · rw [← total]
    exact exp_le_remainingWeight tau_pos positive
  · rw [← total, ← blendGain_eq_inv tau_pos]
    exact remainingWeight_le_blendGain tau_pos positive
  · rw [← total, filterDecay, literal]
    have longest : ((1 / 10 : ℚ) : ℝ) = 1 / 10 := by norm_num
    rw [longest]
    exact remainingWeight_le_decay tau_pos (by norm_num) steps

/-! ## Two filters on the same messages -/

/-- Two filtering nodes which may differ in their angles only. -/
structure Twins (left right : OdomTfBroadcaster ℝ) : Prop where
  parameters : right.parameters = left.parameters
  filtering : left.Filtering
  filteringRight : right.Filtering
  seeded : left.haveCfState = true
  seededRight : right.haveCfState = true
  lastImuTime : right.lastImuTime = left.lastImuTime

instance (node : OdomTfBroadcaster ℝ) (time : ℤ) :
    Decidable (node.Integrates time) :=
  inferInstanceAs (Decidable (_ ∧ _))

/-- A filtering node after a message with a valid stamp. -/
def OdomTfBroadcaster.filtered
    (node : OdomTfBroadcaster ℝ) (msg : Imu ℝ) : OdomTfBroadcaster ℝ :=
  if node.Integrates msg.stamp.nanoseconds then
    node.integrated msg msg.stamp.nanoseconds
  else node.resynced msg msg.stamp.nanoseconds

/-- A seeded, filtering node integrates or resynchronises, unless the stamp is negative. -/
theorem OdomTfBroadcaster.step_imu
    (tf2 : Tf2 ℝ) {node : OdomTfBroadcaster ℝ}
    (filtering : node.Filtering) (seeded : node.haveCfState = true)
    (msg : Imu ℝ) :
    ((odomTfReactor tf2).step (some node) (.imu msg)).1 =
      if msg.stamp.sec < 0 then none else some (node.filtered msg) := by
  have resolved :=
    OdomTfBroadcaster.resolveMode_of_ne_auto filtering.2.1 msg
  have outcome := imuOutcome tf2 filtering.1 msg
  rw [resolved] at outcome
  generalize
    (odomTfReactor tf2).step (some node) (.imu msg) = result at outcome ⊢
  cases outcome with
  | empty mode _ | orientation mode _ =>
      exact absurd mode filtering.2.2
  | throwing _ negative => rw [if_pos negative]
  | seeding _ _ fresh =>
      rw [seeded] at fresh
      cases fresh
  | gap _ valid _ outside =>
      rw [if_neg valid.not_gt, filtered, if_neg outside]
  | step _ valid _ inside =>
      rw [if_neg valid.not_gt, filtered, if_pos inside]

namespace OdomTfBroadcaster

variable (node : OdomTfBroadcaster ℝ) (msg : Imu ℝ)

@[simp]
theorem filtered_lastImuTime :
    (node.filtered msg).lastImuTime = msg.stamp.nanoseconds := by
  rw [filtered]
  split_ifs <;> rfl

@[simp]
theorem filtered_parameters :
    (node.filtered msg).parameters = node.parameters := by
  rw [filtered]
  split_ifs <;> rfl

theorem filtered_filtering {node : OdomTfBroadcaster ℝ}
    (filtering : node.Filtering) : (node.filtered msg).Filtering := by
  rw [filtered]
  split_ifs <;> exact filtering

theorem filtered_seeded {node : OdomTfBroadcaster ℝ}
    (seeded : node.haveCfState = true) :
    (node.filtered msg).haveCfState = true := by
  rw [filtered]
  split_ifs
  · exact seeded
  · rfl

end OdomTfBroadcaster

namespace Twins

theorem filtered {left right : OdomTfBroadcaster ℝ}
    (twins : Twins left right) (msg : Imu ℝ) :
    Twins (left.filtered msg) (right.filtered msg) where
  parameters := by simp [twins.parameters]
  filtering := OdomTfBroadcaster.filtered_filtering msg twins.filtering
  filteringRight :=
    OdomTfBroadcaster.filtered_filtering msg twins.filteringRight
  seeded := OdomTfBroadcaster.filtered_seeded msg twins.seeded
  seededRight := OdomTfBroadcaster.filtered_seeded msg twins.seededRight
  lastImuTime := by simp

theorem integrates_iff {left right : OdomTfBroadcaster ℝ}
    (twins : Twins left right) (time : ℤ) :
    right.Integrates time ↔ left.Integrates time := by
  simp only [OdomTfBroadcaster.Integrates, OdomTfBroadcaster.timeStep,
    twins.lastImuTime]

/-- A message which is integrated multiplies the difference by its gain. -/
theorem angle_sub_integrated {left right : OdomTfBroadcaster ℝ}
    (twins : Twins left right) (axis : Axis) {msg : Imu ℝ}
    (inside : left.Integrates msg.stamp.nanoseconds) :
    (left.filtered msg).angle axis - (right.filtered msg).angle axis =
      blendGain left.parameters.cfTau
          (left.timeStep msg.stamp.nanoseconds) *
        (left.angle axis - right.angle axis) := by
  have insideRight := (twins.integrates_iff _).mpr inside
  have sameStep :
      right.timeStep msg.stamp.nanoseconds =
        left.timeStep msg.stamp.nanoseconds := by
    rw [OdomTfBroadcaster.timeStep, OdomTfBroadcaster.timeStep,
      twins.lastImuTime]
  rw [OdomTfBroadcaster.filtered, OdomTfBroadcaster.filtered,
    if_pos inside, if_pos insideRight, OdomTfBroadcaster.angle_integrated,
    OdomTfBroadcaster.angle_integrated, twins.parameters, sameStep,
    blend_sub_blend]
  ring

/-- A message which resynchronises makes the two agree. -/
theorem angle_eq_resynced {left right : OdomTfBroadcaster ℝ}
    (twins : Twins left right) (axis : Axis) {msg : Imu ℝ}
    (outside : ¬ left.Integrates msg.stamp.nanoseconds) :
    (left.filtered msg).angle axis = (right.filtered msg).angle axis := by
  have outsideRight :=
    fun inside => outside ((twins.integrates_iff _).mp inside)
  rw [OdomTfBroadcaster.filtered, OdomTfBroadcaster.filtered,
    if_neg outside, if_neg outsideRight,
    OdomTfBroadcaster.angle_resynced, OdomTfBroadcaster.angle_resynced]

end Twins

/-- The node after some IMU messages; `none` once it has thrown. -/
def afterImu (tf2 : Tf2 ℝ) (node : OdomTfBroadcaster ℝ)
    (messages : List (Imu ℝ)) : Option (OdomTfBroadcaster ℝ) :=
  (odomTfReactor tf2).final (some node) (messages.map .imu)

theorem afterImu_cons (tf2 : Tf2 ℝ) {node : OdomTfBroadcaster ℝ}
    (filtering : node.Filtering) (seeded : node.haveCfState = true)
    (msg : Imu ℝ) (rest : List (Imu ℝ)) :
    afterImu tf2 node (msg :: rest) =
      if msg.stamp.sec < 0 then none
      else afterImu tf2 (node.filtered msg) rest := by
  rw [afterImu, List.map_cons, Reactor.final,
    node.step_imu tf2 filtering seeded]
  split_ifs with negative
  · have ended (messages : List (Imu ℝ)) :
        (odomTfReactor tf2).final none (messages.map .imu) = none := by
      induction messages with
      | nil => rfl
      | cons _ _ induction => exact induction
    exact ended rest
  · rfl

/-- What is left of the difference of two nodes after the same messages. -/
def Agreed (axis : Axis) (left right : OdomTfBroadcaster ℝ)
    (messages : List (Imu ℝ)) (leftNow rightNow : OdomTfBroadcaster ℝ) :
    Prop :=
  leftNow.lastImuTime = lastTime left.lastImuTime messages ∧
    (StepsWithin left.lastImuTime messages →
      leftNow.angle axis - rightNow.angle axis =
        remainingWeight left.parameters.cfTau
            (timeSteps left.lastImuTime messages) *
          (left.angle axis - right.angle axis)) ∧
    (¬ StepsWithin left.lastImuTime messages →
      leftNow.angle axis = rightNow.angle axis)

/-- Both nodes throw at the same message, or both go on and agree more and more. -/
theorem Twins.afterImu (tf2 : Tf2 ℝ) (axis : Axis)
    {left right : OdomTfBroadcaster ℝ} (twins : Twins left right)
    (messages : List (Imu ℝ)) :
    (Attitude.afterImu tf2 left messages = none ∧
        Attitude.afterImu tf2 right messages = none ∧
          ∃ msg ∈ messages, msg.stamp.sec < 0) ∨
      ∃ leftNow rightNow,
        Attitude.afterImu tf2 left messages = some leftNow ∧
          Attitude.afterImu tf2 right messages = some rightNow ∧
            Agreed axis left right messages leftNow rightNow := by
  induction messages generalizing left right with
  | nil =>
      refine Or.inr ⟨left, right, rfl, rfl, rfl, ?_, ?_⟩
      · intro _
        simp [timeSteps]
      · intro notWithin
        exact absurd trivial notWithin
  | cons msg rest induction =>
      rw [afterImu_cons tf2 twins.filtering twins.seeded,
        afterImu_cons tf2 twins.filteringRight twins.seededRight]
      by_cases negative : msg.stamp.sec < 0
      · rw [if_pos negative, if_pos negative]
        exact Or.inl ⟨rfl, rfl, msg, by simp, negative⟩
      · rw [if_neg negative, if_neg negative]
        rcases induction (twins.filtered msg) with
          ⟨leftEnds, rightEnds, last, member, lastNegative⟩ |
            ⟨leftNow, rightNow, leftEq, rightEq, timeEq, within, apart⟩
        · exact
            Or.inl
              ⟨leftEnds, rightEnds, last, List.mem_cons_of_mem _ member,
                lastNegative⟩
        · rw [OdomTfBroadcaster.filtered_lastImuTime] at timeEq within apart
          refine
            Or.inr ⟨leftNow, rightNow, leftEq, rightEq, timeEq, ?_, ?_⟩
          · rintro ⟨inside, restWithin⟩
            rw [within restWithin, twins.angle_sub_integrated axis inside,
              timeSteps, remainingWeight_cons,
              OdomTfBroadcaster.filtered_parameters,
              OdomTfBroadcaster.timeStep]
            ring
          · intro notWithin
            by_cases restWithin :
                StepsWithin msg.stamp.nanoseconds rest
            · have outside :
                  ¬ left.Integrates msg.stamp.nanoseconds :=
                fun inside => notWithin ⟨inside, restWithin⟩
              rw [← sub_eq_zero, within restWithin,
                twins.angle_eq_resynced axis outside, sub_self, mul_zero]
            · exact apart restWithin

/--
The filter forgets its start.  Two nodes on the same messages throw at the
same one or both go on; a message which is not integrated makes them agree
for good; and while all are integrated their difference decays no faster than
the exponential of the time constant, and at least as fast as one step of the
whole duration and as steps of the greatest length.
-/
theorem filter_forgets (tf2 : Tf2 ℝ) (axis : Axis)
    (left right : OdomTfBroadcaster ℝ) (twins : Twins left right)
    (cfTau_pos : 0 < left.parameters.cfTau) (messages : List (Imu ℝ)) :
    (afterImu tf2 left messages = none ∧
        afterImu tf2 right messages = none ∧
          ∃ msg ∈ messages, msg.stamp.sec < 0) ∨
      ∃ leftNow rightNow,
        afterImu tf2 left messages = some leftNow ∧
          afterImu tf2 right messages = some rightNow ∧
          (¬ StepsWithin left.lastImuTime messages →
            leftNow.angle axis = rightNow.angle axis) ∧
          (StepsWithin left.lastImuTime messages →
            Real.exp
                  (-((durationSeconds
                      (leftNow.lastImuTime - left.lastImuTime) : ℝ) /
                    left.parameters.cfTau)) *
                |left.angle axis - right.angle axis| ≤
              |leftNow.angle axis - rightNow.angle axis| ∧
            |leftNow.angle axis - rightNow.angle axis| ≤
              (1 +
                    (durationSeconds
                        (leftNow.lastImuTime - left.lastImuTime) : ℝ) /
                      left.parameters.cfTau)⁻¹ *
                |left.angle axis - right.angle axis| ∧
            |leftNow.angle axis - rightNow.angle axis| ≤
              filterDecay left.parameters.cfTau
                  (durationSeconds
                    (leftNow.lastImuTime - left.lastImuTime)) *
                |left.angle axis - right.angle axis|) := by
  rcases twins.afterImu tf2 axis messages with
    ends | ⟨leftNow, rightNow, leftEq, rightEq, timeEq, within, apart⟩
  · exact Or.inl ends
  · refine Or.inr ⟨leftNow, rightNow, leftEq, rightEq, apart, ?_⟩
    intro steps
    have bounds := steps.remainingWeight_bounds cfTau_pos
    have nonneg :
        0 ≤
          remainingWeight left.parameters.cfTau
            (timeSteps left.lastImuTime messages) :=
      (Real.exp_pos _).le.trans bounds.1
    rw [timeEq, within steps, abs_mul, abs_of_nonneg nonneg]
    exact
      ⟨mul_le_mul_of_nonneg_right bounds.1 (abs_nonneg _),
        mul_le_mul_of_nonneg_right bounds.2.1 (abs_nonneg _),
        mul_le_mul_of_nonneg_right bounds.2.2 (abs_nonneg _)⟩

/-- A seeded node in complementary mode, at a roll. -/
def seededNode (roll : ℝ) : OdomTfBroadcaster ℝ where
  parameters := { Parameters.defaults with tiltSource := "imu" }
  useImuTilt := true
  resolvedMode := "complementary"
  haveCfState := true
  roll := roll
  pitch := literal 0
  lastImuTime := 0

theorem seededNode_filtering (roll : ℝ) : (seededNode roll).Filtering :=
  ⟨rfl, by simp [seededNode], by simp [seededNode]⟩

theorem seededNode_cfTau_pos (roll : ℝ) :
    0 < (seededNode roll).parameters.cfTau := by
  simp [seededNode, Parameters.defaults, literal]

/-- Level and a radian apart, fifty milliseconds later. -/
theorem filter_forgets_radian :
    (afterImu Tf2.reference (seededNode 0) [(biasedSample 50).msg] = none ∧
        afterImu Tf2.reference (seededNode 1) [(biasedSample 50).msg] =
          none ∧
        ∃ msg ∈ [(biasedSample 50).msg], msg.stamp.sec < 0) ∨
      ∃ leftNow rightNow,
        afterImu Tf2.reference (seededNode 0) [(biasedSample 50).msg] =
            some leftNow ∧
          afterImu Tf2.reference (seededNode 1) [(biasedSample 50).msg] =
            some rightNow ∧
          (¬ StepsWithin 0 [(biasedSample 50).msg] →
            leftNow.angle .roll = rightNow.angle .roll) ∧
          (StepsWithin 0 [(biasedSample 50).msg] →
            Real.exp
                  (-((durationSeconds (leftNow.lastImuTime - 0) : ℝ) /
                    (seededNode 0).parameters.cfTau)) *
                |(0 : ℝ) - 1| ≤
              |leftNow.angle .roll - rightNow.angle .roll| ∧
            |leftNow.angle .roll - rightNow.angle .roll| ≤
              (1 +
                    (durationSeconds (leftNow.lastImuTime - 0) : ℝ) /
                      (seededNode 0).parameters.cfTau)⁻¹ *
                |(0 : ℝ) - 1| ∧
            |leftNow.angle .roll - rightNow.angle .roll| ≤
              filterDecay (seededNode 0).parameters.cfTau
                  (durationSeconds (leftNow.lastImuTime - 0)) *
                |(0 : ℝ) - 1|) :=
  filter_forgets Tf2.reference .roll (seededNode 0) (seededNode 1)
    { parameters := rfl
      filtering := seededNode_filtering 0
      filteringRight := seededNode_filtering 1
      seeded := rfl
      seededRight := rfl
      lastImuTime := rfl }
    (seededNode_cfTau_pos 0) [(biasedSample 50).msg]

/-! ## A constant bias of the gyro -/

/--
Every sample is integrated, its gravity angle is exact, and its gyro reports
the change of the angle plus a constant bias.
-/
def BiasedChain (axis : Axis) (bias : ℝ) : ℤ → ℝ → List Sample → Prop
  | _, _, [] => True
  | time, angle, sample :: rest =>
      let dt := durationSeconds (sample.msg.stamp.nanoseconds - time)
      (0 ≤ sample.msg.stamp.sec ∧ (0 < dt ∧ dt ≤ 1 / 10) ∧
          sample.msg.gravityAngle axis = sample.angle ∧
          sample.msg.rate axis * dt =
            (sample.angle - angle) + bias * dt) ∧
        BiasedChain axis bias sample.msg.stamp.nanoseconds sample.angle rest

/-- The angle of the last sample, or the angle before the first. -/
def lastAngle (angle : ℝ) (samples : List Sample) : ℝ :=
  samples.foldl (fun _ sample => sample.angle) angle

@[simp]
theorem lastAngle_nil (angle : ℝ) : lastAngle angle [] = angle :=
  rfl

@[simp]
theorem lastAngle_cons (angle : ℝ) (sample : Sample) (rest : List Sample) :
    lastAngle angle (sample :: rest) = lastAngle sample.angle rest :=
  rfl

theorem BiasedChain.stepsWithin {axis : Axis} {bias : ℝ} {time : ℤ}
    {angle : ℝ} {samples : List Sample}
    (chain : BiasedChain axis bias time angle samples) :
    StepsWithin time (samples.map Sample.msg) := by
  induction samples generalizing time angle with
  | nil => trivial
  | cons sample rest induction =>
      exact ⟨chain.1.2.1, induction chain.2⟩

/-- One sample multiplies the distance from the equilibrium by its gain. -/
theorem OdomTfBroadcaster.angle_sub_equilibrium
    {node : OdomTfBroadcaster ℝ} (axis : Axis) {bias angle : ℝ}
    {sample : Sample} (cfTau_pos : 0 < node.parameters.cfTau)
    (inside : node.Integrates sample.msg.stamp.nanoseconds)
    (gravity : sample.msg.gravityAngle axis = sample.angle)
    (rate :
      sample.msg.rate axis * node.timeStep sample.msg.stamp.nanoseconds =
        (sample.angle - angle) +
          bias * node.timeStep sample.msg.stamp.nanoseconds) :
    (node.filtered sample.msg).angle axis -
        (sample.angle + node.parameters.cfTau * bias) =
      blendGain node.parameters.cfTau
          (node.timeStep sample.msg.stamp.nanoseconds) *
        (node.angle axis - (angle + node.parameters.cfTau * bias)) := by
  have dtPos : (0 : ℝ) < node.timeStep sample.msg.stamp.nanoseconds :=
    Rat.cast_pos.mpr inside.1
  rw [filtered, if_pos inside, angle_integrated, gravity, rate]
  exact blend_sub_equilibrium cfTau_pos dtPos bias _ angle sample.angle

theorem afterImu_biased (tf2 : Tf2 ℝ) (axis : Axis)
    {node : OdomTfBroadcaster ℝ} (filtering : node.Filtering)
    (seeded : node.haveCfState = true)
    (cfTau_pos : 0 < node.parameters.cfTau) {bias angle : ℝ}
    {samples : List Sample}
    (chain : BiasedChain axis bias node.lastImuTime angle samples) :
    ∃ last,
      afterImu tf2 node (samples.map Sample.msg) = some last ∧
        last.lastImuTime =
            lastTime node.lastImuTime (samples.map Sample.msg) ∧
          last.angle axis -
              (lastAngle angle samples + node.parameters.cfTau * bias) =
            remainingWeight node.parameters.cfTau
                (timeSteps node.lastImuTime (samples.map Sample.msg)) *
              (node.angle axis -
                (angle + node.parameters.cfTau * bias)) := by
  induction samples generalizing node angle with
  | nil => exact ⟨node, rfl, rfl, by simp [timeSteps]⟩
  | cons sample rest induction =>
      rcases chain with ⟨⟨valid, inside, gravity, rate⟩, chain⟩
      have inside : node.Integrates sample.msg.stamp.nanoseconds := inside
      have stepped :=
        node.angle_sub_equilibrium axis cfTau_pos inside gravity rate
      rw [← node.filtered_lastImuTime sample.msg] at chain
      rcases
          induction
            (OdomTfBroadcaster.filtered_filtering sample.msg filtering)
            (OdomTfBroadcaster.filtered_seeded sample.msg seeded)
            (by rwa [OdomTfBroadcaster.filtered_parameters]) chain with
        ⟨last, lastEq, timeEq, angleEq⟩
      rw [OdomTfBroadcaster.filtered_lastImuTime,
        OdomTfBroadcaster.filtered_parameters, stepped] at angleEq
      rw [OdomTfBroadcaster.filtered_lastImuTime] at timeEq
      refine ⟨last, ?_, timeEq, ?_⟩
      · rw [List.map_cons, afterImu_cons tf2 filtering seeded,
          if_neg valid.not_gt, lastEq]
      · rw [List.map_cons, timeSteps, remainingWeight_cons,
          lastAngle_cons, angleEq, OdomTfBroadcaster.timeStep]
        ring

/--
A constant gyro bias settles at the drift of one time constant.  On a body
which moves in any way, with exact gravity angles, the distance of the
filtered angle from the true angle plus that drift decays, no faster than the
time constant, and at least as fast as one step of the whole duration and as
steps of the greatest length.
-/
theorem gyro_bias_settles (tf2 : Tf2 ℝ) (axis : Axis)
    (node : OdomTfBroadcaster ℝ) (filtering : node.Filtering)
    (seeded : node.haveCfState = true)
    (cfTau_pos : 0 < node.parameters.cfTau) (bias angle : ℝ)
    (samples : List Sample)
    (chain : BiasedChain axis bias node.lastImuTime angle samples) :
    ∃ last,
      afterImu tf2 node (samples.map Sample.msg) = some last ∧
        Real.exp
              (-((durationSeconds
                  (last.lastImuTime - node.lastImuTime) : ℝ) /
                node.parameters.cfTau)) *
            |node.angle axis - (angle + node.parameters.cfTau * bias)| ≤
          |last.angle axis -
            (lastAngle angle samples + node.parameters.cfTau * bias)| ∧
        |last.angle axis -
            (lastAngle angle samples + node.parameters.cfTau * bias)| ≤
          (1 +
                (durationSeconds (last.lastImuTime - node.lastImuTime) : ℝ) /
                  node.parameters.cfTau)⁻¹ *
            |node.angle axis -
              (angle + node.parameters.cfTau * bias)| ∧
        |last.angle axis -
            (lastAngle angle samples + node.parameters.cfTau * bias)| ≤
          filterDecay node.parameters.cfTau
              (durationSeconds (last.lastImuTime - node.lastImuTime)) *
            |node.angle axis -
              (angle + node.parameters.cfTau * bias)| := by
  rcases afterImu_biased tf2 axis filtering seeded cfTau_pos chain with
    ⟨last, lastEq, timeEq, angleEq⟩
  have bounds := chain.stepsWithin.remainingWeight_bounds cfTau_pos
  have nonneg :
      0 ≤
        remainingWeight node.parameters.cfTau
          (timeSteps node.lastImuTime (samples.map Sample.msg)) :=
    (Real.exp_pos _).le.trans bounds.1
  refine ⟨last, lastEq, ?_⟩
  rw [timeEq, angleEq, abs_mul, abs_of_nonneg nonneg]
  exact
    ⟨mul_le_mul_of_nonneg_right bounds.1 (abs_nonneg _),
      mul_le_mul_of_nonneg_right bounds.2.1 (abs_nonneg _),
      mul_le_mul_of_nonneg_right bounds.2.2 (abs_nonneg _)⟩

/-- A radian per second on a level body, over fifty milliseconds. -/
theorem gyro_bias_settles_radian :
    ∃ last,
      afterImu Tf2.reference (seededNode 0) [(biasedSample 50).msg] =
          some last ∧
        Real.exp
              (-((durationSeconds (last.lastImuTime - 0) : ℝ) /
                (seededNode 0).parameters.cfTau)) *
            |(0 : ℝ) - (0 + (seededNode 0).parameters.cfTau * 1)| ≤
          |last.angle .roll -
            (0 + (seededNode 0).parameters.cfTau * 1)| ∧
        |last.angle .roll - (0 + (seededNode 0).parameters.cfTau * 1)| ≤
          (1 +
                (durationSeconds (last.lastImuTime - 0) : ℝ) /
                  (seededNode 0).parameters.cfTau)⁻¹ *
            |(0 : ℝ) - (0 + (seededNode 0).parameters.cfTau * 1)| ∧
        |last.angle .roll - (0 + (seededNode 0).parameters.cfTau * 1)| ≤
          filterDecay (seededNode 0).parameters.cfTau
              (durationSeconds (last.lastImuTime - 0)) *
            |(0 : ℝ) - (0 + (seededNode 0).parameters.cfTau * 1)| := by
  refine
    gyro_bias_settles Tf2.reference .roll (seededNode 0)
      (seededNode_filtering 0) rfl (seededNode_cfTau_pos 0) 1 0
      [biasedSample 50] ⟨⟨?_, ⟨?_, ?_⟩, ?_, ?_⟩, trivial⟩
  · simp [biasedSample]
  · norm_num [biasedSample, Stamp.nanoseconds, durationSeconds,
      seededNode]
  · norm_num [biasedSample, Stamp.nanoseconds, durationSeconds,
      seededNode]
  · exact sub_eq_zero.mp (biasedSample_error 50)
  · simp [biasedSample, Imu.rate]

end Go2Navigation.Attitude

end
