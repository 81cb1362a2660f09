import Go2Navigation.Bridge.History
import Mathlib.Data.List.Chain

/-!
# Exactness of the watchdog under a monotone clock

A timed run is a run whose clock readings never decrease.  Under that
assumption the flag of the node is exactly "the watchdog has published since
the last velocity message", which settles when a tick publishes, how far
apart stops are, and how soon the first stop comes after the last command.
-/

namespace Go2Navigation.Bridge

open Go2Navigation.Numeric
open Go2Navigation.Foundation

theorem elapsedMs_mono {now later last : Time} (ordered : now ≤ later) :
    elapsedMs now last ≤ elapsedMs later last := by
  have cast : ((now - last : ℤ) : ℚ) ≤ ((later - last : ℤ) : ℚ) := by
    exact_mod_cast sub_le_sub_right ordered last
  simp only [elapsedMs]
  linarith

theorem elapsedMs_antitone {now last earlier : Time}
    (ordered : earlier ≤ last) :
    elapsedMs now last ≤ elapsedMs now earlier := by
  have cast : ((now - last : ℤ) : ℚ) ≤ ((now - earlier : ℤ) : ℚ) := by
    exact_mod_cast sub_le_sub_left ordered now
  simp only [elapsedMs]
  linarith

theorem elapsedMs_add (last middle first : Time) :
    elapsedMs last first =
      elapsedMs last middle + elapsedMs middle first := by
  simp only [elapsedMs]
  push_cast
  ring

theorem elapsedMs_nonpos {now last : Time} (ordered : now ≤ last) :
    elapsedMs now last ≤ 0 := by
  have bound : elapsedMs now last ≤ elapsedMs last last :=
    elapsedMs_mono ordered
  simpa [elapsedMs] using bound

namespace Callback

/--
The clock readings of one callback.  A tick which publishes nothing takes no
second reading; its second entry is then any value up to the next reading.
-/
def readings : Callback → List Time
  | .cmdVel _ environment => [environment.now]
  | .watchdog environment => [environment.now, environment.nowAfterPublish]

theorem now_mem_readings (callback : Callback) :
    callback.environment.now ∈ callback.readings := by
  cases callback <;> simp [readings, environment]

end Callback

/-- Every reading of a run up to some callback, the constructor's included. -/
def readingsOf (start : Environment) (callbacks : List Callback) :
    List Time :=
  start.now :: start.nowAfterPublish :: callbacks.flatMap Callback.readings

/-- A run whose clock readings never decrease. -/
structure TimedRun extends Run where
  nonDecreasing : (readingsOf start callbacks).Pairwise (· ≤ ·)

namespace TimedRun

variable (run : TimedRun)

/-- No reading is later than the entry reading of a later callback. -/
theorem le_now
    {past future : List Callback} {callback : Callback}
    (split : run.callbacks = past ++ callback :: future)
    {reading : Time} (member : reading ∈ readingsOf run.start past) :
    reading ≤ callback.environment.now := by
  have sorted := run.nonDecreasing
  have readingsEq :
      readingsOf run.start run.callbacks =
        readingsOf run.start past ++
          (callback.readings ++ future.flatMap Callback.readings) := by
    simp [readingsOf, split]
  rw [readingsEq, List.pairwise_append] at sorted
  exact
    sorted.2.2 reading member _
      (List.mem_append_left _ callback.now_mem_readings)

/-- Publishing takes no negative time. -/
theorem now_le_nowAfterPublish
    {past future : List Callback} {tick : Environment}
    (split : run.callbacks = past ++ .watchdog tick :: future) :
    tick.now ≤ tick.nowAfterPublish := by
  have sorted := run.nonDecreasing
  simp only [readingsOf, split, List.flatMap_append, List.flatMap_cons,
    Callback.readings, List.pairwise_cons, List.pairwise_append] at sorted
  exact sorted.2.2.2.1.1.1 _ (by simp)

theorem now_mem_readingsOf (start : Environment)
    {past : List Callback} {callback : Callback} (member : callback ∈ past) :
    callback.environment.now ∈ readingsOf start past := by
  simp only [readingsOf, List.mem_cons, List.mem_flatMap]
  exact Or.inr (Or.inr ⟨callback, member, callback.now_mem_readings⟩)

/-- A command found overdue stays overdue until the next velocity message. -/
theorem overdue_of_expired
    {past future : List Callback} {callback : Callback}
    (split : run.callbacks = past ++ callback :: future)
    (expired : run.ExpiredSinceCmdVel past) :
    run.Overdue past callback.environment.now := by
  rcases expired with ⟨before, tick, ticks, rfl, overdue⟩
  have tickMember :
      Callback.watchdog tick ∈
        before ++ .watchdog tick :: ticks.map .watchdog := by
    simp
  have later : tick.now ≤ callback.environment.now :=
    run.le_now split (now_mem_readingsOf run.start tickMember)
  have sameCommand :
      lastCmdVel (before ++ .watchdog tick :: ticks.map .watchdog) =
        lastCmdVel before := by
    simpa using lastCmdVel_append_watchdogs before (tick :: ticks)
  intro received receivedEq
  rw [sameCommand] at receivedEq
  exact (overdue received receivedEq).trans_le (elapsedMs_mono later)

/-- A tick within the timeout comes before any stop since the last command. -/
theorem stopSinceCmdVel_of_not_overdue
    {past future : List Callback} {callback : Callback}
    (split : run.callbacks = past ++ callback :: future)
    (within : ¬ run.Overdue past callback.environment.now) :
    stopSinceCmdVel (run.historyOf past) = false := by
  rw [← Bool.not_eq_true, run.stopSinceCmdVel_iff_expired split]
  exact fun expired => within (run.overdue_of_expired split expired)

/-- The flag of the node is exactly the fact it stands for. -/
theorem timeoutStopSent_eq
    {past future : List Callback}
    (split : run.callbacks = past ++ future) :
    (run.nodeAfter past).timeoutStopSent =
      stopSinceCmdVel (run.historyOf past) := by
  induction past using List.reverseRecOn generalizing future with
  | nil =>
      simp [Run.startNode, construct, Go2NavBridge.publishStopCommand,
        Go2NavBridge.publishStopUnlocked, run.start_returns]
  | append_singleton past callback induction =>
      have splitHere : run.callbacks = past ++ callback :: future := by
        simp [split]
      have soFar := induction splitHere
      have outcome := run.outcome splitHere
      rw [run.historyOf_concat]
      generalize run.published past callback = outputs at outcome ⊢
      generalize run.nodeAfter (past ++ [callback]) = next at outcome ⊢
      cases outcome with
      | command msg environment => simp
      | alive environment within =>
          simp [run.stopSinceCmdVel_of_not_overdue splitHere within]
      | silent environment overdue sent recent => simpa using soFar
      | stop environment overdue reason => simp

/-! ## What one tick publishes -/

/-- A tick publishes one stop or nothing. -/
theorem published_eq_nil_or_stop
    {past future : List Callback} {tick : Environment}
    (split : run.callbacks = past ++ .watchdog tick :: future) :
    run.published past (.watchdog tick) = [] ∨
      run.published past (.watchdog tick) = [stopCommand] := by
  have outcome := run.outcome split
  generalize run.published past (.watchdog tick) = outputs at outcome ⊢
  generalize run.nodeAfter (past ++ [.watchdog tick]) = next at outcome
  cases outcome with
  | alive _ within => exact Or.inl rfl
  | silent _ overdue sent recent => exact Or.inl rfl
  | stop _ overdue reason => exact Or.inr rfl

theorem published_of_not_overdue
    {past future : List Callback} {tick : Environment}
    (split : run.callbacks = past ++ .watchdog tick :: future)
    (within : ¬ run.Overdue past tick.now) :
    run.published past (.watchdog tick) = [] := by
  have outcome := run.outcome split
  generalize run.published past (.watchdog tick) = outputs at outcome ⊢
  generalize run.nodeAfter (past ++ [.watchdog tick]) = next at outcome
  cases outcome with
  | alive _ _ => rfl
  | silent _ overdue sent recent => rfl
  | stop _ overdue reason => exact absurd overdue within

theorem stoppedSince_of_overdue
    {past future : List Callback} {tick : Environment}
    (split : run.callbacks = past ++ .watchdog tick :: future)
    (overdue : run.Overdue past tick.now) :
    StoppedSince (run.historyOf (past ++ [.watchdog tick])) := by
  have splitAfter :
      run.callbacks = (past ++ [.watchdog tick]) ++ future := by
    simp [split]
  apply run.stoppedSince_of_stopSinceCmdVel splitAfter
  rw [run.stopSinceCmdVel_iff_expired splitAfter,
    Run.expiredSince_concat_watchdog]
  exact Or.inr overdue

/-- A timed-out tick publishes for exactly the two documented reasons. -/
theorem published_iff_of_overdue
    {past future : List Callback} {tick : Environment}
    (split : run.callbacks = past ++ .watchdog tick :: future)
    (overdue : run.Overdue past tick.now) :
    run.published past (.watchdog tick) = [stopCommand] ↔
      stopSinceCmdVel (run.historyOf past) = false ∨
        500 ≤
          elapsedMs tick.now
            (lastStop run.start.nowAfterPublish (run.historyOf past)) := by
  have outcome := run.outcome split
  have flagEq := run.timeoutStopSent_eq split
  have republish :=
    (run.tracks past _ split).periodicRepublish_iff tick.now
  generalize run.published past (.watchdog tick) = outputs at outcome ⊢
  generalize run.nodeAfter (past ++ [.watchdog tick]) = next at outcome
  cases outcome with
  | alive _ within => exact absurd overdue within
  | silent _ _ sent recent =>
      rw [← flagEq, ← republish, sent, recent]
      simp
  | stop _ _ reason =>
      rw [← flagEq, ← republish]
      exact ⟨fun _ => reason, fun _ => rfl⟩

/-! ## Two stops with no command between them -/

theorem le_lastStop_of_stop
    {before after : List Callback} {first : Environment}
    (ticks : List Environment)
    (split :
      run.callbacks =
        before ++ .watchdog first :: (ticks.map .watchdog ++ after))
    (firstStop : run.published before (.watchdog first) = [stopCommand]) :
    stopSinceCmdVel
          (run.historyOf
            (before ++ .watchdog first :: ticks.map .watchdog)) =
        true ∧
      first.nowAfterPublish ≤
        lastStop run.start.nowAfterPublish
          (run.historyOf
            (before ++ .watchdog first :: ticks.map .watchdog)) := by
  induction ticks using List.reverseRecOn generalizing after with
  | nil =>
      rw [List.map_nil, run.historyOf_concat, firstStop]
      simp
  | append_singleton ticks tick induction =>
      have splitTick :
          run.callbacks =
            (before ++ .watchdog first :: ticks.map .watchdog) ++
              .watchdog tick :: after := by
        simpa using split
      have splitSoFar :
          run.callbacks =
            before ++
              .watchdog first ::
                (ticks.map .watchdog ++ (.watchdog tick :: after)) := by
        simpa using split
      have soFar := induction splitSoFar
      have pastEq :
          before ++
              .watchdog first :: (ticks ++ [tick]).map .watchdog =
            (before ++ .watchdog first :: ticks.map .watchdog) ++
              [.watchdog tick] := by
        simp
      rw [pastEq, run.historyOf_concat]
      have firstReading :
          first.nowAfterPublish ∈
            readingsOf run.start
              (before ++ .watchdog first :: ticks.map .watchdog) := by
        simp [readingsOf, Callback.readings]
      have later : first.nowAfterPublish ≤ tick.nowAfterPublish :=
        (run.le_now splitTick firstReading).trans
          (run.now_le_nowAfterPublish splitTick)
      rw [stopSinceCmdVel_concat_watchdog, soFar.1,
        lastStop_concat_watchdog]
      refine ⟨rfl, ?_⟩
      split
      · exact soFar.2
      · exact later

/-- Stops with no velocity message between them are half a second apart. -/
theorem stops_separated
    {before after : List Callback} {first second : Environment}
    (ticks : List Environment)
    (split :
      run.callbacks =
        before ++
          .watchdog first ::
            (ticks.map .watchdog ++ .watchdog second :: after))
    (firstStop : run.published before (.watchdog first) = [stopCommand])
    (secondStop :
      run.published
          (before ++ .watchdog first :: ticks.map .watchdog)
          (.watchdog second) =
        [stopCommand]) :
    500 ≤ elapsedMs second.now first.nowAfterPublish := by
  have splitSecond :
      run.callbacks =
        (before ++ .watchdog first :: ticks.map .watchdog) ++
          .watchdog second :: after := by
    simpa using split
  rcases run.le_lastStop_of_stop ticks split firstStop with
    ⟨stopped, notEarlier⟩
  have overdue :
      run.Overdue
        (before ++ .watchdog first :: ticks.map .watchdog)
        second.now := by
    by_contra within
    rw [run.published_of_not_overdue splitSecond within] at secondStop
    cases secondStop
  rcases
      (run.published_iff_of_overdue splitSecond overdue).mp secondStop
    with none | periodic
  · rw [stopped] at none
    cases none
  · exact periodic.trans (elapsedMs_antitone notEarlier)

end TimedRun

/-! ## The first stop after a command -/

/-- Entry readings of the ticks of a run. -/
def tickReadings (callbacks : List Callback) : List Time :=
  callbacks.filterMap fun callback =>
    match callback with
    | .cmdVel _ _ => none
    | .watchdog environment => some environment.now

@[simp]
theorem tickReadings_watchdogs (ticks : List Environment) :
    tickReadings (ticks.map .watchdog) = ticks.map Environment.now := by
  induction ticks with
  | nil => rfl
  | cons tick ticks induction =>
      exact congrArg (List.cons tick.now) induction

/--
Ticks are never more than `gap` milliseconds apart, counted from the end of
the constructor.
-/
def Run.TicksWithin (run : Run) (gap : ℚ) : Prop :=
  (run.start.nowAfterPublish :: tickReadings run.callbacks).IsChain
    fun earlier later => elapsedMs later earlier ≤ gap

/-- Among ticks at most `gap` apart, the first expired one is at most `gap` late. -/
theorem exists_first_expired
    {timeout gap : ℚ} {received : Time}
    (ticks : List Environment) {previous : Time}
    (alive : elapsedMs previous received ≤ timeout)
    (spaced :
      (previous :: ticks.map Environment.now).IsChain
        fun earlier later => elapsedMs later earlier ≤ gap)
    (expires : ∃ tick ∈ ticks, timeout < elapsedMs tick.now received) :
    ∃ quiet first rest,
      ticks = quiet ++ first :: rest ∧
        (∀ tick ∈ quiet, elapsedMs tick.now received ≤ timeout) ∧
          timeout < elapsedMs first.now received ∧
            elapsedMs first.now received ≤ timeout + gap := by
  induction ticks generalizing previous with
  | nil =>
      rcases expires with ⟨tick, member, _⟩
      cases member
  | cons tick ticks induction =>
      rw [List.map_cons, List.isChain_cons_cons] at spaced
      by_cases expired : timeout < elapsedMs tick.now received
      · refine ⟨[], tick, ticks, rfl, by simp, expired, ?_⟩
        rw [elapsedMs_add tick.now previous received]
        linarith [spaced.1]
      · have aliveHere := not_lt.mp expired
        have expiresLater :
            ∃ later ∈ ticks, timeout < elapsedMs later.now received := by
          rcases expires with ⟨later, member, laterExpired⟩
          rcases List.mem_cons.mp member with rfl | inRest
          · exact absurd laterExpired expired
          · exact ⟨later, inRest, laterExpired⟩
        rcases induction aliveHere spaced.2 expiresLater with
          ⟨quiet, first, rest, rfl, quietAlive, firstExpired, soon⟩
        refine
          ⟨tick :: quiet, first, rest, rfl, ?_, firstExpired, soon⟩
        intro other member
        rcases List.mem_cons.mp member with rfl | inQuiet
        · exact aliveHere
        · exact quietAlive other inQuiet

namespace TimedRun

variable (run : TimedRun)

/-- The last tick before a command, or the constructor, bounds the next ticks. -/
theorem exists_previous_reading
    {gap : ℚ} (within : run.TicksWithin gap)
    {before after : List Callback} {msg : Twist} {environment : Environment}
    (ticks : List Environment)
    (split :
      run.callbacks =
        before ++
          .cmdVel msg environment :: (ticks.map .watchdog ++ after)) :
    ∃ previous,
      previous ≤ environment.now ∧
        (previous :: ticks.map Environment.now).IsChain
          fun earlier later => elapsedMs later earlier ≤ gap := by
  rcases
      List.eq_nil_or_concat'
        (run.start.nowAfterPublish :: tickReadings before)
    with impossible | ⟨initial, previous, previousEq⟩
  · cases impossible
  have chain := within
  rw [Run.TicksWithin] at chain
  have readingsEq :
      run.start.nowAfterPublish :: tickReadings run.callbacks =
        initial ++ (previous :: ticks.map Environment.now) ++
          tickReadings after := by
    have tail :
        tickReadings run.callbacks =
          tickReadings before ++
            (ticks.map Environment.now ++ tickReadings after) := by
      rw [split, ← tickReadings_watchdogs]
      simp [tickReadings]
    rw [tail, ← List.cons_append, previousEq]
    simp
  rw [readingsEq] at chain
  have previousMember :
      previous ∈ readingsOf run.start before := by
    have member :
        previous ∈ run.start.nowAfterPublish :: tickReadings before := by
      simp [previousEq]
    rcases List.mem_cons.mp member with rfl | inTicks
    · simp [readingsOf]
    · rcases List.mem_filterMap.mp inTicks with
        ⟨callback, callbackMember, readingEq⟩
      cases callback with
      | cmdVel _ _ => cases readingEq
      | watchdog tick =>
          cases readingEq
          exact now_mem_readingsOf run.start callbackMember
  refine ⟨previous, run.le_now split previousMember, ?_⟩
  exact chain.left_of_append.right_of_append

/-- Ticks within the timeout leave the run without a stop since the command. -/
theorem not_stopSince_of_quiet
    {before after : List Callback} {msg : Twist} {environment : Environment}
    (quiet : List Environment)
    (split :
      run.callbacks =
        before ++
          .cmdVel msg environment :: (quiet.map .watchdog ++ after))
    (alive :
      ∀ tick ∈ quiet, elapsedMs tick.now environment.now ≤ run.timeout) :
    stopSinceCmdVel
        (run.historyOf
          (before ++ .cmdVel msg environment :: quiet.map .watchdog)) =
      false := by
  induction quiet using List.reverseRecOn generalizing after with
  | nil =>
      rw [List.map_nil, run.historyOf_concat]
      simp
  | append_singleton quiet tick induction =>
      have splitTick :
          run.callbacks =
            (before ++ .cmdVel msg environment :: quiet.map .watchdog) ++
              .watchdog tick :: after := by
        simpa using split
      have splitSoFar :
          run.callbacks =
            before ++
              .cmdVel msg environment ::
                (quiet.map .watchdog ++ (.watchdog tick :: after)) := by
        simpa using split
      have soFar :=
        induction splitSoFar fun other member =>
          alive other (List.mem_append_left _ member)
      have pastEq :
          before ++
              .cmdVel msg environment :: (quiet ++ [tick]).map .watchdog =
            (before ++ .cmdVel msg environment :: quiet.map .watchdog) ++
              [.watchdog tick] := by
        simp
      have within :
          ¬ run.Overdue
            (before ++ .cmdVel msg environment :: quiet.map .watchdog)
            tick.now := by
        rw [Run.overdue_command_watchdogs, not_lt]
        exact alive tick (by simp)
      rw [pastEq, run.historyOf_concat, stopSinceCmdVel_concat_watchdog,
        soFar, run.published_of_not_overdue splitTick within]
      rfl

/-- The first stop after a command comes within the timeout plus one gap. -/
theorem stop_within
    {gap : ℚ} (within : run.TicksWithin gap)
    {before after : List Callback} {msg : Twist} {environment : Environment}
    (ticks : List Environment)
    (split :
      run.callbacks =
        before ++
          .cmdVel msg environment :: (ticks.map .watchdog ++ after))
    (expires :
      ∃ tick ∈ ticks,
        run.timeout < elapsedMs tick.now environment.now) :
    ∃ quiet first rest,
      ticks = quiet ++ first :: rest ∧
        run.published
            (before ++ .cmdVel msg environment :: quiet.map .watchdog)
            (.watchdog first) =
          [stopCommand] ∧
        elapsedMs first.now environment.now ≤ run.timeout + gap := by
  rcases run.exists_previous_reading within ticks split with
    ⟨previous, notLater, spaced⟩
  have alive :
      elapsedMs previous environment.now ≤ run.timeout :=
    (elapsedMs_nonpos notLater).trans
      run.startNode.watchdogTimeoutMs.rational_pos.le
  rcases exists_first_expired ticks alive spaced expires with
    ⟨quiet, first, rest, rfl, quietAlive, firstExpired, soon⟩
  have splitQuiet :
      run.callbacks =
        before ++
          .cmdVel msg environment ::
            (quiet.map .watchdog ++
              (.watchdog first :: (rest.map .watchdog ++ after))) := by
    simpa using split
  have splitFirst :
      run.callbacks =
        (before ++ .cmdVel msg environment :: quiet.map .watchdog) ++
          .watchdog first :: (rest.map .watchdog ++ after) := by
    simpa using split
  have overdue :
      run.Overdue
        (before ++ .cmdVel msg environment :: quiet.map .watchdog)
        first.now :=
    (run.overdue_command_watchdogs _ _ _ _ _).mpr firstExpired
  refine ⟨quiet, first, rest, rfl, ?_, soon⟩
  rw [run.published_iff_of_overdue splitFirst overdue]
  exact Or.inl (run.not_stopSince_of_quiet quiet splitQuiet quietAlive)

/-- With ticks at the period of the timer, the first stop is so much late. -/
def StopsAtPeriod (run : TimedRun) (period : ℤ) : Prop :=
  run.TicksWithin period →
    ∀ before msg environment (ticks : List Environment) after,
      run.callbacks =
        before ++
          .cmdVel msg environment :: (ticks.map .watchdog ++ after) →
      (∃ tick ∈ ticks,
        run.timeout < elapsedMs tick.now environment.now) →
      ∃ quiet first rest,
        ticks = quiet ++ first :: rest ∧
          run.published
              (before ++ .cmdVel msg environment :: quiet.map .watchdog)
              (.watchdog first) =
            [stopCommand] ∧
          elapsedMs first.now environment.now ≤
            run.timeout + max 1 (run.timeout / 2)

theorem exists_period (run : TimedRun) :
    ∃ period : ℤ,
      watchdogPeriodFromTimeout run.startNode.watchdogTimeoutMs.value =
          some period ∧
        1 ≤ period ∧ period ≤ 10000 ∧ run.StopsAtPeriod period := by
  rw [run.startNode.watchdogTimeoutMs.value_eq]
  rcases watchdogPeriodFromTimeout_bounds run.timeout with
    ⟨period, periodEq, least, greatest, half⟩
  refine ⟨period, periodEq, least, greatest, ?_⟩
  intro within before msg environment ticks after split expires
  rcases run.stop_within within ticks split expires with
    ⟨quiet, first, rest, ticksEq, stopped, soon⟩
  exact
    ⟨quiet, first, rest, ticksEq, stopped,
      soon.trans (add_le_add_right half _)⟩

end TimedRun

/--
The watchdog is exact in every timed run.  A timed-out tick leaves a stop,
published since the last command, as the latest message; a tick within the
timeout publishes nothing; a timed-out tick publishes exactly if no stop was
published since the last command or the previous stop is half a second old;
stops with no command between them are half a second apart; and with ticks at
most `gap` apart the first stop comes at most the timeout plus `gap` after
the command, so with the timer that the constructor sets half the timeout
later, or a millisecond.
-/
theorem watchdog_exact (run : TimedRun) :
    stopCommand.IsStop ∧
    (∀ past tick future,
      run.callbacks = past ++ .watchdog tick :: future →
        (run.Overdue past tick.now →
          StoppedSince (run.historyOf (past ++ [.watchdog tick]))) ∧
        (¬ run.Overdue past tick.now →
          run.published past (.watchdog tick) = []) ∧
        (run.Overdue past tick.now →
          (run.published past (.watchdog tick) = [stopCommand] ↔
            stopSinceCmdVel (run.historyOf past) = false ∨
              500 ≤
                elapsedMs tick.now
                  (lastStop run.start.nowAfterPublish
                    (run.historyOf past))) ∧
          (run.published past (.watchdog tick) = [] ∨
            run.published past (.watchdog tick) = [stopCommand]))) ∧
    (∀ before first (ticks : List Environment) second after,
      run.callbacks =
          before ++
            .watchdog first ::
              (ticks.map .watchdog ++ .watchdog second :: after) →
        run.published before (.watchdog first) = [stopCommand] →
        run.published
            (before ++ .watchdog first :: ticks.map .watchdog)
            (.watchdog second) =
          [stopCommand] →
        500 ≤ elapsedMs second.now first.nowAfterPublish) ∧
    (∀ gap before msg environment (ticks : List Environment) after,
      run.TicksWithin gap →
        run.callbacks =
          before ++
            .cmdVel msg environment :: (ticks.map .watchdog ++ after) →
        (∃ tick ∈ ticks,
          run.timeout < elapsedMs tick.now environment.now) →
        ∃ quiet first rest,
          ticks = quiet ++ first :: rest ∧
            run.published
                (before ++
                  .cmdVel msg environment :: quiet.map .watchdog)
                (.watchdog first) =
              [stopCommand] ∧
            elapsedMs first.now environment.now ≤ run.timeout + gap) ∧
    ∃ period : ℤ,
      watchdogPeriodFromTimeout run.startNode.watchdogTimeoutMs.value =
          some period ∧
        1 ≤ period ∧ period ≤ 10000 ∧ run.StopsAtPeriod period := by
  refine ⟨stopCommand_isStop, ?_, ?_, ?_, run.exists_period⟩
  · intro past tick future split
    refine ⟨run.stoppedSince_of_overdue split,
      run.published_of_not_overdue split, ?_⟩
    intro overdue
    exact
      ⟨run.published_iff_of_overdue split overdue,
        run.published_eq_nil_or_stop split⟩
  · intro before first ticks second after split firstStop secondStop
    exact run.stops_separated ticks split firstStop secondStop
  · intro gap before msg environment ticks after within split expires
    exact run.stop_within within ticks split expires

/-- A clock reading at the given millisecond, and its publish at once. -/
def atMs (reading : ℤ) : Environment where
  now := reading * 10 ^ 6
  nowAfterPublish := reading * 10 ^ 6
  publish := .returns

/-- A velocity message with every component zero. -/
def zeroTwist : Twist :=
  ⟨⟨.finite 0, .finite 0, .finite 0⟩, ⟨.finite 0, .finite 0, .finite 0⟩⟩

/-- One command, then ticks at 100, 200, 201 and 701 milliseconds after it. -/
def sampleTimedRun : TimedRun where
  parameters := ⟨.nan, .posInf, .finite 200⟩
  start := atMs 0
  callbacks :=
    [.cmdVel zeroTwist (atMs 50), .watchdog (atMs 150),
      .watchdog (atMs 250), .watchdog (atMs 251), .watchdog (atMs 751)]
  start_returns := rfl
  returns := by decide
  nonDecreasing := by decide

theorem sampleTimedRun_timeout : sampleTimedRun.timeout = 200 :=
  sampleTimedRun.timeout_of_positive rfl (by norm_num)

/-- At exactly the timeout nothing is published; one millisecond later a stop is. -/
theorem watchdog_exact_sample :
    sampleTimedRun.published
        [.cmdVel zeroTwist (atMs 50), .watchdog (atMs 150)]
        (.watchdog (atMs 250)) =
      [] ∧
    StoppedSince
      (sampleTimedRun.historyOf
        [.cmdVel zeroTwist (atMs 50), .watchdog (atMs 150),
          .watchdog (atMs 250), .watchdog (atMs 251)]) := by
  have exact := (watchdog_exact sampleTimedRun).2.1
  have overdue :=
    sampleTimedRun.overdue_command_watchdogs [] zeroTwist (atMs 50)
  constructor
  · apply (exact _ _ [.watchdog (atMs 251), .watchdog (atMs 751)] rfl).2.1
    intro expired
    have late := (overdue [atMs 150] _).mp expired
    rw [sampleTimedRun_timeout] at late
    norm_num [elapsedMs, atMs] at late
  · apply
      (exact
        [.cmdVel zeroTwist (atMs 50), .watchdog (atMs 150),
          .watchdog (atMs 250)]
        _ [.watchdog (atMs 751)] rfl).1
    apply (overdue [atMs 150, atMs 250] _).mpr
    rw [sampleTimedRun_timeout]
    norm_num [elapsedMs, atMs]

end Go2Navigation.Bridge
