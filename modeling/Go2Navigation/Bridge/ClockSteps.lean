import Go2Navigation.Bridge.Watchdog

/-!
# The watchdog and a stepping clock

The timer fires on a steady clock, but the watchdog compares readings of the
node clock, which may be stepped in either direction at any moment.  A steady
run gives every callback both times.  The stop then depends on the node clock
alone: it comes exactly when some tick since the command reads the node clock
more than the timeout past the reading taken at the command.
-/

namespace Go2Navigation.Bridge

open Go2Navigation.Numeric
open Go2Navigation.Foundation

/-- A callback with the steady time at which the executor runs it. -/
structure SteadyCallback where
  steady : Time
  callback : Callback

/-- A watchdog tick with its steady time. -/
structure SteadyTick where
  steady : Time
  environment : Environment

def SteadyTick.toCallback (tick : SteadyTick) : SteadyCallback :=
  ⟨tick.steady, .watchdog tick.environment⟩

/--
A run under a steady clock.  Nothing relates the node clock readings to the
steady times or to each other.
-/
structure SteadyRun where
  parameters : Parameters
  start : Environment
  timed : List SteadyCallback
  start_returns : start.publish = .returns
  returns :
    ∀ timedCallback ∈ timed,
      timedCallback.callback.environment.publish = .returns
  nonDecreasing :
    (timed.map SteadyCallback.steady).Pairwise (· ≤ ·)

namespace SteadyRun

/-- The run as the node sees it. -/
def toRun (run : SteadyRun) : Run where
  parameters := run.parameters
  start := run.start
  callbacks := run.timed.map SteadyCallback.callback
  start_returns := run.start_returns
  returns := by
    intro callback member
    rcases List.mem_map.mp member with ⟨timedCallback, timedMember, rfl⟩
    exact run.returns timedCallback timedMember

/--
A velocity message, the ticks after it and one tick more than the timeout
after it on the steady clock.
-/
structure LateTick (run : SteadyRun) where
  before : List SteadyCallback
  received : Time
  msg : Twist
  command : Environment
  ticks : List SteadyTick
  tick : SteadyTick
  after : List SteadyCallback
  split :
    run.timed =
      before ++
        ⟨received, .cmdVel msg command⟩ ::
          (ticks.map SteadyTick.toCallback ++ tick.toCallback :: after)
  late : run.toRun.timeout < elapsedMs tick.steady received

/-- The callbacks up to and including the late tick. -/
def LateTick.past {run : SteadyRun} (lateTick : LateTick run) :
    List Callback :=
  lateTick.before.map SteadyCallback.callback ++
    .cmdVel lateTick.msg lateTick.command ::
      ((lateTick.ticks ++ [lateTick.tick]).map SteadyTick.environment).map
        .watchdog

/-- After every late tick a stop has been published since the command. -/
def StopsInTime (run : SteadyRun) : Prop :=
  ∀ lateTick : LateTick run,
    StoppedSince (run.toRun.historyOf lateTick.past)

/-- At every late tick the node clock has run past the timeout at some tick. -/
def NodeClockExpires (run : SteadyRun) : Prop :=
  ∀ lateTick : LateTick run,
    ∃ tick ∈ lateTick.ticks ++ [lateTick.tick],
      run.toRun.timeout <
        elapsedMs tick.environment.now lateTick.command.now

theorem LateTick.split_callbacks
    {run : SteadyRun} (lateTick : LateTick run) :
    run.toRun.callbacks =
      lateTick.past ++ lateTick.after.map SteadyCallback.callback := by
  have unfolded :
      run.toRun.callbacks = run.timed.map SteadyCallback.callback := rfl
  rw [unfolded, lateTick.split]
  simp [LateTick.past, SteadyTick.toCallback, Function.comp_def]

/-- One late tick: the stop depends on the node clock readings alone. -/
theorem LateTick.stoppedSince_iff
    {run : SteadyRun} (lateTick : LateTick run) :
    StoppedSince (run.toRun.historyOf lateTick.past) ↔
      ∃ tick ∈ lateTick.ticks ++ [lateTick.tick],
        run.toRun.timeout <
          elapsedMs tick.environment.now lateTick.command.now := by
  rw [run.toRun.stoppedSince_iff_expired lateTick.split_callbacks,
    LateTick.past, Run.expiredSince_command_watchdogs]
  simp only [List.mem_map]
  constructor
  · rintro ⟨_, ⟨tick, member, rfl⟩, expired⟩
    exact ⟨tick, member, expired⟩
  · rintro ⟨tick, member, expired⟩
    exact ⟨tick.environment, ⟨tick, member, rfl⟩, expired⟩

/--
The watchdog stops the robot in time in exactly the runs whose node clock
expires at every late tick.
-/
theorem stopsInTime_iff_nodeClockExpires (run : SteadyRun) :
    run.StopsInTime ↔ run.NodeClockExpires :=
  forall_congr' LateTick.stoppedSince_iff

/--
A node clock which advances at least as far as the steady clock between the
command and the late tick is enough.
-/
theorem nodeClockExpires_of_advances (run : SteadyRun)
    (advances :
      ∀ lateTick : LateTick run,
        elapsedMs lateTick.tick.steady lateTick.received ≤
          elapsedMs lateTick.tick.environment.now lateTick.command.now) :
    run.NodeClockExpires := by
  intro lateTick
  refine ⟨lateTick.tick, by simp, ?_⟩
  exact lateTick.late.trans_le (advances lateTick)

/-- The node clock is stepped back nine seconds right after a command. -/
def steppedRun : SteadyRun where
  parameters := ⟨.finite 1, .finite 1, .finite 200⟩
  start := atMs 10000
  timed :=
    [⟨0, .cmdVel zeroTwist (atMs 10000)⟩,
      ⟨5000 * 10 ^ 6, .watchdog (atMs 6000)⟩]
  start_returns := rfl
  returns := by simp [Callback.environment, atMs]
  nonDecreasing := by simp

theorem steppedRun_timeout : steppedRun.toRun.timeout = 200 :=
  steppedRun.toRun.timeout_of_positive rfl (by norm_num)

/-- The tick five seconds after the command of the stepped run. -/
def steppedLateTick : LateTick steppedRun where
  before := []
  received := 0
  msg := zeroTwist
  command := atMs 10000
  ticks := []
  tick := ⟨5000 * 10 ^ 6, atMs 6000⟩
  after := []
  split := rfl
  late := by
    rw [steppedRun_timeout]
    norm_num [elapsedMs]

/-- Five seconds of silence go unnoticed after a backward step. -/
theorem not_stopsInTime_steppedRun :
    ¬ ∀ run : SteadyRun, run.StopsInTime := by
  intro immune
  rcases
      steppedLateTick.stoppedSince_iff.mp
        (immune steppedRun steppedLateTick) with
    ⟨tick, member, expired⟩
  rw [steppedRun_timeout] at expired
  simp only [steppedLateTick, List.nil_append, List.mem_singleton] at member
  subst member
  norm_num [elapsedMs, atMs, steppedLateTick] at expired

end SteadyRun

end Go2Navigation.Bridge
