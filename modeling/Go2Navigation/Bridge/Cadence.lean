import Go2Navigation.Bridge.Watchdog

/-!
# The cadence of the stops

While no velocity message arrives, the watchdog repeats its stop.  It does so
at most every half second, and, with ticks at most one gap apart and stops
stamped at most one delay after their tick, at least every half second plus
gap and delay, for any number of ticks.
-/

namespace Go2Navigation.Bridge

open Go2Navigation.Numeric
open Go2Navigation.Foundation

/--
Ticks whose readings never decrease, at most `gap` apart, each of whose stops
is stamped at most `delay` after its tick, in milliseconds.
-/
def TickChain (gap delay : ℚ) : Time → List Environment → Prop
  | _, [] => True
  | previous, tick :: rest =>
      (previous ≤ tick.now ∧ elapsedMs tick.now previous ≤ gap ∧
          tick.now ≤ tick.nowAfterPublish ∧
          elapsedMs tick.nowAfterPublish tick.now ≤ delay ∧
          tick.publish = .returns) ∧
        TickChain gap delay tick.now rest

/-- The reading of the last tick, or the reading before the first. -/
def lastReading (previous : Time) (ticks : List Environment) : Time :=
  ticks.foldl (fun _ tick => tick.now) previous

@[simp]
theorem lastReading_nil (previous : Time) :
    lastReading previous [] = previous :=
  rfl

@[simp]
theorem lastReading_cons
    (previous : Time) (tick : Environment) (rest : List Environment) :
    lastReading previous (tick :: rest) = lastReading tick.now rest :=
  rfl

/-- A command found timed out stays timed out while the clock goes on. -/
theorem Go2NavBridge.timedOut_mono {node : Go2NavBridge}
    {now later : Time} (ordered : now ≤ later)
    (timedOut : node.timedOut now = true) : node.timedOut later = true := by
  rw [timedOut_iff] at timedOut ⊢
  exact timedOut.imp_right fun expired =>
    expired.trans_le (elapsedMs_mono ordered)

/-- Ticks only, on a constructed node. -/
def tickOutputs (node : Go2NavBridge) (ticks : List Environment) :
    List SportModeCmd :=
  bridgeReactor.outputs node (ticks.map .watchdog)

def nodeAfterTicks (node : Go2NavBridge) (ticks : List Environment) :
    Go2NavBridge :=
  bridgeReactor.final node (ticks.map .watchdog)

/-- A timed-out node whose flag is set publishes exactly if its stop is old. -/
theorem Go2NavBridge.watchdogCallback_of_sent
    {node : Go2NavBridge} {tick : Environment}
    (sent : node.timeoutStopSent = true)
    (timedOut : node.timedOut tick.now = true)
    (returns : tick.publish = .returns) :
    node.watchdogCallback tick =
      if 500 ≤ elapsedMs tick.now node.lastStopPublishTime then
        ({ node with lastStopPublishTime := tick.nowAfterPublish },
          [stopCommand])
      else (node, []) := by
  split_ifs with old
  · have periodic := (node.periodicRepublish_iff tick.now).mpr old
    rw [watchdogCallback_of_publishing timedOut (Or.inr periodic) returns,
      ← sent]
  · have recent : node.periodicRepublish tick.now = false := by
      rw [← Bool.not_eq_true, node.periodicRepublish_iff]
      exact old
    exact watchdogCallback_of_silent timedOut sent recent

/--
From any state in which a timeout was found and a stop was sent, a chain of
ticks publishes stops only, and at most one for every half second; if the stop
is less than half a second old, at least one for every half second plus gap and
delay.
-/
theorem stop_cadence
    (gap delay : ℚ) (node : Go2NavBridge) (previous : Time)
    (sent : node.timeoutStopSent = true)
    (timedOut : node.timedOut previous = true)
    (ticks : List Environment) (chain : TickChain gap delay previous ticks) :
    (∀ cmd ∈ tickOutputs node ticks, cmd = stopCommand) ∧
      500 * ((tickOutputs node ticks).length : ℚ) ≤
        elapsedMs (nodeAfterTicks node ticks).lastStopPublishTime
          node.lastStopPublishTime ∧
      (elapsedMs previous node.lastStopPublishTime < 500 →
        elapsedMs (lastReading previous ticks) node.lastStopPublishTime <
          500 + (tickOutputs node ticks).length * (500 + gap + delay)) := by
  induction ticks generalizing node previous with
  | nil =>
      simp only [tickOutputs, nodeAfterTicks, Reactor.outputs]
      simp [elapsedMs]
  | cons tick rest induction =>
      rcases chain with
        ⟨⟨ordered, within, published, soon, returns⟩, chain⟩
      have timedOutNow := Go2NavBridge.timedOut_mono ordered timedOut
      have step :=
        Go2NavBridge.watchdogCallback_of_sent sent timedOutNow returns
      simp only [tickOutputs, nodeAfterTicks, List.map_cons,
        Reactor.outputs_cons, Reactor.final, bridgeReactor, step,
        lastReading_cons] at induction ⊢
      split_ifs with old
      · have afterStop :
            elapsedMs tick.now tick.nowAfterPublish < 500 :=
          (elapsedMs_nonpos published).trans_lt (by norm_num)
        rcases
            induction
              { node with lastStopPublishTime := tick.nowAfterPublish }
              tick.now sent timedOutNow chain with
          ⟨stops, atMost, atLeast⟩
        have atLeast := atLeast afterStop
        have sinceStop :
            elapsedMs tick.nowAfterPublish node.lastStopPublishTime =
              elapsedMs tick.nowAfterPublish tick.now +
                (elapsedMs tick.now previous +
                  elapsedMs previous node.lastStopPublishTime) := by
          rw [← elapsedMs_add, ← elapsedMs_add]
        have oldStop :
            500 ≤
              elapsedMs tick.nowAfterPublish node.lastStopPublishTime :=
          old.trans (elapsedMs_mono published)
        refine ⟨?_, ?_, fun recent => ?_⟩
        · rw [List.forall_mem_append]
          exact ⟨by simp, stops⟩
        · rw [elapsedMs_add _ tick.nowAfterPublish
            node.lastStopPublishTime]
          rw [List.length_append, List.length_singleton, Nat.cast_add,
            Nat.cast_one]
          linarith
        · rw [elapsedMs_add _ tick.nowAfterPublish
            node.lastStopPublishTime]
          rw [List.length_append, List.length_singleton, Nat.cast_add,
            Nat.cast_one]
          linarith
      · rcases induction node tick.now sent timedOutNow chain with
          ⟨stops, atMost, atLeast⟩
        exact ⟨stops, atMost, fun _ => atLeast (not_le.mp old)⟩

/-- The node of the sample run, its first stop just published. -/
def stoppedNode : Go2NavBridge :=
  { sampleTimedRun.startNode with
    timeoutStopSent := true
    lastStopPublishTime := (atMs 200).now }

/-- Six ticks a hundred milliseconds apart after a stop: one more stop. -/
theorem stop_cadence_sample :
    let ticks := [atMs 300, atMs 400, atMs 500, atMs 600, atMs 700, atMs 800]
    (∀ cmd ∈ tickOutputs stoppedNode ticks, cmd = stopCommand) ∧
      500 * ((tickOutputs stoppedNode ticks).length : ℚ) ≤
        elapsedMs (nodeAfterTicks stoppedNode ticks).lastStopPublishTime
          (atMs 200).now ∧
      elapsedMs (atMs 800).now (atMs 200).now <
        500 + (tickOutputs stoppedNode ticks).length * (500 + 100 + 0) := by
  rcases
      stop_cadence 100 0 stoppedNode (atMs 200).now rfl rfl
        [atMs 300, atMs 400, atMs 500, atMs 600, atMs 700, atMs 800]
        (by norm_num [TickChain, elapsedMs, atMs]) with
    ⟨stops, atMost, atLeast⟩
  refine ⟨stops, atMost, atLeast ?_⟩
  norm_num [elapsedMs, atMs, stoppedNode]

end Go2Navigation.Bridge
