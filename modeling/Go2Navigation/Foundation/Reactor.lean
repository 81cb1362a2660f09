import Mathlib.Data.List.Induction

/-!
# Deterministic reactive components

A reactor consumes one event at a time and emits finitely many outputs.  Its
trace pairs every event with the outputs of that step.  Properties of whole
runs are proved from the two snoc equations, either as invariants of the
state alone or as relations between the trace so far and the state.  A
component whose state is optional is a process which can end.
-/

namespace Go2Navigation.Foundation

universe u v w

/-- A deterministic component with state, input events and outputs. -/
structure Reactor (State : Type u) (Event : Type v) (Output : Type w) where
  step : State → Event → State × List Output

/-- One step of a trace: the event and everything emitted while handling it. -/
structure Occurrence (Event : Type v) (Output : Type w) where
  event : Event
  outputs : List Output

namespace Reactor

variable {State : Type u} {Event : Type v} {Output : Type w}

/-- State after a finite run. -/
def final (reactor : Reactor State Event Output) :
    State → List Event → State
  | state, [] => state
  | state, event :: rest => reactor.final (reactor.step state event).1 rest

/-- Events of a finite run together with the outputs they caused. -/
def trace (reactor : Reactor State Event Output) :
    State → List Event → List (Occurrence Event Output)
  | _, [] => []
  | state, event :: rest =>
      ⟨event, (reactor.step state event).2⟩ ::
        reactor.trace (reactor.step state event).1 rest

/-- Everything emitted during a finite run, in order. -/
def outputs (reactor : Reactor State Event Output)
    (state : State) (events : List Event) : List Output :=
  (reactor.trace state events).flatMap Occurrence.outputs

variable (reactor : Reactor State Event Output)

@[simp]
theorem final_nil (state : State) : reactor.final state [] = state :=
  rfl

@[simp]
theorem trace_nil (state : State) : reactor.trace state [] = [] :=
  rfl

@[simp]
theorem final_append (state : State) (first second : List Event) :
    reactor.final state (first ++ second) =
      reactor.final (reactor.final state first) second := by
  induction first generalizing state with
  | nil => rfl
  | cons event rest induction => exact induction _

@[simp]
theorem final_singleton (state : State) (event : Event) :
    reactor.final state [event] = (reactor.step state event).1 :=
  rfl

@[simp]
theorem trace_append (state : State) (first second : List Event) :
    reactor.trace state (first ++ second) =
      reactor.trace state first ++
        reactor.trace (reactor.final state first) second := by
  induction first generalizing state with
  | nil => rfl
  | cons event rest induction =>
      exact congrArg (List.cons _) (induction _)

@[simp]
theorem trace_singleton (state : State) (event : Event) :
    reactor.trace state [event] = [⟨event, (reactor.step state event).2⟩] :=
  rfl

@[simp]
theorem outputs_cons (state : State) (event : Event) (rest : List Event) :
    reactor.outputs state (event :: rest) =
      (reactor.step state event).2 ++
        reactor.outputs (reactor.step state event).1 rest := by
  simp [outputs, trace]

/--
When one step emits only allowed outputs exactly under a condition on its
state and event, and that condition keeps a property of the state, a run emits
only allowed outputs exactly when each of its steps meets the condition.
-/
theorem forall_mem_outputs_iff
    {property : State → Prop} {allowed : Output → Prop}
    {condition : State → Event → Prop}
    (preserved :
      ∀ state event, property state → condition state event →
        property (reactor.step state event).1)
    (exact :
      ∀ state event, property state →
        ((∀ output ∈ (reactor.step state event).2, allowed output) ↔
          condition state event))
    {state : State} {events : List Event} (initial : property state) :
    (∀ output ∈ reactor.outputs state events, allowed output) ↔
      ∀ before event after, events = before ++ event :: after →
        condition (reactor.final state before) event := by
  induction events generalizing state with
  | nil => simp [outputs]
  | cons head rest induction =>
      rw [outputs_cons, List.forall_mem_append,
        exact state head initial]
      constructor
      · rintro ⟨headMeets, restAllowed⟩ before event after split
        cases before with
        | nil =>
            cases split
            exact headMeets
        | cons first tail =>
            cases split
            have next := preserved state head initial headMeets
            exact (induction next).mp restAllowed tail event after rfl
      · intro meets
        have headMeets : condition state head := meets [] head rest rfl
        refine
          ⟨headMeets,
            (induction (preserved state head initial headMeets)).mpr ?_⟩
        intro before event after split
        subst split
        exact meets (head :: before) event after rfl

/-! ## Processes which can end -/

universe s t

/--
A process keeps a property of what was delivered to it until a fatal delivery
ends it.  The step is proved for the prefixes of one sequence of deliveries,
of which assumptions may be made.
-/
theorem alive_or_ended
    {Process : Type u} (process : Reactor (Option Process) Event Output)
    {Delivery : Type s} {deliver : Delivery → Event}
    {property : List Delivery → Process → Prop} {fatal : Delivery → Prop}
    {initial : Process} {deliveries past later : List Delivery}
    (ended : ∀ event, (process.step none event).1 = none)
    (start : property [] initial)
    (next :
      ∀ before last after state, deliveries = before ++ last :: after →
        property before state →
          fatal last ∧
              (process.step (some state) (deliver last)).1 = none ∨
            ¬ fatal last ∧
              ∃ following,
                (process.step (some state) (deliver last)).1 =
                    some following ∧
                  property (before ++ [last]) following)
    (split : deliveries = past ++ later) :
    (∃ state,
        process.final (some initial) (past.map deliver) = some state ∧
          property past state ∧ ∀ last ∈ past, ¬ fatal last) ∨
      process.final (some initial) (past.map deliver) = none ∧
        ∃ last ∈ past, fatal last := by
  induction past using List.reverseRecOn generalizing later with
  | nil => exact Or.inl ⟨initial, rfl, start, List.forall_mem_nil _⟩
  | append_singleton past last induction =>
      have splitLast : deliveries = past ++ last :: later := by
        simpa using split
      have member : last ∈ past ++ [last] := by simp
      rw [List.map_append, List.map_singleton, final_append,
        final_singleton]
      rcases induction splitLast with
        ⟨state, stateEq, holds, harmless⟩ | ⟨gone, earlier, mem, fatal⟩
      · rw [stateEq]
        rcases next past last later state splitLast holds with
          ⟨fatal, gone⟩ | ⟨notFatal, following, stepEq, holdsNext⟩
        · exact Or.inr ⟨gone, last, member, fatal⟩
        · refine Or.inl ⟨following, stepEq, holdsNext, ?_⟩
          rw [List.forall_mem_append, List.forall_mem_singleton]
          exact ⟨harmless, notFatal⟩
      · rw [gone]
        exact
          Or.inr
            ⟨ended _, earlier, List.mem_append_left _ mem, fatal⟩

/-! ## Comparison -/

/--
Two components in one state, each of whose outputs is explained by an output
of the other at the same step, explain each other over whole runs.
-/
theorem exists_mem_outputs
    {OtherOutput : Type t} {explains : OtherOutput → Output → Prop}
    (other : Reactor State Event OtherOutput)
    (sameState :
      ∀ state event,
        (other.step state event).1 = (reactor.step state event).1)
    (explained :
      ∀ state event, ∀ output ∈ (reactor.step state event).2,
        ∃ cause ∈ (other.step state event).2, explains cause output)
    {state : State} {events : List Event} {output : Output}
    (member : output ∈ reactor.outputs state events) :
    ∃ cause ∈ other.outputs state events, explains cause output := by
  induction events generalizing state with
  | nil => simp [outputs] at member
  | cons event rest induction =>
      rw [outputs_cons, List.mem_append] at member
      rw [outputs_cons, sameState]
      rcases member with first | later
      · rcases explained state event output first with
          ⟨cause, emitted, explains⟩
        exact ⟨cause, List.mem_append_left _ emitted, explains⟩
      · rcases induction later with ⟨cause, emitted, explains⟩
        exact ⟨cause, List.mem_append_right _ emitted, explains⟩

/-- Related components which emit the same at each step emit the same. -/
theorem outputs_eq_of_related
    {OtherState : Type s} {related : State → OtherState → Prop}
    {possible : Event → Prop} (other : Reactor OtherState Event Output)
    (simulated :
      ∀ state otherState event,
        related state otherState → possible event →
          related (reactor.step state event).1
              (other.step otherState event).1 ∧
            (reactor.step state event).2 = (other.step otherState event).2)
    {state : State} {otherState : OtherState} {events : List Event}
    (initial : related state otherState)
    (all : ∀ event ∈ events, possible event) :
    reactor.outputs state events = other.outputs otherState events := by
  induction events generalizing state otherState with
  | nil => rfl
  | cons event rest induction =>
      rw [List.forall_mem_cons] at all
      rcases simulated state otherState event initial all.1 with
        ⟨next, same⟩
      rw [outputs_cons, outputs_cons, same, induction next all.2]

/-! ## Composition -/

variable {OtherState : Type s} {OtherEvent : Type t}

/-- A component behind a translation of its events. -/
def comap (translate : OtherEvent → Event) :
    Reactor State OtherEvent Output where
  step state event := reactor.step state (translate event)

/-- Two components side by side, each with its own events. -/
def beside (other : Reactor OtherState OtherEvent Output) :
    Reactor (State × OtherState) (Event ⊕ OtherEvent) Output where
  step
    | (own, others), .inl event =>
        (((reactor.step own event).1, others), (reactor.step own event).2)
    | (own, others), .inr event =>
        ((own, (other.step others event).1), (other.step others event).2)

@[simp]
theorem beside_step_inl
    (other : Reactor OtherState OtherEvent Output)
    (own : State) (others : OtherState) (event : Event) :
    (reactor.beside other).step (own, others) (.inl event) =
      (((reactor.step own event).1, others),
        (reactor.step own event).2) :=
  rfl

@[simp]
theorem beside_step_inr
    (other : Reactor OtherState OtherEvent Output)
    (own : State) (others : OtherState) (event : OtherEvent) :
    (reactor.beside other).step (own, others) (.inr event) =
      ((own, (other.step others event).1),
        (other.step others event).2) :=
  rfl

/-- Side by side, the two emit what each emits alone. -/
theorem forall_mem_outputs_beside_iff
    (other : Reactor OtherState OtherEvent Output)
    (allowed : Output → Prop) (own : State) (others : OtherState)
    (events : List (Event ⊕ OtherEvent)) :
    (∀ output ∈ (reactor.beside other).outputs (own, others) events,
        allowed output) ↔
      (∀ output ∈ reactor.outputs own (events.filterMap Sum.getLeft?),
        allowed output) ∧
        ∀ output ∈ other.outputs others (events.filterMap Sum.getRight?),
          allowed output := by
  induction events generalizing own others with
  | nil => simp [outputs]
  | cons head rest induction =>
      cases head with
      | inl event =>
          simp only [outputs_cons, List.forall_mem_append, beside_step_inl,
            induction, List.filterMap_cons, Sum.getLeft?_inl,
            Sum.getRight?_inl, and_assoc]
      | inr event =>
          simp only [outputs_cons, List.forall_mem_append, beside_step_inr,
            induction, List.filterMap_cons, Sum.getLeft?_inr,
            Sum.getRight?_inr, and_left_comm]

end Reactor

end Go2Navigation.Foundation
