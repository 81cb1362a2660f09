import Mathlib.Data.List.Induction

/-!
# Interleaved components

An interleaved component takes one labelled step at a time, where it can.  A
schedule is a list of labels, one for each step.  Properties of whole
schedules are proved from the step function by an invariant, by a relation
between the schedule so far and the state, or by a measure which the steps of
one kind decrease.
-/

namespace Go2Navigation.Foundation

universe u v w x

/-- A component which takes labelled steps, `none` where it cannot. -/
structure StepSystem (State : Type u) (Label : Type v) where
  step : State → Label → Option State

namespace StepSystem

variable {State : Type u} {Label : Type v} {Observation : Type w}

/-- The state a schedule leads to, if each of its steps is possible. -/
def run (system : StepSystem State Label) :
    State → List Label → Option State
  | state, [] => some state
  | state, label :: rest =>
      (system.step state label).bind fun next => system.run next rest

/-- What a schedule shows, collected from each of its possible steps. -/
def observations (system : StepSystem State Label)
    (observe : State → Label → List Observation) :
    State → List Label → List Observation
  | _, [] => []
  | state, label :: rest =>
      observe state label ++
        match system.step state label with
        | none => []
        | some next => system.observations observe next rest

/-- Every step of a schedule is admissible where it is taken. -/
def Respects (system : StepSystem State Label)
    (admissible : State → Label → Prop) : State → List Label → Prop
  | _, [] => True
  | state, label :: rest =>
      admissible state label ∧
        ∀ next, system.step state label = some next →
          system.Respects admissible next rest

variable (system : StepSystem State Label)

@[simp]
theorem run_nil (state : State) : system.run state [] = some state :=
  rfl

@[simp]
theorem run_append (state : State) (before after : List Label) :
    system.run state (before ++ after) =
      (system.run state before).bind fun next => system.run next after := by
  induction before generalizing state with
  | nil => rfl
  | cons label rest induction =>
      simp only [List.cons_append, run, Option.bind_assoc, induction]

@[simp]
theorem run_singleton (state : State) (label : Label) :
    system.run state [label] = system.step state label := by
  simp [run]

theorem observations_snoc
    (observe : State → Label → List Observation)
    {state reached : State} {past : List Label}
    (ran : system.run state past = some reached) (label : Label) :
    system.observations observe state (past ++ [label]) =
      system.observations observe state past ++ observe reached label := by
  induction past generalizing state with
  | nil =>
      cases ran
      simp only [List.nil_append, observations]
      cases system.step reached label <;> simp
  | cons first rest induction =>
      rcases Option.bind_eq_some_iff.mp ran with ⟨next, stepped, ranRest⟩
      simp only [List.cons_append, observations, stepped,
        induction ranRest, List.append_assoc]

theorem respects_of_forall
    {admissible : State → Label → Prop} {labels : List Label}
    (everywhere : ∀ label ∈ labels, ∀ state, admissible state label)
    (state : State) : system.Respects admissible state labels := by
  induction labels generalizing state with
  | nil => trivial
  | cons label rest induction =>
      rw [List.forall_mem_cons] at everywhere
      exact ⟨everywhere.1 state, fun next _ => induction everywhere.2 next⟩

theorem respects_snoc
    {admissible : State → Label → Prop} {state reached : State}
    {past : List Label} (ran : system.run state past = some reached)
    (label : Label) :
    system.Respects admissible state (past ++ [label]) ↔
      system.Respects admissible state past ∧ admissible reached label := by
  induction past generalizing state with
  | nil =>
      cases ran
      simp [Respects]
  | cons first rest induction =>
      rcases Option.bind_eq_some_iff.mp ran with ⟨next, stepped, ranRest⟩
      simp only [List.cons_append, Respects, stepped, Option.some.injEq,
        forall_eq', induction ranRest, and_assoc]

/-! ## Rules -/

variable {system} {invariant : State → Prop}

/-- What every step keeps, every schedule keeps. -/
theorem preserved_by_run
    (preserved :
      ∀ state label next,
        invariant state → system.step state label = some next →
          invariant next)
    {state last : State} {labels : List Label} (initial : invariant state)
    (ran : system.run state labels = some last) : invariant last := by
  induction labels generalizing state with
  | nil =>
      cases ran
      exact initial
  | cons label rest induction =>
      rcases Option.bind_eq_some_iff.mp ran with ⟨next, stepped, ranRest⟩
      exact induction (preserved state label next initial stepped) ranRest

/-- A relation between a schedule and its state, extended step by step. -/
theorem related_to_run
    {relation : List Label → State → Prop} {state last : State}
    {labels : List Label} (initial : relation [] state)
    (extended :
      ∀ past reached label next,
        system.run state past = some reached → relation past reached →
          system.step reached label = some next →
            relation (past ++ [label]) next)
    (ran : system.run state labels = some last) : relation labels last := by
  induction labels using List.reverseRecOn generalizing last with
  | nil =>
      cases ran
      exact initial
  | append_singleton past label induction =>
      rw [run_append] at ran
      rcases Option.bind_eq_some_iff.mp ran with ⟨reached, ranPast, stepped⟩
      rw [run_singleton] at stepped
      exact
        extended past reached label last ranPast (induction ranPast) stepped

/-- A relation that only admissible steps need to extend. -/
theorem related_along
    {admissible : State → Label → Prop}
    {relation : List Label → State → Prop} {state last : State}
    {labels : List Label} (initial : relation [] state)
    (extended :
      ∀ past reached label next,
        system.run state past = some reached → relation past reached →
          admissible reached label → system.step reached label = some next →
            relation (past ++ [label]) next)
    (respects : system.Respects admissible state labels)
    (ran : system.run state labels = some last) : relation labels last := by
  refine
    @related_to_run State Label system
      (fun past reached =>
        system.Respects admissible state past → relation past reached)
      state last labels ?_ ?_ ran respects
  · exact fun _ => initial
  · intro past reached label next ranPast related stepped along
    rcases (system.respects_snoc ranPast label).mp along with
      ⟨alongPast, admitted⟩
    exact
      extended past reached label next ranPast (related alongPast) admitted
        stepped

/--
A system whose steps another one follows, as long as the other takes only
admissible ones, comes as far as the other and shows the same.
-/
theorem simulated_run
    {OtherState : Type w} {Shown : Type x}
    {other : StepSystem OtherState Label}
    {related : State → OtherState → Prop}
    {admissible : OtherState → Label → Prop}
    {observe : State → Label → List Shown}
    {observeOther : OtherState → Label → List Shown}
    (simulated :
      ∀ state otherState label,
        related state otherState → admissible otherState label →
          Option.Rel related (system.step state label)
              (other.step otherState label) ∧
            observe state label = observeOther otherState label)
    {state : State} {otherState : OtherState} {labels : List Label}
    (initial : related state otherState)
    (respects : other.Respects admissible otherState labels) :
    Option.Rel related (system.run state labels)
        (other.run otherState labels) ∧
      system.observations observe state labels =
        other.observations observeOther otherState labels := by
  induction labels generalizing state otherState with
  | nil => exact ⟨.some initial, rfl⟩
  | cons label rest induction =>
      rcases respects with ⟨here, later⟩
      rcases simulated state otherState label initial here with
        ⟨steps, shown⟩
      rw [run, run, observations, observations, shown]
      generalize system.step state label = next at steps ⊢
      generalize reached :
        other.step otherState label = otherNext at steps ⊢
      cases steps with
      | some stillRelated =>
          rcases induction stillRelated (later _ reached) with ⟨ran, same⟩
          exact ⟨ran, congrArg _ same⟩
      | none => exact ⟨.none, rfl⟩

/-- A schedule of decreasing steps is at most as long as the measure drops. -/
theorem length_add_measure_le
    {measure : State → ℕ} {decreasing : Label → Prop}
    (preserved :
      ∀ state label next,
        invariant state → decreasing label →
          system.step state label = some next → invariant next)
    (decreases :
      ∀ state label next,
        invariant state → decreasing label →
          system.step state label = some next →
            measure next < measure state)
    {state last : State} {labels : List Label} (initial : invariant state)
    (all : ∀ label ∈ labels, decreasing label)
    (ran : system.run state labels = some last) :
    labels.length + measure last ≤ measure state := by
  induction labels generalizing state with
  | nil =>
      cases ran
      simp
  | cons label rest induction =>
      rcases Option.bind_eq_some_iff.mp ran with ⟨next, stepped, ranRest⟩
      rw [List.forall_mem_cons] at all
      have shorter :=
        induction (preserved state label next initial all.1 stepped) all.2
          ranRest
      have drop := decreases state label next initial all.1 stepped
      rw [List.length_cons]
      omega

end StepSystem

end Go2Navigation.Foundation
