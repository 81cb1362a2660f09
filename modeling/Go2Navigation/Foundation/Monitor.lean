import Mathlib.Algebra.BigOperators.Group.Finset.Piecewise
import Mathlib.Data.Fintype.Card
import Mathlib.Logic.Relation

/-!
# A bounded store behind one condition variable

Threads that fill a store sleep while it is full, those that drain it while it
is empty.  Each success wakes one sleeping thread, of whichever kind.  Only
the numbers of sleeping threads matter for what can go wrong: that a thread
sleeps on with work to do, or that all threads sleep.
-/

namespace Go2Navigation.Foundation

universe u v

/-! ## Counting threads -/

section Census

variable {Thread : Type u} {Point : Type v} [Fintype Thread]

/-- How many threads stand at one of these points. -/
def census (there : Thread → Point → Bool) (point : Thread → Point) : ℕ :=
  (Finset.univ.filter fun thread => there thread (point thread)).card

variable {there other : Thread → Point → Bool} {point : Thread → Point}

/-- One thread moves. -/
theorem census_update [DecidableEq Thread] (thread : Thread) (new : Point) :
    census there (Function.update point thread new) +
        (if there thread (point thread) then 1 else 0) =
      census there point + if there thread new then 1 else 0 := by
  have rest :
      ∑ other ∈ Finset.univ.erase thread,
          (if there other (Function.update point thread new other) then 1
            else 0) =
        ∑ other ∈ Finset.univ.erase thread,
          if there other (point other) then 1 else 0 := by
    refine Finset.sum_congr rfl fun other member => ?_
    rw [Function.update_of_ne (Finset.ne_of_mem_erase member)]
  rw [census, census, Finset.card_filter, Finset.card_filter,
    ← Finset.add_sum_erase _ _ (Finset.mem_univ thread),
    ← Finset.add_sum_erase Finset.univ (fun other =>
      if there other (point other) then 1 else 0) (Finset.mem_univ thread),
    rest, Function.update_self]
  omega

theorem census_pos_iff :
    0 < census there point ↔ ∃ thread, there thread (point thread) := by
  simp [census, Finset.card_pos, Finset.filter_nonempty_iff]

theorem census_le (implies : ∀ thread,
    there thread (point thread) → other thread (point thread)) :
    census there point ≤ census other point :=
  Finset.card_le_card
    (Finset.monotone_filter_right _ fun thread _ => implies thread)

theorem census_lt_iff (implies : ∀ thread,
    there thread (point thread) → other thread (point thread)) :
    census there point < census other point ↔
      ∃ thread,
        other thread (point thread) ∧ ¬there thread (point thread) := by
  constructor
  · intro fewer
    by_contra none
    push Not at none
    exact (census_le none).not_gt fewer
  · rintro ⟨thread, one, without⟩
    refine Finset.card_lt_card ⟨?_, fun subset => without ?_⟩
    · exact Finset.monotone_filter_right _ fun thread _ => implies thread
    · exact
        (Finset.mem_filter.mp
          (subset (Finset.mem_filter.mpr ⟨Finset.mem_univ _, one⟩))).2

end Census

/-- How full the store is, and how many threads of each kind sleep. -/
structure Occupancy where
  level : ℕ
  fillers : ℕ
  drainers : ℕ
deriving DecidableEq

namespace Occupancy

/-- One sleeping thread wakes up, if there is one. -/
inductive Notified : ℕ → ℕ → ℕ → ℕ → Prop where
  | nobody : Notified 0 0 0 0
  | filler (fillers drainers : ℕ) :
      Notified (fillers + 1) drainers fillers drainers
  | drainer (fillers drainers : ℕ) :
      Notified fillers (drainers + 1) fillers drainers

/-- The steps of so many threads on a store of this capacity. -/
inductive Step (capacity allFillers allDrainers : ℕ) :
    Occupancy → Occupancy → Prop where
  | fill {level fillers drainers fillers' drainers' : ℕ}
      (awake : fillers < allFillers) (room : level < capacity)
      (notified : Notified fillers drainers fillers' drainers') :
      Step capacity allFillers allDrainers ⟨level, fillers, drainers⟩
        ⟨level + 1, fillers', drainers'⟩
  | drain {level fillers drainers fillers' drainers' : ℕ}
      (awake : drainers < allDrainers)
      (notified : Notified fillers drainers fillers' drainers') :
      Step capacity allFillers allDrainers ⟨level + 1, fillers, drainers⟩
        ⟨level, fillers', drainers'⟩
  | fillerSleeps {fillers drainers : ℕ} (awake : fillers < allFillers) :
      Step capacity allFillers allDrainers ⟨capacity, fillers, drainers⟩
        ⟨capacity, fillers + 1, drainers⟩
  | drainerSleeps {fillers drainers : ℕ} (awake : drainers < allDrainers) :
      Step capacity allFillers allDrainers ⟨0, fillers, drainers⟩
        ⟨0, fillers, drainers + 1⟩
  | fillerWakes {level fillers drainers : ℕ} :
      Step capacity allFillers allDrainers ⟨level, fillers + 1, drainers⟩
        ⟨level, fillers, drainers⟩
  | drainerWakes {level fillers drainers : ℕ} :
      Step capacity allFillers allDrainers ⟨level, fillers, drainers + 1⟩
        ⟨level, fillers, drainers⟩

/-- Some steps, one after the other. -/
abbrev Steps (capacity allFillers allDrainers : ℕ) :
    Occupancy → Occupancy → Prop :=
  Relation.ReflTransGen (Step capacity allFillers allDrainers)

variable {capacity allFillers allDrainers : ℕ}
  {occupancy next : Occupancy}

theorem Notified.steps {level fillers drainers fillers' drainers' : ℕ}
    (notified : Notified fillers drainers fillers' drainers') :
    Steps capacity allFillers allDrainers ⟨level, fillers, drainers⟩
      ⟨level, fillers', drainers'⟩ := by
  cases notified with
  | nobody => exact .refl
  | filler => exact .single .fillerWakes
  | drainer => exact .single .drainerWakes

/-! ## No thread sleeps with work to do -/

/--
While a thread sleeps, there is an awake one of its kind for each item or free
cell.
-/
structure Heeded (capacity allFillers allDrainers : ℕ)
    (occupancy : Occupancy) : Prop where
  items :
    0 < occupancy.drainers →
      occupancy.level + occupancy.drainers ≤ allDrainers
  room :
    0 < occupancy.fillers →
      capacity - occupancy.level + occupancy.fillers ≤ allFillers

/-- Threads of one kind only sleep, so that none is woken in vain. -/
structure Attended (capacity allFillers allDrainers : ℕ)
    (occupancy : Occupancy) : Prop
    extends Heeded capacity allFillers allDrainers occupancy where
  within : occupancy.level ≤ capacity
  oneKind : occupancy.fillers = 0 ∨ occupancy.drainers = 0

theorem attended_start : Attended capacity allFillers allDrainers ⟨0, 0, 0⟩ :=
  ⟨⟨fun some => (Nat.lt_irrefl 0 some).elim,
      fun some => (Nat.lt_irrefl 0 some).elim⟩,
    Nat.zero_le _, .inl rfl⟩

theorem Attended.step
    (attended : Attended capacity allFillers allDrainers occupancy)
    (fewFillers : allFillers ≤ capacity) (fewDrainers : allDrainers ≤ capacity)
    (step : Step capacity allFillers allDrainers occupancy next) :
    Attended capacity allFillers allDrainers next := by
  rcases attended with ⟨⟨items, room⟩, within, oneKind⟩
  cases step with
  | fill awake space notified =>
      cases notified <;> refine ⟨⟨?_, ?_⟩, ?_, ?_⟩ <;> dsimp only at * <;> omega
  | drain awake notified =>
      cases notified <;> refine ⟨⟨?_, ?_⟩, ?_, ?_⟩ <;> dsimp only at * <;> omega
  | fillerSleeps awake =>
      refine ⟨⟨?_, ?_⟩, ?_, ?_⟩ <;> dsimp only at * <;> omega
  | drainerSleeps awake =>
      refine ⟨⟨?_, ?_⟩, ?_, ?_⟩ <;> dsimp only at * <;> omega
  | fillerWakes => refine ⟨⟨?_, ?_⟩, ?_, ?_⟩ <;> dsimp only at * <;> omega
  | drainerWakes => refine ⟨⟨?_, ?_⟩, ?_, ?_⟩ <;> dsimp only at * <;> omega

theorem Attended.steps
    (attended : Attended capacity allFillers allDrainers occupancy)
    (fewFillers : allFillers ≤ capacity) (fewDrainers : allDrainers ≤ capacity)
    (steps : Steps capacity allFillers allDrainers occupancy next) :
    Attended capacity allFillers allDrainers next := by
  induction steps with
  | refl => exact attended
  | tail _ step induction => exact induction.step fewFillers fewDrainers step

/-! ## Not all threads sleep -/

/--
Whoever sleeps last is not alone awake.  Since the store was full last, each
step down or up has woken a thread, so that few are left when it is empty; and
the other way round.
-/
structure Lively (capacity allFillers allDrainers : ℕ)
    (occupancy : Occupancy) : Prop where
  within : occupancy.level ≤ capacity
  fillersWithin : occupancy.fillers ≤ allFillers
  drainersWithin : occupancy.drainers ≤ allDrainers
  awake :
    occupancy.fillers < allFillers ∨ occupancy.drainers < allDrainers
  fillersLeft :
    occupancy.drainers = allDrainers →
      occupancy.fillers + occupancy.level < capacity
  drainersLeft :
    occupancy.fillers = allFillers → occupancy.drainers < occupancy.level
  fewFillers :
    occupancy.fillers < capacity ∨
      occupancy.fillers + occupancy.drainers +
          (capacity - occupancy.level) <
        allFillers + allDrainers
  fewDrainers :
    occupancy.drainers < capacity ∨
      occupancy.fillers + occupancy.drainers + occupancy.level <
        allFillers + allDrainers

theorem lively_start (someFiller : 0 < allFillers)
    (someDrainer : 0 < allDrainers)
    (few : allFillers + allDrainers ≤ 2 * capacity) :
    Lively capacity allFillers allDrainers ⟨0, 0, 0⟩ := by
  constructor <;> dsimp only <;> omega

theorem Lively.step
    (lively : Lively capacity allFillers allDrainers occupancy)
    (someFiller : 0 < allFillers) (someDrainer : 0 < allDrainers)
    (few : allFillers + allDrainers ≤ 2 * capacity)
    (step : Step capacity allFillers allDrainers occupancy next) :
    Lively capacity allFillers allDrainers next := by
  rcases lively with
    ⟨within, fillersWithin, drainersWithin, awake, fillersLeft, drainersLeft,
      fewFillers, fewDrainers⟩
  cases step with
  | fill awake space notified =>
      cases notified <;> constructor <;> dsimp only at * <;> omega
  | drain awake notified =>
      cases notified <;> constructor <;> dsimp only at * <;> omega
  | fillerSleeps awake => constructor <;> dsimp only at * <;> omega
  | drainerSleeps awake => constructor <;> dsimp only at * <;> omega
  | fillerWakes => constructor <;> dsimp only at * <;> omega
  | drainerWakes => constructor <;> dsimp only at * <;> omega

theorem Lively.steps
    (lively : Lively capacity allFillers allDrainers occupancy)
    (someFiller : 0 < allFillers) (someDrainer : 0 < allDrainers)
    (few : allFillers + allDrainers ≤ 2 * capacity)
    (steps : Steps capacity allFillers allDrainers occupancy next) :
    Lively capacity allFillers allDrainers next := by
  induction steps with
  | refl => exact lively
  | tail _ step induction =>
      exact induction.step someFiller someDrainer few step

/-! ## How all threads come to sleep -/

/-- Free cells for items, and the other way round. -/
def dual (capacity : ℕ) (occupancy : Occupancy) : Occupancy :=
  ⟨capacity - occupancy.level, occupancy.drainers, occupancy.fillers⟩

theorem Notified.dual {fillers drainers fillers' drainers' : ℕ}
    (notified : Notified fillers drainers fillers' drainers') :
    Notified drainers fillers drainers' fillers' := by
  cases notified with
  | nobody => exact .nobody
  | filler => exact .drainer _ _
  | drainer => exact .filler _ _

theorem Step.dual (within : occupancy.level ≤ capacity)
    (step : Step capacity allFillers allDrainers occupancy next) :
    Step capacity allDrainers allFillers (occupancy.dual capacity)
        (next.dual capacity) ∧
      next.level ≤ capacity := by
  cases step with
  | @fill level fillers drainers fillers' drainers' awake room notified =>
      have room' : capacity - level = capacity - (level + 1) + 1 := by omega
      refine ⟨?_, room⟩
      simp only [Occupancy.dual, room']
      exact .drain awake notified.dual
  | @drain level fillers drainers fillers' drainers' awake notified =>
      dsimp only at within
      have room' : capacity - level = capacity - (level + 1) + 1 := by omega
      refine ⟨?_, by dsimp only; omega⟩
      simp only [Occupancy.dual, room']
      exact .fill awake (by omega) notified.dual
  | fillerSleeps awake =>
      refine ⟨?_, within⟩
      simp only [Occupancy.dual, Nat.sub_self]
      exact .drainerSleeps awake
  | drainerSleeps awake => exact ⟨.fillerSleeps awake, within⟩
  | fillerWakes => exact ⟨.drainerWakes, within⟩
  | drainerWakes => exact ⟨.fillerWakes, within⟩

theorem Steps.dual (within : occupancy.level ≤ capacity)
    (steps : Steps capacity allFillers allDrainers occupancy next) :
    Steps capacity allDrainers allFillers (occupancy.dual capacity)
        (next.dual capacity) ∧
      next.level ≤ capacity := by
  induction steps with
  | refl => exact ⟨.refl, within⟩
  | tail _ step induction =>
      have stepped := step.dual induction.2
      exact ⟨induction.1.tail stepped.1, stepped.2⟩

section Runs

variable {level fillers drainers : ℕ}

theorem drainersSleep (within : drainers ≤ allDrainers) :
    Steps capacity allFillers allDrainers ⟨0, fillers, drainers⟩
      ⟨0, fillers, allDrainers⟩ := by
  obtain ⟨more, rfl⟩ := Nat.exists_eq_add_of_le within
  clear within
  induction more generalizing drainers with
  | zero => exact .refl
  | succ more induction =>
      have step :
          Step capacity allFillers (drainers + (more + 1))
            ⟨0, fillers, drainers⟩ ⟨0, fillers, drainers + 1⟩ :=
        .drainerSleeps (by omega)
      have slept := @induction (drainers + 1)
      rw [show drainers + 1 + more = drainers + (more + 1) by omega]
        at slept
      exact .head step slept

theorem fillersSleep (within : fillers ≤ allFillers) :
    Steps capacity allFillers allDrainers ⟨capacity, fillers, drainers⟩
      ⟨capacity, allFillers, drainers⟩ := by
  have slept :
      Steps capacity allDrainers allFillers ⟨0, drainers, fillers⟩
        ⟨0, drainers, allFillers⟩ :=
    drainersSleep within
  exact (slept.dual (Nat.zero_le capacity)).1

/-- Filling wakes fillers. -/
theorem fill_wakes_fillers {woken : ℕ} (awake : fillers + woken < allFillers)
    (room : level + woken ≤ capacity) :
    Steps capacity allFillers allDrainers
      ⟨level, fillers + woken, drainers⟩
      ⟨level + woken, fillers, drainers⟩ := by
  induction woken generalizing level with
  | zero => exact .refl
  | succ woken induction =>
      have filled := @induction (level + 1) (by omega) (by omega)
      rw [Nat.add_right_comm] at filled
      exact .head (.fill awake (by omega) (.filler _ _)) filled

/-- Filling wakes drainers. -/
theorem fill_wakes_drainers {woken : ℕ} (awake : fillers < allFillers)
    (room : level + woken ≤ capacity) :
    Steps capacity allFillers allDrainers
      ⟨level, fillers, drainers + woken⟩
      ⟨level + woken, fillers, drainers⟩ := by
  induction woken generalizing level with
  | zero => exact .refl
  | succ woken induction =>
      have filled := @induction (level + 1) (by omega)
      rw [Nat.add_right_comm] at filled
      exact .head (.fill awake (by omega) (.drainer _ _)) filled

/-- Nobody sleeps while the store is filled. -/
theorem fill_wakes_nobody {items : ℕ} (awake : 0 < allFillers)
    (room : level + items ≤ capacity) :
    Steps capacity allFillers allDrainers ⟨level, 0, 0⟩
      ⟨level + items, 0, 0⟩ := by
  induction items generalizing level with
  | zero => exact .refl
  | succ items induction =>
      have filled := @induction (level + 1) (by omega)
      rw [Nat.add_right_comm] at filled
      exact .head (.fill awake (by omega) .nobody) filled

theorem drain_wakes_nobody (awake : 0 < allDrainers) :
    Steps capacity allFillers allDrainers ⟨capacity, 0, 0⟩ ⟨0, 0, 0⟩ := by
  have filled :
      Steps capacity allDrainers allFillers ⟨0, 0, 0⟩
        ⟨0 + capacity, 0, 0⟩ :=
    fill_wakes_nobody awake (by omega)
  have drained := (filled.dual (Nat.zero_le capacity)).1
  simp only [Occupancy.dual, Nat.zero_add, Nat.sub_self] at drained
  exact drained

/-- Draining the store wakes fillers and then drainers. -/
theorem drain_wakes {wokenFillers wokenDrainers : ℕ}
    (all : wokenFillers + wokenDrainers = capacity)
    (awake : drainers + wokenDrainers < allDrainers) :
    Steps capacity allFillers allDrainers
      ⟨capacity, fillers + wokenFillers, drainers + wokenDrainers⟩
      ⟨0, fillers, drainers⟩ := by
  have first :
      Steps capacity allDrainers allFillers
        ⟨0, drainers + wokenDrainers, fillers + wokenFillers⟩
        ⟨0 + wokenFillers, drainers + wokenDrainers, fillers⟩ :=
    fill_wakes_drainers awake (by omega)
  have second :
      Steps capacity allDrainers allFillers
        ⟨0 + wokenFillers, drainers + wokenDrainers, fillers⟩
        ⟨0 + wokenFillers + wokenDrainers, drainers, fillers⟩ :=
    fill_wakes_fillers awake (by omega)
  have drained := (Steps.dual (Nat.zero_le capacity) (first.trans second)).1
  simp only [Occupancy.dual, Nat.zero_add, all, Nat.sub_self] at drained
  exact drained

/--
All fillers sleep at a full store.  Each time the store is drained and filled
again, as many more drainers are left asleep as there are threads over twice
the capacity.
-/
theorem all_sleep_of_full (wide : capacity ≤ allDrainers)
    (many : 2 * capacity < allFillers + allDrainers)
    (asleep : allDrainers ≤ drainers + capacity)
    (awake : drainers < allDrainers) :
    ∃ level,
      Steps capacity allFillers allDrainers ⟨capacity, allFillers, drainers⟩
        ⟨level, allFillers, allDrainers⟩ := by
  induction few : capacity - drainers using Nat.strong_induction_on
    generalizing drainers with
  | _ rounds induction =>
  subst few
  rcases Nat.lt_or_ge drainers capacity with few | enough
  · obtain ⟨woken, full⟩ := Nat.exists_eq_add_of_le few.le
    obtain ⟨left, split⟩ :=
      Nat.exists_eq_add_of_le' (by omega : woken ≤ allFillers)
    have drained :
        Steps capacity allFillers allDrainers
          ⟨capacity, left + woken, 0 + drainers⟩ ⟨0, left, 0⟩ :=
      drain_wakes (by omega) (by omega)
    have emptied :
        Steps capacity allFillers allDrainers
          ⟨capacity, left + woken, 0 + drainers⟩ ⟨0, left, allDrainers⟩ :=
      drained.trans (drainersSleep (Nat.zero_le allDrainers))
    rw [← split, Nat.zero_add] at emptied
    rcases Nat.lt_or_ge left capacity with rest | crowd
    · obtain ⟨waked, rfl⟩ := Nat.exists_eq_add_of_le rest.le
      obtain ⟨more, split'⟩ :=
        Nat.exists_eq_add_of_le' (by omega : waked ≤ allDrainers)
      have wokeFillers :
          Steps (left + waked) allFillers allDrainers
            ⟨0, 0 + left, allDrainers⟩ ⟨0 + left, 0, allDrainers⟩ :=
        fill_wakes_fillers (by omega) (by omega)
      have wokeDrainers :
          Steps (left + waked) allFillers allDrainers
            ⟨0 + left, 0, more + waked⟩ ⟨0 + left + waked, 0, more⟩ :=
        fill_wakes_drainers (by omega) (by omega)
      rw [← split', Nat.zero_add] at wokeDrainers
      rw [Nat.zero_add] at wokeFillers
      have refilled :
          Steps (left + waked) allFillers allDrainers
            ⟨left + waked, allFillers, drainers⟩
            ⟨left + waked, allFillers, more⟩ :=
        ((emptied.trans wokeFillers).trans wokeDrainers).trans
          (fillersSleep (Nat.zero_le allFillers))
      obtain ⟨level, asleep⟩ :=
        induction (left + waked - more) (by omega)
          (by omega : allDrainers ≤ more + (left + waked)) (by omega) rfl
      exact ⟨level, refilled.trans asleep⟩
    · obtain ⟨still, rfl⟩ := Nat.exists_eq_add_of_le' crowd
      have filled :
          Steps capacity allFillers allDrainers
            ⟨0, still + capacity, allDrainers⟩
            ⟨0 + capacity, still, allDrainers⟩ :=
        fill_wakes_fillers (by omega) (by omega)
      rw [Nat.zero_add] at filled
      exact
        ⟨capacity,
          (emptied.trans filled).trans (fillersSleep (by omega))⟩
  · obtain ⟨left, rfl⟩ := Nat.exists_eq_add_of_le' enough
    exact
      ⟨0, (drain_wakes (Nat.zero_add capacity) awake).trans
        (drainersSleep (by omega))⟩

/-- From an empty store, when there are more drainers than fillers. -/
theorem all_sleep_of_fewer (positive : 0 < capacity)
    (someFiller : 0 < allFillers) (fewer : allFillers ≤ allDrainers)
    (many : 2 * capacity < allFillers + allDrainers) :
    ∃ level,
      Steps capacity allFillers allDrainers ⟨0, 0, 0⟩
        ⟨level, allFillers, allDrainers⟩ := by
  obtain ⟨left, split⟩ :=
    Nat.exists_eq_add_of_le' (by omega : capacity ≤ allDrainers)
  have slept :
      Steps capacity allFillers allDrainers ⟨0, 0, 0⟩
        ⟨0, 0, left + capacity⟩ :=
    split ▸ drainersSleep (Nat.zero_le allDrainers)
  have filled :
      Steps capacity allFillers allDrainers ⟨0, 0, left + capacity⟩
        ⟨0 + capacity, 0, left⟩ :=
    fill_wakes_drainers someFiller (by omega)
  rw [Nat.zero_add] at filled
  have waiting :
      Steps capacity allFillers allDrainers ⟨0, 0, 0⟩
        ⟨capacity, allFillers, left⟩ :=
    (slept.trans filled).trans (fillersSleep (Nat.zero_le allFillers))
  obtain ⟨level, asleep⟩ :=
    all_sleep_of_full (by omega) many (by omega : allDrainers ≤ left + _)
      (by omega)
  exact ⟨level, waiting.trans asleep⟩

/-- Some threads too many can all come to sleep. -/
theorem all_sleep (positive : 0 < capacity) (someFiller : 0 < allFillers)
    (someDrainer : 0 < allDrainers)
    (many : 2 * capacity < allFillers + allDrainers) :
    ∃ level,
      Steps capacity allFillers allDrainers ⟨0, 0, 0⟩
        ⟨level, allFillers, allDrainers⟩ := by
  rcases Nat.le_total allFillers allDrainers with fewer | more
  · exact all_sleep_of_fewer positive someFiller fewer many
  · have emptied :
        Steps capacity allDrainers allFillers ⟨capacity, 0, 0⟩ ⟨0, 0, 0⟩ :=
      drain_wakes_nobody someFiller
    obtain ⟨level, asleep⟩ :=
      all_sleep_of_fewer positive someDrainer more
        (by omega : 2 * capacity < allDrainers + allFillers)
    have dual := Steps.dual (Nat.le_refl capacity) (emptied.trans asleep)
    simp only [Occupancy.dual, Nat.sub_self] at dual
    exact ⟨_, dual.1⟩

/-! ## How a thread comes to sleep with work to do -/

theorem Heeded.of_dual (within : occupancy.level ≤ capacity)
    (heeded :
      Heeded capacity allDrainers allFillers (occupancy.dual capacity)) :
    Heeded capacity allFillers allDrainers occupancy := by
  rcases heeded with ⟨items, room⟩
  simp only [Occupancy.dual] at items room
  constructor <;> omega

theorem unheeded_of_drainers (positive : 0 < capacity)
    (someFiller : 0 < allFillers) (many : capacity < allDrainers) :
    ∃ occupancy,
      Steps capacity allFillers allDrainers ⟨0, 0, 0⟩ occupancy ∧
        ¬Heeded capacity allFillers allDrainers occupancy := by
  obtain ⟨left, split⟩ := Nat.exists_eq_add_of_le' many
  obtain ⟨room, rfl⟩ := Nat.exists_eq_succ_of_ne_zero positive.ne'
  have slept :
      Steps (room + 1) allFillers allDrainers ⟨0, 0, 0⟩
        ⟨0, 0, left + 1 + (room + 1)⟩ :=
    (by omega : allDrainers = left + 1 + (room + 1)) ▸
      drainersSleep (Nat.zero_le allDrainers)
  have filled :
      Steps (room + 1) allFillers allDrainers
        ⟨0, 0, left + 1 + (room + 1)⟩ ⟨0 + (room + 1), 0, left + 1⟩ :=
    fill_wakes_drainers someFiller (by omega)
  rw [Nat.zero_add] at filled
  have waiting :
      Steps (room + 1) allFillers allDrainers ⟨room + 1, 0, left + 1⟩
        ⟨room + 1, allFillers, left + 1⟩ :=
    fillersSleep (Nat.zero_le allFillers)
  have drained :
      Step (room + 1) allFillers allDrainers
        ⟨room + 1, allFillers, left + 1⟩ ⟨room, allFillers, left⟩ :=
    .drain (by omega) (.drainer _ _)
  refine ⟨_, ((slept.trans filled).trans waiting).tail drained, ?_⟩
  intro heeded
  have fillers := heeded.room someFiller
  simp only at fillers
  omega

theorem unheeded (positive : 0 < capacity) (someFiller : 0 < allFillers)
    (someDrainer : 0 < allDrainers)
    (many : capacity < allFillers ∨ capacity < allDrainers) :
    ∃ occupancy,
      Steps capacity allFillers allDrainers ⟨0, 0, 0⟩ occupancy ∧
        ¬Heeded capacity allFillers allDrainers occupancy := by
  rcases many with fillers | drainers
  · obtain ⟨occupancy, steps, unheeded⟩ :=
      unheeded_of_drainers positive someDrainer fillers
    have emptied :
        Steps capacity allDrainers allFillers ⟨capacity, 0, 0⟩ ⟨0, 0, 0⟩ :=
      drain_wakes_nobody someFiller
    have dual := Steps.dual (Nat.le_refl capacity) (emptied.trans steps)
    have start : (⟨capacity, 0, 0⟩ : Occupancy).dual capacity = ⟨0, 0, 0⟩ := by
      rw [Occupancy.dual, Nat.sub_self]
    exact
      ⟨occupancy.dual capacity, start ▸ dual.1,
        fun heeded => unheeded (heeded.of_dual dual.2)⟩
  · exact unheeded_of_drainers positive someFiller drainers

end Runs

end Occupancy

end Go2Navigation.Foundation
