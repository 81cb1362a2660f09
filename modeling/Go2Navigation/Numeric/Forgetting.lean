import Go2Navigation.Numeric.Blend
import Mathlib.Algebra.BigOperators.Group.List.Basic
import Mathlib.Analysis.Convex.SpecificFunctions.Basic

/-!
# What a chain of blended steps leaves of its start

Each blended step multiplies what was there before it by its gain.  Over a
chain of steps of varying length the product of the gains depends on the
lengths, but it lies between two exponentials of their sum: the one of the
time constant, and the one of equally long steps of the greatest length.  It
is also at most the gain of one step as long as all of them.
-/

noncomputable section

namespace Go2Navigation.Numeric

/-- The product of the gains of a chain of steps. -/
def remainingWeight (tau : ℝ) (steps : List ℝ) : ℝ :=
  (steps.map (blendGain tau)).prod

@[simp]
theorem remainingWeight_nil (tau : ℝ) : remainingWeight tau [] = 1 :=
  rfl

@[simp]
theorem remainingWeight_cons (tau dt : ℝ) (steps : List ℝ) :
    remainingWeight tau (dt :: steps) =
      blendGain tau dt * remainingWeight tau steps := by
  simp [remainingWeight]

/-- The decay of equally long steps, over a duration. -/
def decay (tau longest duration : ℝ) : ℝ :=
  (1 + longest / tau) ^ (-(duration / longest))

variable {tau dt longest : ℝ}

theorem blendGain_eq_inv (tau_pos : 0 < tau) :
    blendGain tau dt = (1 + dt / tau)⁻¹ := by
  rw [blendGain, one_add_div tau_pos.ne', inv_div]

theorem exp_le_blendGain (tau_pos : 0 < tau) (dt_pos : 0 < dt) :
    Real.exp (-(dt / tau)) ≤ blendGain tau dt := by
  have ratio : 0 < dt / tau := div_pos dt_pos tau_pos
  rw [blendGain_eq_inv tau_pos, Real.exp_neg]
  apply inv_anti₀ (by linarith)
  linarith [Real.add_one_le_exp (dt / tau)]

/-- The greatest step forgets least for its length. -/
theorem blendGain_le_decay (tau_pos : 0 < tau) (dt_pos : 0 < dt)
    (bounded : dt ≤ longest) :
    blendGain tau dt ≤ decay tau longest dt := by
  have longest_pos : 0 < longest := dt_pos.trans_le bounded
  have base_pos : 0 < 1 + longest / tau := by positivity
  have bernoulli :
      (1 + longest / tau) ^ (dt / longest) ≤
        1 + dt / longest * (longest / tau) := by
    apply rpow_one_add_le_one_add_mul_self
    · have nonneg : 0 ≤ longest / tau := by positivity
      linarith
    · positivity
    · exact (div_le_one longest_pos).mpr bounded
  have cancel : dt / longest * (longest / tau) = dt / tau := by
    field_simp
  rw [cancel] at bernoulli
  rw [blendGain_eq_inv tau_pos, decay, Real.rpow_neg base_pos.le]
  exact inv_anti₀ (Real.rpow_pos_of_pos base_pos _) bernoulli

theorem decay_add (tau_pos : 0 < tau) (longest_pos : 0 < longest)
    (first second : ℝ) :
    decay tau longest (first + second) =
      decay tau longest first * decay tau longest second := by
  have base_pos : 0 < 1 + longest / tau := by positivity
  rw [decay, decay, decay, ← Real.rpow_add base_pos]
  congr 1
  ring

theorem remainingWeight_nonneg (tau_pos : 0 < tau) {steps : List ℝ}
    (positive : ∀ step ∈ steps, 0 < step) :
    0 ≤ remainingWeight tau steps := by
  induction steps with
  | nil => simp
  | cons step rest induction =>
      rw [List.forall_mem_cons] at positive
      rw [remainingWeight_cons]
      exact
        mul_nonneg (blendGain_nonneg tau_pos.le positive.1)
          (induction positive.2)

/-- No chain of steps forgets faster than the time constant. -/
theorem exp_le_remainingWeight (tau_pos : 0 < tau) {steps : List ℝ}
    (positive : ∀ step ∈ steps, 0 < step) :
    Real.exp (-(steps.sum / tau)) ≤ remainingWeight tau steps := by
  induction steps with
  | nil => simp
  | cons step rest induction =>
      rw [List.forall_mem_cons] at positive
      rw [List.sum_cons, add_div, neg_add, Real.exp_add,
        remainingWeight_cons]
      exact
        mul_le_mul (exp_le_blendGain tau_pos positive.1)
          (induction positive.2) (Real.exp_pos _).le
          (blendGain_nonneg tau_pos.le positive.1)

/-- Every chain of bounded steps forgets at least as fast as the longest ones. -/
theorem remainingWeight_le_decay (tau_pos : 0 < tau)
    (longest_pos : 0 < longest) {steps : List ℝ}
    (bounded : ∀ step ∈ steps, 0 < step ∧ step ≤ longest) :
    remainingWeight tau steps ≤ decay tau longest steps.sum := by
  induction steps with
  | nil => simp [decay]
  | cons step rest induction =>
      rw [List.forall_mem_cons] at bounded
      rw [List.sum_cons, decay_add tau_pos longest_pos,
        remainingWeight_cons]
      refine
        mul_le_mul (blendGain_le_decay tau_pos bounded.1.1 bounded.1.2)
          (induction bounded.2)
          (remainingWeight_nonneg tau_pos fun step member =>
            (bounded.2 step member).1)
          ?_
      exact (Real.rpow_pos_of_pos (by positivity) _).le

/-- One step of a duration forgets less than two which share it. -/
theorem blendGain_mul_le (tau_pos : 0 < tau) {first second : ℝ}
    (first_nonneg : 0 ≤ first) (second_nonneg : 0 ≤ second) :
    blendGain tau first * blendGain tau second ≤
      blendGain tau (first + second) := by
  have firstRatio : 0 ≤ first / tau := div_nonneg first_nonneg tau_pos.le
  have secondRatio : 0 ≤ second / tau :=
    div_nonneg second_nonneg tau_pos.le
  rw [blendGain_eq_inv tau_pos, blendGain_eq_inv tau_pos,
    blendGain_eq_inv tau_pos, ← mul_inv, add_div]
  apply inv_anti₀ (by positivity)
  nlinarith [mul_nonneg firstRatio secondRatio]

/-- A chain of steps forgets at least as much as one step of its duration. -/
theorem remainingWeight_le_blendGain (tau_pos : 0 < tau) {steps : List ℝ}
    (positive : ∀ step ∈ steps, 0 < step) :
    remainingWeight tau steps ≤ blendGain tau steps.sum := by
  induction steps with
  | nil => simp [blendGain, tau_pos.ne']
  | cons step rest induction =>
      rw [List.forall_mem_cons] at positive
      rw [remainingWeight_cons, List.sum_cons]
      calc
        blendGain tau step * remainingWeight tau rest ≤
            blendGain tau step * blendGain tau rest.sum :=
          mul_le_mul_of_nonneg_left (induction positive.2)
            (blendGain_nonneg tau_pos.le positive.1)
        _ ≤ blendGain tau (step + rest.sum) :=
          blendGain_mul_le tau_pos positive.1.le
            (List.sum_nonneg fun step member => (positive.2 step member).le)

/-! ## What one step multiplies by its gain -/

/-- The difference of two predictions blended with one measurement. -/
theorem blend_sub_blend {K : Type*} [Field K]
    (gain first second measured : K) :
    blend gain first measured - blend gain second measured =
      gain * (first - second) := by
  simp only [blend]
  ring

/--
The distance from the equilibrium of a constant drift: the measurement plus
the drift of one time constant.
-/
theorem blend_sub_equilibrium (tau_pos : 0 < tau) (dt_pos : 0 < dt)
    (drift value before after : ℝ) :
    blend (blendGain tau dt) (value + ((after - before) + drift * dt))
          after -
        (after + tau * drift) =
      blendGain tau dt * (value - (before + tau * drift)) := by
  have balance := blendGain_mul_add tau_pos.le dt_pos
  simp only [blend]
  linear_combination drift * balance

end Go2Navigation.Numeric

end
