import Mathlib.Algebra.Order.Field.Basic

/-!
# Numbers with a non-finite value

One extra value stands for both infinities and for not-a-number.  Arithmetic
on it gives it back, so does division by zero, and no comparison with it
holds.  Whether a result is finite is decided operation by operation.
-/

namespace Go2Navigation.Numeric

universe u

/-- A number, or the non-finite value. -/
inductive Absorbing (F : Type u) where
  | finite (value : F)
  | nonFinite

namespace Absorbing

variable {F : Type u}

def IsFinite : Absorbing F → Prop
  | finite _ => True
  | nonFinite => False

/-- An operation on finite arguments. -/
def lift (operation : F → F) : Absorbing F → Absorbing F
  | finite value => finite (operation value)
  | nonFinite => nonFinite

/-- An operation on two finite arguments. -/
def lift₂ (operation : F → F → F) :
    Absorbing F → Absorbing F → Absorbing F
  | finite left, finite right => finite (operation left right)
  | _, _ => nonFinite

instance [RatCast F] : RatCast (Absorbing F) where
  ratCast value := finite value

instance [Neg F] : Neg (Absorbing F) where
  neg := lift (-·)

instance [Add F] : Add (Absorbing F) where
  add := lift₂ (· + ·)

instance [Sub F] : Sub (Absorbing F) where
  sub := lift₂ (· - ·)

instance [Mul F] : Mul (Absorbing F) where
  mul := lift₂ (· * ·)

instance [Div F] [Zero F] [DecidableEq F] : Div (Absorbing F) where
  div
    | finite left, finite right =>
        if right = 0 then nonFinite else finite (left / right)
    | _, _ => nonFinite

instance [LT F] : LT (Absorbing F) where
  lt
    | finite left, finite right => left < right
    | _, _ => False

instance [LE F] : LE (Absorbing F) where
  le
    | finite left, finite right => left ≤ right
    | _, _ => False

instance [LT F] [DecidableLT F] : DecidableLT (Absorbing F)
  | finite left, finite right => inferInstanceAs (Decidable (left < right))
  | finite _, nonFinite => inferInstanceAs (Decidable False)
  | nonFinite, _ => inferInstanceAs (Decidable False)

instance [LE F] [DecidableLE F] : DecidableLE (Absorbing F)
  | finite left, finite right => inferInstanceAs (Decidable (left ≤ right))
  | finite _, nonFinite => inferInstanceAs (Decidable False)
  | nonFinite, _ => inferInstanceAs (Decidable False)

/-! ## Finite results -/

@[simp]
theorem isFinite_finite (value : F) : (finite value).IsFinite :=
  trivial

@[simp]
theorem not_isFinite_nonFinite : ¬ (nonFinite : Absorbing F).IsFinite :=
  id

@[simp]
theorem finite_lt [LT F] (left right : F) :
    finite left < finite right ↔ left < right :=
  Iff.rfl

@[simp]
theorem finite_le [LE F] (left right : F) :
    finite left ≤ finite right ↔ left ≤ right :=
  Iff.rfl

@[simp]
theorem isFinite_lift₂
    (operation : F → F → F) (left right : Absorbing F) :
    (lift₂ operation left right).IsFinite ↔
      left.IsFinite ∧ right.IsFinite := by
  cases left <;> cases right <;> simp [lift₂]

@[simp]
theorem isFinite_ratCast [RatCast F] (value : ℚ) :
    ((value : Absorbing F)).IsFinite :=
  trivial

@[simp]
theorem isFinite_add [Add F] (left right : Absorbing F) :
    (left + right).IsFinite ↔ left.IsFinite ∧ right.IsFinite :=
  isFinite_lift₂ _ left right

@[simp]
theorem isFinite_sub [Sub F] (left right : Absorbing F) :
    (left - right).IsFinite ↔ left.IsFinite ∧ right.IsFinite :=
  isFinite_lift₂ _ left right

@[simp]
theorem isFinite_mul [Mul F] (left right : Absorbing F) :
    (left * right).IsFinite ↔ left.IsFinite ∧ right.IsFinite :=
  isFinite_lift₂ _ left right

/-- A quotient is finite if its arguments are and the divisor is not zero. -/
@[simp]
theorem isFinite_div
    [Div F] [Zero F] [DecidableEq F] (left right : Absorbing F) :
    (left / right).IsFinite ↔
      left.IsFinite ∧ right.IsFinite ∧ right ≠ finite 0 := by
  cases left with
  | nonFinite => simp [HDiv.hDiv, Div.div]
  | finite left =>
      cases right with
      | nonFinite => simp [HDiv.hDiv, Div.div]
      | finite right =>
          by_cases zero : right = 0 <;>
            simp [HDiv.hDiv, Div.div, zero]

end Absorbing

end Go2Navigation.Numeric
