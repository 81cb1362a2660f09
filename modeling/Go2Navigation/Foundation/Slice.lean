import Mathlib.Data.List.Basic

/-!
# Slices

The part of a sequence between two positions.  Copies out of a buffer are
slices of what the buffer holds; where they reach beyond it, they are shorter.
-/

namespace Go2Navigation.Foundation

universe u

variable {Item : Type u}

def slice (items : List Item) (start length : ℕ) : List Item :=
  (items.drop start).take length

theorem length_slice (items : List Item) (start length : ℕ) :
    (slice items start length).length = min length (items.length - start) := by
  rw [slice, List.length_take, List.length_drop]

@[simp]
theorem slice_zero (items : List Item) (start : ℕ) :
    slice items start 0 = [] :=
  rfl

/-- Two slices side by side. -/
theorem slice_add (items : List Item) (start first second : ℕ) :
    slice items start (first + second) =
      slice items start first ++ slice items (start + first) second := by
  rw [slice, slice, slice, List.take_add, List.drop_drop]

theorem slice_slice
    (items : List Item) (start : ℕ) {length offset inner : ℕ}
    (inside : offset + inner ≤ length) :
    slice (slice items start length) offset inner =
      slice items (start + offset) inner := by
  rw [slice, slice, slice, List.drop_take, List.take_take, List.drop_drop,
    Nat.min_eq_left (by omega)]

/-- A part of what stands behind some position. -/
theorem slice_of_drop
    {items front middle rest : List Item} {start offset length : ℕ}
    (behind : items.drop start = front ++ (middle ++ rest))
    (starts : front.length = offset) (ends : middle.length = length) :
    slice items (start + offset) length = middle := by
  subst starts ends
  rw [slice, ← List.drop_drop, behind, List.drop_left, List.take_left]

/-! ## A concatenation that is cut off -/

universe v

variable {Value : Type v}

end Go2Navigation.Foundation
