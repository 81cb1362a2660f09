import Mathlib.Data.List.Basic
import Mathlib.Logic.Function.Basic

/-!
# Sequences in circular storage

The items of a sequence stand in consecutive cells, and the first cell follows
the last one.  Items are added and removed at both ends; the cells which hold
no item are arbitrary.
-/

namespace Go2Navigation.Foundation

universe u

variable {Item : Type u}

/-- These items stand in the cells from `start` on. -/
structure Circular
    (cells : ℕ → Item) (capacity start : ℕ) (items : List Item) : Prop where
  inside : start < capacity
  fits : items.length ≤ capacity
  holds :
    ∀ index item, items[index]? = some item →
      cells ((start + index) % capacity) = item

theorem add_mod_of_lt {capacity start index : ℕ} (inside : start < capacity)
    (within : index < capacity) :
    (start + index) % capacity =
      if start + index < capacity then start + index
      else start + index - capacity := by
  split
  · next below => exact Nat.mod_eq_of_lt below
  · next above =>
    rw [Nat.mod_eq_sub_mod (by omega), Nat.mod_eq_of_lt (by omega)]

namespace Circular

variable {cells : ℕ → Item} {capacity start : ℕ} {item : Item}
  {items : List Item}

theorem empty (inside : start < capacity) :
    Circular cells capacity start [] :=
  ⟨inside, Nat.zero_le _, fun _ _ found => nomatch found⟩

/-- A write to a cell of none of the items. -/
theorem update (circular : Circular cells capacity start items)
    {cell : ℕ}
    (other :
      ∀ index < items.length, (start + index) % capacity ≠ cell)
    (item : Item) :
    Circular (Function.update cells cell item) capacity start items where
  inside := circular.inside
  fits := circular.fits
  holds index item found := by
    have within := (List.getElem?_eq_some_iff.mp found).1
    rw [Function.update_of_ne (other index within)]
    exact circular.holds index item found

theorem snoc (circular : Circular cells capacity start items)
    (room : items.length < capacity) (item : Item) :
    Circular
      (Function.update cells ((start + items.length) % capacity) item)
      capacity start (items ++ [item]) where
  inside := circular.inside
  fits := by
    rw [List.length_append, List.length_singleton]
    exact room
  holds index item' found := by
    have inside := circular.inside
    rcases Nat.lt_or_ge index items.length with old | new
    · rw [List.getElem?_append_left old] at found
      rw [Function.update_of_ne, circular.holds index item' found]
      rw [add_mod_of_lt inside (by omega), add_mod_of_lt inside room]
      split <;> split <;> omega
    · have within := (List.getElem?_eq_some_iff.mp found).1
      rw [List.length_append, List.length_singleton] at within
      obtain rfl : index = items.length := by omega
      rw [List.getElem?_append_right new, Nat.sub_self] at found
      rw [Function.update_self]
      exact Option.some.inj found

theorem cons (circular : Circular cells capacity start items)
    (room : items.length < capacity) (item : Item) :
    Circular
      (Function.update cells ((start + capacity - 1) % capacity) item)
      capacity ((start + capacity - 1) % capacity) (item :: items) where
  inside := Nat.mod_lt _ (by omega)
  fits := room
  holds index item' found := by
    have inside := circular.inside
    have before :
        (start + capacity - 1) % capacity =
          if start = 0 then capacity - 1 else start - 1 := by
      rw [(by omega : start + capacity - 1 = start + (capacity - 1)),
        add_mod_of_lt inside (by omega)]
      split <;> split <;> omega
    rcases index with _ | index
    · rw [Nat.add_zero, Nat.mod_mod, Function.update_self]
      exact Option.some.inj found
    · rw [List.getElem?_cons_succ] at found
      have within := (List.getElem?_eq_some_iff.mp found).1
      have read := circular.holds index item' found
      have same :
          ((start + capacity - 1) % capacity + (index + 1)) % capacity =
            (start + index) % capacity := by
        rw [before]
        split
        · next first =>
          rw [(by omega : capacity - 1 + (index + 1) = capacity + index),
            first, Nat.add_mod_left, Nat.zero_add]
        · rw [(by omega : start - 1 + (index + 1) = start + index)]
      rw [same, Function.update_of_ne, read]
      rw [before, add_mod_of_lt inside (by omega)]
      split <;> split <;> omega

theorem head (circular : Circular cells capacity start (item :: items)) :
    cells start = item := by
  have read := circular.holds 0 item rfl
  rwa [Nat.add_zero, Nat.mod_eq_of_lt circular.inside] at read

theorem tail (circular : Circular cells capacity start (item :: items)) :
    Circular cells capacity ((start + 1) % capacity) items where
  inside := Nat.mod_lt _ (Nat.zero_lt_of_lt circular.inside)
  fits := Nat.le_of_succ_le circular.fits
  holds index item' found := by
    have read := circular.holds (index + 1) item' found
    rwa [Nat.mod_add_mod, Nat.add_assoc, Nat.add_comm 1 index]

/-- The cell of the first item is free for any other. -/
theorem update_head
    (circular : Circular cells capacity start (item :: items))
    (other : Item) :
    Circular (Function.update cells start other) capacity
      ((start + 1) % capacity) items := by
  refine circular.tail.update (fun index within => ?_) other
  have inside := circular.inside
  have fits := circular.fits
  rw [List.length_cons] at fits
  rw [Nat.mod_add_mod, Nat.add_assoc,
    add_mod_of_lt inside (by omega)]
  split <;> omega

theorem last (circular : Circular cells capacity start (items ++ [item])) :
    cells ((start + items.length) % capacity) = item :=
  circular.holds items.length item (by simp)

theorem init (circular : Circular cells capacity start (items ++ [item])) :
    Circular cells capacity start items where
  inside := circular.inside
  fits := by
    have fits := circular.fits
    rw [List.length_append] at fits
    omega
  holds index item' found := by
    apply circular.holds
    rw [List.getElem?_append_left (List.getElem?_eq_some_iff.mp found).1,
      found]

theorem update_last
    (circular : Circular cells capacity start (items ++ [item]))
    (other : Item) :
    Circular
      (Function.update cells ((start + items.length) % capacity) other)
      capacity start items := by
  refine circular.init.update (fun index within => ?_) other
  have inside := circular.inside
  have fits := circular.fits
  rw [List.length_append, List.length_singleton] at fits
  rw [add_mod_of_lt inside (by omega), add_mod_of_lt inside (by omega)]
  split <;> split <;> omega

end Circular

end Go2Navigation.Foundation
