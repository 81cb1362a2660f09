import Mathlib.Data.List.Range

/-!
# Memory as a function of the address

Items are stored at consecutive addresses.  What a store or a copy does not
reach stays as it was.
-/

namespace Go2Navigation.Foundation

universe u

variable {Item : Type u}

def store (memory : ℕ → Item) (start : ℕ) (items : List Item) : ℕ → Item :=
  fun address =>
    if start ≤ address then
      (items[address - start]?).getD (memory address)
    else memory address

/-- The items are read before the first of them is written. -/
def copy (memory : ℕ → Item) (destination source length : ℕ) : ℕ → Item :=
  fun address =>
    if destination ≤ address ∧ address < destination + length then
      memory (source + (address - destination))
    else memory address

/-- As many items as asked for, from this address on. -/
def load (memory : ℕ → Item) (start length : ℕ) : List Item :=
  (List.range length).map fun index => memory (start + index)

/-- These items stand at this address and those after it. -/
def Holds (memory : ℕ → Item) (start : ℕ) (items : List Item) : Prop :=
  ∀ index item, items[index]? = some item → memory (start + index) = item

variable {memory : ℕ → Item} {start other source destination : ℕ}
  {items others : List Item}

theorem holds_nil : Holds memory start [] := by
  intro index item found
  cases found

theorem Holds.append
    (left : Holds memory start items)
    (right : Holds memory (start + items.length) others) :
    Holds memory start (items ++ others) := by
  intro index item found
  rcases Nat.lt_or_ge index items.length with inside | beyond
  · rw [List.getElem?_append_left inside] at found
    exact left index item found
  · rw [List.getElem?_append_right beyond] at found
    have reached := right (index - items.length) item found
    rwa [Nat.add_assoc, Nat.add_sub_cancel' beyond] at reached

theorem Holds.map_range (holds : Holds memory 0 items) :
    (List.range items.length).map memory = items := by
  refine List.ext_getElem? fun index => ?_
  rcases Nat.lt_or_ge index items.length with inside | beyond
  · have read := holds index items[index] (List.getElem?_eq_getElem inside)
    rw [Nat.zero_add] at read
    simp [inside, read]
  · simp [beyond]

theorem Holds.load (holds : Holds memory start items) :
    load memory start items.length = items := by
  refine List.ext_getElem? fun index => ?_
  rcases Nat.lt_or_ge index items.length with inside | beyond
  · have read := holds index items[index] (List.getElem?_eq_getElem inside)
    simp [Foundation.load, inside, read]
  · simp [Foundation.load, beyond]

theorem Holds.append_left (holds : Holds memory start (items ++ others)) :
    Holds memory start items := by
  intro index item found
  apply holds
  rw [List.getElem?_append_left (List.getElem?_eq_some_iff.mp found).1,
    found]

/-- The items behind the first ones. -/
theorem Holds.append_right (holds : Holds memory start (items ++ others)) :
    Holds memory (start + items.length) others := by
  intro index item found
  rw [Nat.add_assoc]
  apply holds
  rw [List.getElem?_append_right (Nat.le_add_right _ _),
    Nat.add_sub_cancel_left, found]

theorem holds_store : Holds (store memory start items) start items := by
  intro index item found
  simp [store, found]

theorem Holds.store
    (holds : Holds memory other others)
    (apart : other + others.length ≤ start ∨ start + items.length ≤ other) :
    Holds (store memory start items) other others := by
  intro index item found
  have inside := (List.getElem?_eq_some_iff.mp found).1
  have kept :
      Foundation.store memory start items (other + index) =
        memory (other + index) := by
    rw [Foundation.store]
    split
    · rw [List.getElem?_eq_none (by omega), Option.getD_none]
    · rfl
  rw [kept]
  exact holds index item found

theorem Holds.copied (holds : Holds memory source items) :
    Holds (copy memory destination source items.length) destination
      items := by
  intro index item found
  have inside := (List.getElem?_eq_some_iff.mp found).1
  rw [copy, if_pos (by omega), Nat.add_sub_cancel_left]
  exact holds index item found

theorem Holds.copy {length : ℕ}
    (holds : Holds memory other others)
    (apart :
      other + others.length ≤ destination ∨ destination + length ≤ other) :
    Holds (copy memory destination source length) other others := by
  intro index item found
  have inside := (List.getElem?_eq_some_iff.mp found).1
  rw [Foundation.copy, if_neg (by omega)]
  exact holds index item found

end Go2Navigation.Foundation
