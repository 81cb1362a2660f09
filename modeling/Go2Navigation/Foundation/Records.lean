import Mathlib.Data.List.Basic
import Mathlib.Tactic.Ring

/-!
# Lists of records of one length

Concatenating records of one positive length loses nothing.  A two-index
enumeration in row-major order is the enumeration by the flat index.
-/

namespace Go2Navigation.Foundation

universe u v

variable {Item : Type u} {Value : Type v}

/-- Records of one positive length are determined by their concatenation. -/
theorem flatten_injective_of_length
    {size : ℕ} (positive : 0 < size) {left right : List (List Item)}
    (leftSize : ∀ record ∈ left, record.length = size)
    (rightSize : ∀ record ∈ right, record.length = size)
    (same : left.flatten = right.flatten) : left = right := by
  induction left generalizing right with
  | nil =>
      cases right with
      | nil => rfl
      | cons record rest =>
          have recordSize := rightSize record List.mem_cons_self
          have empty : record = [] := by
            simpa using (List.append_eq_nil_iff.mp same.symm).1
          rw [empty, List.length_nil] at recordSize
          exact absurd recordSize positive.ne
  | cons record rest induction =>
      have recordSize := leftSize record List.mem_cons_self
      cases right with
      | nil =>
          have empty : record = [] := by
            simpa using (List.append_eq_nil_iff.mp same).1
          rw [empty, List.length_nil] at recordSize
          exact absurd recordSize positive.ne
      | cons other others =>
          have otherSize := rightSize other List.mem_cons_self
          rw [List.flatten_cons, List.flatten_cons] at same
          rcases List.append_inj same (recordSize.trans otherSize.symm) with
            ⟨headEq, tailEq⟩
          have restEq : rest = others :=
            induction
              (fun item member =>
                leftSize item (List.mem_cons_of_mem _ member))
              (fun item member =>
                rightSize item (List.mem_cons_of_mem _ member))
              tailEq
          rw [headEq, restEq]

/-- Cutting the concatenation of records of one length gives them back. -/
theorem map_window_flatten
    {size : ℕ} {records : List (List Item)}
    (sizes : ∀ record ∈ records, record.length = size) :
    ((List.range records.length).map fun index =>
        (records.flatten.drop (index * size)).take size) = records := by
  induction records with
  | nil => rfl
  | cons record rest induction =>
      have recordSize := sizes record List.mem_cons_self
      have restSizes : ∀ later ∈ rest, later.length = size :=
        fun later member => sizes later (List.mem_cons_of_mem _ member)
      have shifted :
          ∀ index,
            (record ++ rest.flatten).drop ((index + 1) * size) =
              rest.flatten.drop (index * size) := by
        intro index
        rw [Nat.succ_mul, Nat.add_comm, ← recordSize,
          List.drop_length_add_append]
      rw [List.length_cons, List.range_succ_eq_map, List.map_cons,
        List.map_map, List.flatten_cons]
      congr 1
      · rw [Nat.zero_mul, List.drop_zero, ← recordSize, List.take_left']
        rfl
      · refine Eq.trans ?_ (induction restSizes)
        apply List.map_congr_left
        intro index _
        exact congrArg (List.take size) (shifted index)

/-- The length of a concatenation of records of one length. -/
theorem length_flatten_of_length
    {size : ℕ} {records : List (List Item)}
    (sizes : ∀ record ∈ records, record.length = size) :
    records.flatten.length = records.length * size := by
  rw [List.length_flatten, List.map_congr_left sizes, List.map_const',
    List.sum_replicate_nat]

/-- Concatenating the selected records, and selecting them first. -/
theorem flatMap_ite_nil
    (items : List Item) (selected : Item → Prop) [DecidablePred selected]
    (record : Item → List Value) :
    (items.flatMap fun item =>
        if selected item then record item else []) =
      ((items.filter fun item => decide (selected item)).map
        record).flatten := by
  induction items with
  | nil => rfl
  | cons item rest induction =>
      by_cases kept : selected item <;> simp [kept, induction]

/-- Row-major enumeration by row and column, and by the flat index. -/
theorem flatMap_rowMajor
    (height width : ℕ) (cell : ℕ → ℕ → List Value) :
    ((List.range height).flatMap fun row =>
        (List.range width).flatMap fun column => cell row column) =
      (List.range (height * width)).flatMap fun index =>
        cell (index / width) (index % width) := by
  induction height with
  | zero => simp
  | succ height induction =>
      rw [List.range_succ, List.flatMap_append, induction, Nat.succ_mul,
        List.range_add, List.flatMap_append, List.flatMap_map,
        List.flatMap_singleton]
      congr 1
      apply List.flatMap_congr
      intro column member
      have inside := List.mem_range.mp member
      rw [Nat.mul_comm height, Nat.mul_add_div (by omega),
        Nat.div_eq_of_lt inside, Nat.mul_add_mod,
        Nat.mod_eq_of_lt inside, Nat.add_zero]

end Go2Navigation.Foundation
