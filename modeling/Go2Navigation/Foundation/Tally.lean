import Mathlib.Data.List.Perm.Basic
import Mathlib.Data.List.Flatten

/-!
# Counting work back in

Work is numbered from zero as it is handed out.  Until a piece is done its
number is pending somewhere: in a queue, or with the worker that has taken it.
Whoever finishes a piece adds one to a count.  The count reaches the number of
pieces handed out exactly when nothing is pending, as long as no piece is lost
or counted twice.
-/

namespace Go2Navigation.Foundation

universe u v

/-- Replacing one entry replaces what it contributes. -/
theorem flatMap_set_perm
    {Entry : Type u} {Item : Type v} (items : Entry → List Item)
    {entries : List Entry} {place : ℕ} {old : Entry}
    (found : entries[place]? = some old) (new : Entry) :
    (items old ++ (entries.set place new).flatMap items).Perm
      (items new ++ entries.flatMap items) := by
  induction entries generalizing place with
  | nil => cases found
  | cons first rest induction =>
      cases place with
      | zero =>
          cases found
          simpa using
            (List.perm_append_comm_assoc (items old) (items new)
              (rest.flatMap items))
      | succ place =>
          simp only [List.set_cons_succ, List.flatMap_cons]
          refine (List.perm_append_comm_assoc _ _ _).trans ?_
          refine ((induction found).append_left _).trans ?_
          exact List.perm_append_comm_assoc _ _ _

/-- How much was handed out, what of it is pending, and what was counted. -/
structure Tally where
  issued : ℕ
  pending : List ℕ
  counted : ℕ

/-- Each piece is pending once or has been counted once. -/
structure Tally.Exact (tally : Tally) : Prop where
  nodup : tally.pending.Nodup
  inside : ∀ piece ∈ tally.pending, piece < tally.issued
  balance : tally.counted + tally.pending.length = tally.issued

namespace Tally

theorem exact_empty : Exact ⟨0, [], 0⟩ where
  nodup := List.nodup_nil
  inside := by simp
  balance := rfl

namespace Exact

variable {issued counted : ℕ} {pending moved : List ℕ}

/-- A piece may change hands. -/
theorem move (exactly : Exact ⟨issued, pending, counted⟩)
    (same : pending.Perm moved) : Exact ⟨issued, moved, counted⟩ where
  nodup := same.nodup_iff.mp exactly.nodup
  inside piece member := exactly.inside piece (same.mem_iff.mpr member)
  balance := by
    have balance := exactly.balance
    rwa [same.length_eq] at balance

/-- The next piece is handed out. -/
theorem issue (exactly : Exact ⟨issued, pending, counted⟩) :
    Exact ⟨issued + 1, issued :: pending, counted⟩ where
  nodup :=
    List.nodup_cons.mpr
      ⟨fun member => Nat.lt_irrefl issued (exactly.inside issued member),
        exactly.nodup⟩
  inside piece member := by
    rcases List.mem_cons.mp member with rfl | earlier
    · exact Nat.lt_succ_self piece
    · exact Nat.lt_succ_of_lt (exactly.inside piece earlier)
  balance := by
    have balance : counted + pending.length = issued := exactly.balance
    change counted + (pending.length + 1) = issued + 1
    omega

/-- A piece is finished and counted. -/
theorem finish {piece : ℕ}
    (exactly : Exact ⟨issued, piece :: pending, counted⟩) :
    Exact ⟨issued, pending, counted + 1⟩ where
  nodup := (List.nodup_cons.mp exactly.nodup).2
  inside other member :=
    exactly.inside other (List.mem_cons_of_mem piece member)
  balance := by
    have balance : counted + (pending.length + 1) = issued :=
      exactly.balance
    change counted + 1 + pending.length = issued
    omega

theorem counted_eq_issued_iff (exactly : Exact ⟨issued, pending, counted⟩) :
    counted = issued ↔ pending = [] := by
  have balance : counted + pending.length = issued := exactly.balance
  rw [← List.length_eq_zero_iff]
  omega

theorem length_le (exactly : Exact ⟨issued, pending, counted⟩) :
    pending.length ≤ issued := by
  have balance : counted + pending.length = issued := exactly.balance
  omega

end Exact

end Tally

end Go2Navigation.Foundation
