import Mathlib.Data.Rat.Cast.Order

/-!
# Message stamps

`builtin_interfaces/Time`, and its conversion to a time point.
-/

namespace Go2Navigation.Foundation

structure Stamp where
  sec : ℤ
  nanosec : ℕ
deriving DecidableEq

namespace Stamp

/-- The time a stamp denotes, in nanoseconds. -/
def nanoseconds (stamp : Stamp) : ℤ :=
  stamp.sec * 10 ^ 9 + stamp.nanosec

/-- `rclcpp::Time(stamp)`, which throws on negative seconds. -/
def toTime (stamp : Stamp) : Option ℤ :=
  if stamp.sec < 0 then none else some stamp.nanoseconds

theorem toTime_eq_none_iff (stamp : Stamp) :
    stamp.toTime = none ↔ stamp.sec < 0 := by
  rw [toTime]
  split_ifs with negative <;> simp [negative]

theorem toTime_eq_some_iff (stamp : Stamp) (time : ℤ) :
    stamp.toTime = some time ↔
      0 ≤ stamp.sec ∧ stamp.nanoseconds = time := by
  rw [toTime]
  split_ifs with negative
  · simp [not_le.mpr negative]
  · simp [not_lt.mp negative]

end Stamp

/-- `Duration::seconds()`, in exact arithmetic. -/
def durationSeconds (nanoseconds : ℤ) : ℚ :=
  (nanoseconds : ℚ) / 10 ^ 9

end Go2Navigation.Foundation
