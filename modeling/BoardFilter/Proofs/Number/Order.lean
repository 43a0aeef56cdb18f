import BoardFilter.Number.Binary64
import Mathlib.Order.Basic

/-!
# The order of binary64 numbers

Every number but NaN has a place among the whole numbers, and numbers compare as their places do.
So the comparisons of numbers are those of a linear order in which both zeros have one place.
-/

namespace BoardFilter.Binary64

variable {x y : Binary64} {a b : Int}

theorem exists_rank (h : x.isNaN = false) : ∃ place, x.rank? = some place := by
  cases x with
  | nan => cases h
  | infinite negative => exact ⟨_, rfl⟩
  | finite negative quanta => exact ⟨_, rfl⟩

theorem isNaN_of_rank (h : x.rank? = some a) : x.isNaN = false := by
  cases x with
  | nan => cases h
  | infinite negative => rfl
  | finite negative quanta => rfl

section

variable (hx : x.rank? = some a) (hy : y.rank? = some b)

include hx hy

theorem lt_eq_decide : x.lt y = decide (a < b) := by rw [lt, related, hx, hy]

theorem le_eq_decide : x.le y = decide (a ≤ b) := by rw [le, related, hx, hy]

theorem same_eq_decide : x.same y = decide (a = b) := by rw [same, related, hx, hy]

theorem rank?_min : (x.min y).rank? = some (Min.min a b) := by
  rw [min, isNaN_of_rank hx, lt_eq_decide hy hx]
  by_cases h : b < a
  · simp [h, hy, Int.min_eq_right (Int.le_of_lt h)]
  · simp [h, hx, Int.min_eq_left (Int.not_lt.1 h)]

theorem rank?_max : (x.max y).rank? = some (Max.max a b) := by
  rw [max, isNaN_of_rank hx, lt_eq_decide hx hy]
  by_cases h : a < b
  · simp [h, hy, Int.max_eq_right (Int.le_of_lt h)]
  · simp [h, hx, Int.max_eq_left (Int.not_lt.1 h)]

theorem min_le_max : (x.min y).le (x.max y) = true := by
  rw [le_eq_decide (rank?_min hx hy) (rank?_max hx hy), decide_eq_true_eq]
  omega

end

end BoardFilter.Binary64
