import BoardFilter.Clause.Reader
import BoardFilter.Proofs.Number.Rounding

/-!
# Operations that give a number

Rounded results are numbers. So only an infinity times zero, a quotient of infinities and a quotient
of zeros are NaN, and no number becomes NaN when it is scaled by a small whole number or rounded.
Exact whole numbers are multiplied as whole numbers are.
-/

namespace BoardFilter

namespace Binary64

theorem same_zero_of_isInfinite {x : Binary64} (h : x.isInfinite = true) :
    x.same (ofNat 0) = false := by
  cases x with
  | nan | finite => cases h
  | infinite negative =>
    have hpos := quantaLimit_pos
    rw [ofNat_zero, same_eq_decide rfl rfl, decide_eq_false_iff_not]
    cases negative with
    | false =>
      change ¬ ((quantaLimit : Int) = (0 : Nat))
      omega
    | true =>
      change ¬ (-(quantaLimit : Int) = (0 : Nat))
      omega

section

variable {x : Binary64} (hx : x.isNaN = false)

include hx

theorem isNaN_mul_finite {negative : Bool} {m : Magnitude} (h : m.quanta ≠ 0) :
    (x.mul (finite negative m)).isNaN = false := by
  cases x with
  | nan => cases hx
  | infinite s =>
    rw [mul, if_neg h]
    rfl
  | finite s q => exact isNaN_ofQuotient _ _ _

theorem isNaN_div_finite {negative : Bool} {m : Magnitude} (h : m.quanta ≠ 0) :
    (x.div (finite negative m)).isNaN = false := by
  cases x with
  | nan => cases hx
  | infinite s => rfl
  | finite s q =>
    rw [div, if_neg h]
    exact isNaN_ofQuotient _ _ _

theorem isNaN_div {y : Binary64} (hy : y.isNaN = false) (hzero : y.same (ofNat 0) = false)
    (hfinite : ¬ (x.isInfinite = true ∧ y.isInfinite = true)) : (x.div y).isNaN = false := by
  cases y with
  | nan => cases hy
  | infinite t =>
    cases x with
    | nan => cases hx
    | infinite s => exact absurd ⟨rfl, rfl⟩ hfinite
    | finite s q => rfl
  | finite t r =>
    apply isNaN_div_finite hx
    intro hnone
    rw [ofNat_zero, same_eq_decide rfl rfl, hnone] at hzero
    cases t <;> cases hzero

theorem isNaN_round : x.round.isNaN = false := by
  cases x with
  | nan => cases hx
  | infinite s => rfl
  | finite s q => rfl

section

variable {n : Nat} (hpos : 0 < n) (hn : n ≤ 2 ^ 53)

include hpos hn

theorem isNaN_mul_ofNat : (x.mul (ofNat n)).isNaN = false := by
  rw [ofNat_eq_finite hn]
  exact isNaN_mul_finite hx (Nat.ne_of_gt (Nat.mul_pos hpos quantaPerUnit_pos))

theorem isNaN_div_ofNat : (x.div (ofNat n)).isNaN = false := by
  rw [ofNat_eq_finite hn]
  exact isNaN_div_finite hx (Nat.ne_of_gt (Nat.mul_pos hpos quantaPerUnit_pos))

end

end

theorem mul_ofNat {m n : Nat} (hm : m ≤ 2 ^ 53) (hn : n ≤ 2 ^ 53) :
    (ofNat m).mul (ofNat n) = ofNat (m * n) := by
  rw [ofNat_eq_finite hm, ofNat_eq_finite hn, ofNat, mul, Magnitude.quanta_whole,
    Magnitude.quanta_whole, ← Nat.mul_assoc, Nat.mul_right_comm m]
  exact ofQuotient_congr false (nearestQuanta_mul _ quantaPerUnit_pos)

theorem round_ofNat {n : Nat} (h : n ≤ 2 ^ 53) : (ofNat n).round = ofNat n := by
  rw [ofNat_eq_finite h, round, Magnitude.round_whole]

end Binary64

theorem Clause.isNaN_toHundredths {x : Binary64} (hx : x.isNaN = false) :
    (toHundredths x).isNaN = false :=
  Binary64.isNaN_div_ofNat (Binary64.isNaN_round (Binary64.isNaN_mul_ofNat hx (by decide)
    (by decide))) (by decide) (by decide)

end BoardFilter
