import BoardFilter.Number.Shortest
import BoardFilter.Proofs.Number.Rounding

/-!
# The text of whole numbers

Below `2 ^ 53` the neighbours of a whole number are at most one apart from it, so no other whole
number reads back as it. The grid of a power of ten then has a point for the number just if the
power divides it, and the shortest decimal is written with the digits of the number.
-/

namespace BoardFilter.Binary64

theorem exists_unit : ∃ unit, quantaPerUnit = 2 ^ unit ∧ unit = 1074 := by
  unfold quantaPerUnit
  -- the power is not to be worked out
  generalize 1074 = unit
  exact ⟨unit, rfl, rfl⟩

theorem onGrid?_of_readsBack {quanta down : Nat} {exponent : Int}
    (hdown : quanta * Nat.pow 10 (-exponent).toNat /
      (Nat.pow 10 exponent.toNat * quantaPerUnit) = down)
    (hnext : readsBack quanta (down + 1) exponent = false) (tieUp : Bool) :
    onGrid? tieUp quanta exponent = if readsBack quanta down exponent then some down else none := by
  unfold onGrid?
  dsimp only
  rw [hdown, hnext]
  cases readsBack quanta down exponent <;> rfl

section

variable {n : Nat} (hpos : 0 < n) (hn : n < 2 ^ 53)

include hpos hn

theorem readBack_whole :
    (readBack (n * quantaPerUnit)).1 < 4 * (n * quantaPerUnit) ∧
      4 * (n * quantaPerUnit) < (readBack (n * quantaPerUnit)).1 + 4 * quantaPerUnit ∧
      4 * (n * quantaPerUnit) < (readBack (n * quantaPerUnit)).2 ∧
      (readBack (n * quantaPerUnit)).2 < 4 * (n * quantaPerUnit) + 4 * quantaPerUnit := by
  obtain ⟨unit, -, hunit, -, -⟩ := exists_powers
  have hstep : Nat.pow 2 (excess (n * quantaPerUnit)) ≤ quantaPerUnit := by
    rw [hunit]
    exact Nat.pow_le_pow_right (by decide) (excess_le hn unit)
  have hstep' : 0 < Nat.pow 2 (excess (n * quantaPerUnit)) := Nat.two_pow_pos _
  have hq : 0 < n * quantaPerUnit := Nat.mul_pos hpos quantaPerUnit_pos
  unfold readBack
  generalize Nat.pow 2 (excess (n * quantaPerUnit)) = step at hstep hstep'
  dsimp only
  split <;> omega

theorem readsBack_whole (digits exponent : Nat) :
    readsBack (n * quantaPerUnit) digits exponent = decide (digits * 10 ^ exponent = n) := by
  obtain ⟨hlow, hlow', hhigh, hhigh'⟩ := readBack_whole hpos hn
  have hscale : Nat.pow 10 (-(exponent : Int)).toNat = 1 := by
    rw [Int.toNat_of_nonpos (by omega), Nat.pow_eq, Nat.pow_zero]
  have hvalue : digits * Nat.pow 10 (exponent : Int).toNat * (4 * quantaPerUnit) =
      4 * (digits * 10 ^ exponent * quantaPerUnit) := by
    rw [Int.toNat_natCast, Nat.mul_left_comm, Nat.pow_eq]
  unfold readsBack
  dsimp only
  rw [hscale, hvalue, Nat.mul_one, Nat.mul_one]
  generalize digits * 10 ^ exponent = value
  rcases Nat.lt_trichotomy value n with hlt | heq | hgt
  · have hapart : (value + 1) * quantaPerUnit ≤ n * quantaPerUnit := Nat.mul_le_mul_right _ hlt
    rw [Nat.add_mul, Nat.one_mul] at hapart
    rw [decide_eq_false (Nat.ne_of_lt hlt)]
    split <;>
    · simp only [Bool.and_eq_false_iff, decide_eq_false_iff_not]
      omega
  · rw [heq, decide_eq_true rfl]
    split <;>
    · simp only [Bool.and_eq_true, decide_eq_true_eq]
      omega
  · have hapart : (n + 1) * quantaPerUnit ≤ value * quantaPerUnit := Nat.mul_le_mul_right _ hgt
    rw [Nat.add_mul, Nat.one_mul] at hapart
    rw [decide_eq_false (Nat.ne_of_gt hgt)]
    split <;>
    · simp only [Bool.and_eq_false_iff, decide_eq_false_iff_not]
      omega

theorem onGrid?_whole (tieUp : Bool) (exponent : Nat) :
    onGrid? tieUp (n * quantaPerUnit) exponent =
      if 10 ^ exponent ∣ n then some (n / 10 ^ exponent) else none := by
  have hdown : n * quantaPerUnit * Nat.pow 10 (-(exponent : Int)).toNat /
      (Nat.pow 10 (exponent : Int).toNat * quantaPerUnit) = n / 10 ^ exponent := by
    rw [Int.toNat_of_nonpos (by omega), Int.toNat_natCast, Nat.pow_eq, Nat.pow_eq, Nat.pow_zero,
      Nat.mul_one, Nat.mul_div_mul_right _ _ quantaPerUnit_pos]
  have hnext : n ≠ (n / 10 ^ exponent + 1) * 10 ^ exponent := by
    rw [Nat.mul_comm]
    exact Nat.ne_of_lt (Nat.lt_mul_div_succ n (Nat.pow_pos (by decide)))
  have hpoint : n / 10 ^ exponent * 10 ^ exponent = n ↔ 10 ^ exponent ∣ n :=
    ⟨fun heq => ⟨_, by rw [Nat.mul_comm, heq]⟩, Nat.div_mul_cancel⟩
  rw [onGrid?_of_readsBack hdown
    ((readsBack_whole hpos hn _ _).trans (decide_eq_false hnext.symm)), readsBack_whole hpos hn]
  simp only [hpoint, decide_eq_true_eq]

theorem topExponent_whole : ∃ top : Nat, topExponent (n * quantaPerUnit) = top ∧ top < 20 := by
  obtain ⟨unit, hunit, hval⟩ := exists_unit
  have hne : n * 2 ^ unit ≠ 0 := Nat.ne_of_gt (Nat.mul_pos hpos (Nat.two_pow_pos _))
  have hlow : unit ≤ (n * 2 ^ unit).log2 := by
    rw [Nat.le_log2 hne]
    exact Nat.le_mul_of_pos_left _ hpos
  have hhigh : (n * 2 ^ unit).log2 < 53 + unit := by
    rw [Nat.log2_lt hne, Nat.pow_add]
    exact Nat.mul_lt_mul_of_pos_right hn (Nat.two_pow_pos _)
  rw [topExponent, hunit]
  generalize (n * 2 ^ unit).log2 = log at hlow hhigh
  exact ⟨(log - 1073) * 30103 / 100000 + 1, by omega, by omega⟩

/-- From any grid on, the first point is the number itself, at the latest in units. -/
theorem shortestFrom_whole (tieUp : Bool) {tries top : Nat} (h : top < tries) :
    ∃ exponent : Nat, 10 ^ exponent ∣ n ∧
      shortestFrom tieUp (n * quantaPerUnit) tries top = (n / 10 ^ exponent, (exponent : Int)) := by
  induction top generalizing tries with
  | zero =>
    obtain ⟨tries, rfl⟩ := Nat.exists_eq_succ_of_ne_zero (Nat.ne_of_gt h)
    refine ⟨0, by simp, ?_⟩
    rw [shortestFrom, onGrid?_whole hpos hn, if_pos (by simp)]
  | succ top ih =>
    obtain ⟨tries, rfl⟩ := Nat.exists_eq_succ_of_ne_zero (Nat.ne_zero_of_lt h)
    by_cases hdvd : 10 ^ (top + 1) ∣ n
    · refine ⟨top + 1, hdvd, ?_⟩
      rw [shortestFrom, onGrid?_whole hpos hn, if_pos hdvd]
    · have hnext : ((top + 1 : Nat) : Int) - 1 = top := by omega
      rw [shortestFrom, onGrid?_whole hpos hn, if_neg hdvd]
      dsimp only
      rw [hnext]
      exact ih (by omega)

end

end BoardFilter.Binary64

namespace BoardFilter.NumeralStyle

open Binary64

theorem toDigits_mul_pow {m : Nat} (h : 0 < m) (zeros : Nat) :
    Nat.toDigits 10 (m * 10 ^ zeros) = Nat.toDigits 10 m ++ List.replicate zeros '0' := by
  induction zeros with
  | zero => simp
  | succ zeros ih =>
    have hpos : 0 < m * 10 ^ zeros := Nat.mul_pos h (Nat.pow_pos (by decide))
    have hlast : m * 10 ^ (zeros + 1) = 10 * (m * 10 ^ zeros) + 0 := by
      rw [Nat.pow_succ, ← Nat.mul_assoc, Nat.mul_comm, Nat.add_zero]
    rw [hlast, ← Nat.toDigits_append_toDigits (by decide) hpos (by decide), ih,
      List.replicate_succ', List.append_assoc]
    rfl

theorem writeDecimal_plain {m : Nat} (h : 0 < m) (exponent : Nat) :
    plain.writeDecimal m exponent = Nat.toDigits 10 (m * 10 ^ exponent) := by
  rw [toDigits_mul_pow h, writeDecimal]
  simp [plain]

theorem write_ofNat {n : Nat} (h : n ≤ 2 ^ 53) : plain.write (.ofNat n) = toString n := by
  rcases Nat.lt_or_eq_of_le h with hn | rfl
  · rw [Nat.toString_eq_ofList_toDigits]
    rcases Nat.eq_zero_or_pos n with rfl | hpos
    · rw [ofNat_zero]
      rfl
    · obtain ⟨top, htop, hlt⟩ := topExponent_whole hpos hn
      obtain ⟨exponent, hdvd, hshortest⟩ := shortestFrom_whole hpos hn plain.tieUp hlt
      have hq : n * quantaPerUnit ≠ 0 := Nat.ne_of_gt (Nat.mul_pos hpos quantaPerUnit_pos)
      have hdiv : 0 < n / 10 ^ exponent :=
        Nat.div_pos (Nat.le_of_dvd hpos hdvd) (Nat.pow_pos (by decide))
      rw [ofNat_eq_finite h, write, Magnitude.quanta_whole, if_neg hq, shortest, htop, hshortest]
      dsimp only
      rw [writeDecimal_plain hdiv, Nat.div_mul_cancel hdvd]
      rfl
  · decide +kernel

end BoardFilter.NumeralStyle
