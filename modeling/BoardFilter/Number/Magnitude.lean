/-!
# Magnitudes of binary64 numbers

Every finite binary64 number is a whole multiple of the least positive one, `2 ^ -1074`, which is
called a quantum here. A magnitude is a number of quanta with at most 53 significant bits, so that
comparisons and roundings are questions about whole numbers.
-/

namespace BoardFilter.Binary64

def quantaPerUnit : Nat := Nat.pow 2 1074

def quantaLimit : Nat := Nat.pow 2 2098

def roundHalfEven (num den : Nat) : Nat :=
  let q := num / den
  let r := num % den
  if 2 * r < den then q else if den < 2 * r then q + 1 else q + q % 2

/-- How many low bits of a number of quanta lie below its 53 significant bits. -/
def excess (quanta : Nat) : Nat := quanta.log2 - 52

def nearestQuanta (num den : Nat) : Nat :=
  let step := Nat.pow 2 (excess (num / den))
  roundHalfEven num (den * step) * step

theorem exists_powers :
    ∃ unit limit, quantaPerUnit = Nat.pow 2 unit ∧ quantaLimit = Nat.pow 2 limit ∧
      53 + unit < limit := by
  unfold quantaPerUnit quantaLimit
  -- the powers are not to be worked out
  refine ⟨1074, 2098, ?_, ?_, by decide⟩
  · generalize 1074 = unit
    rfl
  · generalize 2098 = limit
    rfl

theorem quantaPerUnit_pos : 0 < quantaPerUnit := by
  obtain ⟨unit, -, hunit, -, -⟩ := exists_powers
  rw [hunit]
  exact Nat.two_pow_pos unit

theorem quantaLimit_pos : 0 < quantaLimit := by
  obtain ⟨-, limit, -, hlimit, -⟩ := exists_powers
  rw [hlimit]
  exact Nat.two_pow_pos limit

theorem roundHalfEven_le (num den : Nat) : roundHalfEven num den ≤ num / den + 1 := by
  unfold roundHalfEven
  dsimp only
  split
  · omega
  · split <;> omega

theorem lt_two_pow_excess (quanta : Nat) : quanta < Nat.pow 2 (excess quanta + 53) := by
  have hlog : quanta.log2 + 1 ≤ excess quanta + 53 := by
    unfold excess
    omega
  exact Nat.lt_of_lt_of_le Nat.lt_log2_self (Nat.pow_le_pow_right (by decide) hlog)

theorem excess_le {s : Nat} (h : s < Nat.pow 2 53) (k : Nat) :
    excess (s * Nat.pow 2 k) ≤ k := by
  rw [Nat.pow_eq] at h ⊢
  rcases Nat.eq_zero_or_pos s with rfl | hpos
  · simp [excess]
  have hpow : s * 2 ^ k < 2 ^ (53 + k) := by
    rw [Nat.pow_add]
    exact Nat.mul_lt_mul_of_pos_right h (Nat.two_pow_pos k)
  have hne : s * 2 ^ k ≠ 0 := Nat.ne_of_gt (Nat.mul_pos hpos (Nat.two_pow_pos k))
  have hlog : (s * 2 ^ k).log2 < 53 + k := (Nat.log2_lt hne).2 hpow
  unfold excess
  omega

theorem two_pow_excess_dvd {s : Nat} (h : s ≤ Nat.pow 2 53) (k : Nat) :
    Nat.pow 2 (excess (s * Nat.pow 2 k)) ∣ s * Nat.pow 2 k := by
  simp only [Nat.pow_eq] at h ⊢
  rcases Nat.lt_or_eq_of_le h with hlt | rfl
  · exact Nat.dvd_mul_left_of_dvd (Nat.pow_dvd_pow 2 (excess_le hlt k)) s
  · rw [← Nat.pow_add, excess, Nat.log2_two_pow]
    exact Nat.pow_dvd_pow 2 (by omega)

section

variable (num den : Nat)

theorem roundHalfEven_excess_le :
    roundHalfEven num (den * Nat.pow 2 (excess (num / den))) ≤ Nat.pow 2 53 := by
  simp only [Nat.pow_eq]
  have hq : num / (den * 2 ^ excess (num / den)) < 2 ^ 53 := by
    rw [← Nat.div_div_eq_div_mul, Nat.div_lt_iff_lt_mul (Nat.two_pow_pos _), ← Nat.pow_add,
      Nat.add_comm]
    exact lt_two_pow_excess _
  exact Nat.le_trans (roundHalfEven_le _ _) hq

theorem two_pow_excess_dvd_nearestQuanta :
    Nat.pow 2 (excess (nearestQuanta num den)) ∣ nearestQuanta num den :=
  two_pow_excess_dvd (roundHalfEven_excess_le num den) _

end

@[ext]
structure Magnitude where
  quanta : Nat
  lt_limit : quanta < quantaLimit
  on_grid : Nat.pow 2 (excess quanta) ∣ quanta
deriving DecidableEq, Repr

namespace Magnitude

def zero : Magnitude := ⟨0, quantaLimit_pos, Nat.dvd_zero _⟩

/-- Magnitudes are so far apart from `2 ^ 52` on that they are all whole. -/
theorem whole_or_small (m : Magnitude) :
    quantaPerUnit ∣ m.quanta ∨ m.quanta < Nat.pow 2 52 * quantaPerUnit := by
  obtain ⟨unit, -, hunit, -, -⟩ := exists_powers
  rw [hunit]
  rcases Nat.lt_or_ge (excess m.quanta) unit with hlt | hge
  · right
    calc m.quanta < 2 ^ (excess m.quanta + 53) := lt_two_pow_excess _
      _ ≤ 2 ^ (52 + unit) := Nat.pow_le_pow_right (by decide) (by omega)
      _ = 2 ^ 52 * 2 ^ unit := Nat.pow_add 2 52 unit
  · exact .inl (Nat.dvd_trans (Nat.pow_dvd_pow 2 hge) m.on_grid)

def roundedQuanta (quanta : Nat) : Nat :=
  (2 * quanta + quantaPerUnit) / (2 * quantaPerUnit) * quantaPerUnit

theorem roundedQuanta_mul (n : Nat) :
    roundedQuanta (n * quantaPerUnit) = n * quantaPerUnit := by
  have hpos := quantaPerUnit_pos
  unfold roundedQuanta
  generalize quantaPerUnit = unit at hpos
  rw [Nat.mul_left_comm, Nat.mul_comm n, Nat.mul_add_div (Nat.mul_pos (by decide) hpos),
    Nat.div_eq_of_lt (by omega), Nat.add_zero, Nat.mul_comm]

theorem roundedQuanta_of_small {quanta : Nat} (h : quanta < Nat.pow 2 52 * quantaPerUnit) :
    ∃ n, n ≤ Nat.pow 2 53 ∧ roundedQuanta quanta = n * quantaPerUnit := by
  simp only [Nat.pow_eq] at h ⊢
  have hpos := quantaPerUnit_pos
  refine ⟨_, ?_, rfl⟩
  generalize quantaPerUnit = unit at *
  apply Nat.le_of_lt
  rw [Nat.div_lt_iff_lt_mul (by omega)]
  omega

def whole (n : Nat) (h : n ≤ Nat.pow 2 53) : Magnitude where
  quanta := n * quantaPerUnit
  lt_limit := by
    obtain ⟨unit, limit, hunit, hlimit, hlt⟩ := exists_powers
    rw [hunit, hlimit]
    calc n * 2 ^ unit ≤ 2 ^ 53 * 2 ^ unit := Nat.mul_le_mul_right _ h
      _ = 2 ^ (53 + unit) := (Nat.pow_add 2 53 unit).symm
      _ < 2 ^ limit := Nat.pow_lt_pow_right (by decide) hlt
  on_grid := by
    obtain ⟨unit, -, hunit, -, -⟩ := exists_powers
    rw [hunit]
    exact two_pow_excess_dvd h unit

theorem quanta_whole (n : Nat) (h : n ≤ Nat.pow 2 53) : (whole n h).quanta = n * quantaPerUnit := rfl

theorem exists_eq_roundedQuanta (m : Magnitude) :
    ∃ r : Magnitude, r.quanta = roundedQuanta m.quanta := by
  rcases m.whole_or_small with ⟨n, hn⟩ | hsmall
  · exact ⟨m, by rw [hn, Nat.mul_comm, roundedQuanta_mul]⟩
  · obtain ⟨n, hn, hround⟩ := roundedQuanta_of_small hsmall
    exact ⟨whole n hn, hround.symm⟩

def round (m : Magnitude) : Magnitude where
  quanta := roundedQuanta m.quanta
  lt_limit := by
    obtain ⟨r, hr⟩ := m.exists_eq_roundedQuanta
    exact hr ▸ r.lt_limit
  on_grid := by
    obtain ⟨r, hr⟩ := m.exists_eq_roundedQuanta
    exact hr ▸ r.on_grid

theorem quanta_round (m : Magnitude) : m.round.quanta = roundedQuanta m.quanta := rfl

theorem round_whole (n : Nat) (h : n ≤ Nat.pow 2 53) : (whole n h).round = whole n h := by
  ext
  rw [quanta_round, quanta_whole, roundedQuanta_mul]

end Magnitude

end BoardFilter.Binary64
