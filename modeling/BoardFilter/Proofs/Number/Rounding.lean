import BoardFilter.Proofs.Number.Order
import Mathlib.Algebra.Group.Nat.Defs
import Mathlib.Data.Nat.Log

/-!
# Rounding whole numbers

Rounding keeps the order of magnitudes, and a magnitude with at most 53 significant bits is its own
rounding. So no conversion of whole numbers reverses an order, and up to `2 ^ 53` none changes one.
-/

namespace BoardFilter.Binary64

theorem le_roundHalfEven (num den : Nat) : num / den ≤ roundHalfEven num den := by
  unfold roundHalfEven
  dsimp only
  split
  · omega
  · split <;> omega

theorem roundHalfEven_mono {a b : Nat} (h : a ≤ b) (den : Nat) :
    roundHalfEven a den ≤ roundHalfEven b den := by
  rcases Nat.lt_or_eq_of_le (Nat.div_le_div_right (c := den) h) with hlt | heq
  · calc roundHalfEven a den ≤ a / den + 1 := roundHalfEven_le a den
      _ ≤ b / den := hlt
      _ ≤ roundHalfEven b den := le_roundHalfEven b den
  · have ha := Nat.div_add_mod a den
    have hb := Nat.div_add_mod b den
    rw [heq] at ha
    have hrem : a % den ≤ b % den := by omega
    unfold roundHalfEven
    rw [heq]
    dsimp only
    split <;> split <;> (try split) <;> (try split) <;> omega

theorem roundHalfEven_mul (q : Nat) {den : Nat} (h : 0 < den) :
    roundHalfEven (q * den) den = q := by
  unfold roundHalfEven
  simp [Nat.mul_div_cancel q h, h]

theorem roundHalfEven_mul_right (num den : Nat) {k : Nat} (h : 0 < k) :
    roundHalfEven (num * k) (den * k) = roundHalfEven num den := by
  unfold roundHalfEven
  simp only [Nat.mul_div_mul_right _ _ h, Nat.mul_mod_mul_right, ← Nat.mul_assoc,
    Nat.mul_lt_mul_right h]

theorem two_pow_excess_le {quanta : Nat} (h : 0 < excess quanta) :
    2 ^ (excess quanta + 52) ≤ quanta := by
  have hlog : excess quanta + 52 = quanta.log2 := by
    unfold excess at h ⊢
    omega
  have hne : quanta ≠ 0 := by
    rintro rfl
    simp [excess] at h
  rw [hlog]
  exact Nat.log2_self_le hne

theorem excess_mono {a b : Nat} (h : a ≤ b) : excess a ≤ excess b := by
  unfold excess
  rw [Nat.log2_eq_log_two, Nat.log2_eq_log_two]
  exact Nat.sub_le_sub_right (Nat.log_mono_right h) 52

section

variable (num den : Nat)

theorem nearestQuanta_le : nearestQuanta num den ≤ 2 ^ (excess (num / den) + 53) := by
  calc nearestQuanta num den
      ≤ 2 ^ 53 * 2 ^ excess (num / den) :=
        Nat.mul_le_mul_right _ (roundHalfEven_excess_le num den)
    _ = 2 ^ (excess (num / den) + 53) := by rw [← Nat.pow_add, Nat.add_comm]

theorem le_nearestQuanta (h : 0 < excess (num / den)) :
    2 ^ (excess (num / den) + 52) ≤ nearestQuanta num den := by
  have hstep : 0 < 2 ^ excess (num / den) := Nat.two_pow_pos _
  have hq : 2 ^ 52 ≤ num / (den * 2 ^ excess (num / den)) := by
    rw [← Nat.div_div_eq_div_mul, Nat.le_div_iff_mul_le hstep, ← Nat.pow_add, Nat.add_comm]
    exact two_pow_excess_le h
  calc 2 ^ (excess (num / den) + 52)
      = 2 ^ 52 * 2 ^ excess (num / den) := by rw [← Nat.pow_add, Nat.add_comm]
    _ ≤ nearestQuanta num den := Nat.mul_le_mul_right _ (hq.trans (le_roundHalfEven _ _))

end

/-- A greater magnitude may have a coarser grid; then a power of two lies between the roundings. -/
theorem nearestQuanta_mono {a b : Nat} (h : a ≤ b) (den : Nat) :
    nearestQuanta a den ≤ nearestQuanta b den := by
  rcases Nat.lt_or_eq_of_le (excess_mono (Nat.div_le_div_right (c := den) h)) with hlt | heq
  · calc nearestQuanta a den ≤ 2 ^ (excess (a / den) + 53) := nearestQuanta_le a den
      _ ≤ 2 ^ (excess (b / den) + 52) := Nat.pow_le_pow_right (by decide) (by omega)
      _ ≤ nearestQuanta b den := le_nearestQuanta b den (by omega)
  · unfold nearestQuanta
    rw [heq]
    exact Nat.mul_le_mul_right _ (roundHalfEven_mono h _)

theorem nearestQuanta_mul (num : Nat) {den : Nat} (h : 0 < den) :
    nearestQuanta (num * den) den = nearestQuanta num 1 := by
  unfold nearestQuanta
  dsimp only
  rw [Nat.mul_div_cancel num h, Nat.div_one, Nat.mul_comm den, roundHalfEven_mul_right _ _ h,
    Nat.one_mul]

theorem nearestQuanta_quanta (m : Magnitude) : nearestQuanta m.quanta 1 = m.quanta := by
  obtain ⟨q, hq⟩ := m.on_grid
  have hstep : 0 < Nat.pow 2 (excess m.quanta) := Nat.two_pow_pos _
  unfold nearestQuanta
  dsimp only
  rw [Nat.div_one, Nat.one_mul]
  generalize Nat.pow 2 (excess m.quanta) = step at *
  rw [hq, Nat.mul_comm step, roundHalfEven_mul q hstep]

theorem ofQuotient_congr (negative : Bool) {num den num' den' : Nat}
    (h : nearestQuanta num den = nearestQuanta num' den') :
    ofQuotient negative num den = ofQuotient negative num' den' := by
  simp only [ofQuotient, h]

theorem ofQuotient_quanta (negative : Bool) (m : Magnitude) :
    ofQuotient negative m.quanta 1 = finite negative m := by
  have hlt : nearestQuanta m.quanta 1 < quantaLimit := by
    rw [nearestQuanta_quanta]
    exact m.lt_limit
  rw [ofQuotient, dif_pos hlt]
  congr 1
  exact Magnitude.ext (nearestQuanta_quanta m)

theorem ofNat_eq_finite {n : Nat} (h : n ≤ 2 ^ 53) : ofNat n = finite false (.whole n h) :=
  ofQuotient_quanta false (.whole n h)

theorem ofNat_zero : ofNat 0 = finite false .zero := by
  rw [ofNat, Nat.zero_mul]
  exact ofQuotient_quanta false .zero

def capped (quanta : Nat) : Nat := Min.min quanta quantaLimit

theorem capped_mono {a b : Nat} (h : a ≤ b) : capped a ≤ capped b := by
  unfold capped
  omega

theorem rank?_ofQuotient (negative : Bool) (num den : Nat) :
    (ofQuotient negative num den).rank? =
      some (if negative then -(capped (nearestQuanta num den) : Int)
        else capped (nearestQuanta num den)) := by
  unfold ofQuotient capped
  split
  · next hlt => rw [rank?, Nat.min_eq_left (Nat.le_of_lt hlt)]
  · next hge => rw [rank?, Nat.min_eq_right (Nat.not_lt.1 hge)]

theorem isNaN_ofQuotient (negative : Bool) (num den : Nat) :
    (ofQuotient negative num den).isNaN = false := isNaN_of_rank (rank?_ofQuotient _ _ _)

theorem isNaN_ofNat (n : Nat) : (ofNat n).isNaN = false := isNaN_ofQuotient _ _ _

/-- The place of the number nearest to a whole number. -/
def wholePlace (n : Int) : Int :=
  let quanta := capped (nearestQuanta (n.natAbs * quantaPerUnit) 1)
  if n < 0 then -(quanta : Int) else quanta

theorem rank?_ofInt (n : Int) : (ofInt n).rank? = some (wholePlace n) := by
  rw [ofInt, rank?_ofQuotient, wholePlace]
  simp only [decide_eq_true_eq]

theorem wholePlace_mono {m n : Int} (h : m ≤ n) : wholePlace m ≤ wholePlace n := by
  have hmono : ∀ {i j : Nat}, i ≤ j → capped (nearestQuanta (i * quantaPerUnit) 1) ≤
      capped (nearestQuanta (j * quantaPerUnit) 1) := fun hij =>
    capped_mono (nearestQuanta_mono (Nat.mul_le_mul_right _ hij) 1)
  unfold wholePlace
  dsimp only
  split <;> split
  · have := hmono (show n.natAbs ≤ m.natAbs by omega)
    omega
  · omega
  · omega
  · have := hmono (show m.natAbs ≤ n.natAbs by omega)
    omega

theorem wholePlace_eq {n : Int} (h : n.natAbs ≤ 2 ^ 53) : wholePlace n = n * quantaPerUnit := by
  have hexact : nearestQuanta (n.natAbs * quantaPerUnit) 1 = n.natAbs * quantaPerUnit :=
    nearestQuanta_quanta (.whole _ h)
  have hcap : capped (n.natAbs * quantaPerUnit) = n.natAbs * quantaPerUnit :=
    Nat.min_eq_left (Nat.le_of_lt (Magnitude.whole _ h).lt_limit)
  rw [wholePlace, hexact, hcap, Int.natCast_mul]
  split
  · next hneg => rw [Int.ofNat_natAbs_of_nonpos (Int.le_of_lt hneg), Int.neg_mul, Int.neg_neg]
  · next hpos => rw [Int.natAbs_of_nonneg (Int.not_lt.1 hpos)]

theorem wholePlace_zero : wholePlace 0 = 0 := by
  rw [wholePlace_eq (by decide), Int.zero_mul]

end BoardFilter.Binary64
