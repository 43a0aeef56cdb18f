import BoardFilter.Number.Decimal
import BoardFilter.Proofs.Number.Rounding
import BoardFilter.Proofs.Text.NormalForm
import Mathlib.Data.List.TakeDrop

/-!
# Whole numbers as numerals

The decimal digits of a whole number, with a minus sign or without, are read as the binary64 number
that is nearest to it, however many digits there are. A whole number may have no number of its own
and is then read as a neighbour or as infinite, but it is never read as NaN.
-/

namespace BoardFilter

namespace Binary64

theorem same_self {x : Binary64} (h : x.isNaN = false) : x.same x = true := by
  obtain ⟨place, hplace⟩ := exists_rank h
  rw [same_eq_decide hplace hplace]
  exact decide_eq_true rfl

theorem ofQuotient_zero (negative : Bool) : ofQuotient negative 0 1 = finite negative .zero :=
  ofQuotient_quanta negative .zero

theorem ofInt_natCast (n : Nat) : ofInt n = ofNat n := by
  rw [ofInt, ofNat, Int.natAbs_natCast, decide_eq_false (by omega)]

end Binary64

theorem bounds_of_isDigit {c : Char} (h : c.isDigit = true) : 48 ≤ c.toNat ∧ c.toNat ≤ 57 := by
  simp only [Char.isDigit, Bool.and_eq_true, decide_eq_true_eq, ge_iff_le,
    UInt32.le_iff_toNat_le, Char.toNat_val] at h
  exact h

theorem isDigit_of_mem_toDigits {n : Nat} {c : Char} (h : c ∈ Nat.toDigits 10 n) :
    c.isDigit = true := Nat.isDigit_of_mem_toDigits (by decide) (by decide) h

theorem exists_digitChar_of_mem_toDigits {b n : Nat} (hb : 1 < b) {c : Char}
    (h : c ∈ Nat.toDigits b n) : ∃ d < b, c = Nat.digitChar d := by
  induction n using Nat.strong_induction_on with
  | _ n ih =>
    by_cases hlt : n < b
    · rw [Nat.toDigits_of_lt_base hlt, List.mem_singleton] at h
      exact ⟨n, hlt, h⟩
    · rw [Nat.toDigits_of_base_le hb (Nat.not_lt.1 hlt), List.mem_append, List.mem_singleton] at h
      rcases h with h | h
      · exact ih (n / b) (Nat.div_lt_self (by omega) hb) h
      · exact ⟨n % b, Nat.mod_lt n (by omega), h⟩

theorem Text.isBlank_of_isDigit {c : Char} (h : c.isDigit = true) : isBlank c = false := by
  have hbounds := bounds_of_isDigit h
  simp only [isBlank, inRanges, blankRanges, List.any_cons, List.any_nil, Bool.or_false,
    Bool.or_eq_false_iff, Bool.and_eq_false_iff, decide_eq_false_iff_not]
  omega

variable {ds : List Char}

theorem map_toLower_of_digits (h : ∀ c ∈ ds, c.isDigit = true) : ds.map Char.toLower = ds := by
  rw [List.map_congr_left, List.map_id']
  intro c hc
  have hbounds := bounds_of_isDigit (h c hc)
  apply Text.toLower_of_not_upper
  omega

namespace Decimal

theorem natOfDigits_eq (ds : List Char) : natOfDigits ds = Nat.ofDigitChars 10 ds 0 := by
  rw [natOfDigits, Nat.ofDigitChars]
  simp only [Nat.mul_comm]

theorem natOfDigits_toDigits (n : Nat) : natOfDigits (Nat.toDigits 10 n) = n := by
  rw [natOfDigits_eq, Nat.ofDigitChars_ten_toDigits]

theorem toBinary64_whole (negative : Bool) (n : Nat) :
    toBinary64 ⟨negative, n, 0⟩ = .ofQuotient negative (n * Binary64.quantaPerUnit) 1 := by
  by_cases hzero : n = 0
  · rw [hzero, Nat.zero_mul, Binary64.ofQuotient_zero]
    rfl
  · simp only [toBinary64, hzero, ↓reduceIte]
    rw [if_neg (by simp [exponentLimit]), if_neg (by omega)]
    simp

theorem spanDigits_of_digits (h : ∀ c ∈ ds, c.isDigit = true) : spanDigits ds = (ds, []) := by
  rw [spanDigits, List.span_eq_takeWhile_dropWhile, List.takeWhile_eq_self_iff.2 h,
    List.dropWhile_eq_nil_iff.2 h]

theorem spanSign_of_digits (h : ∀ c ∈ ds, c.isDigit = true) : spanSign ds = (false, ds) := by
  unfold spanSign
  split
  · exact absurd (h '-' (by simp)) (by decide)
  · exact absurd (h '+' (by simp)) (by decide)
  · rfl

theorem ofUnsigned?_digits (hne : ds ≠ []) (h : ∀ c ∈ ds, c.isDigit = true) (negative : Bool) :
    ofUnsigned? negative ds = some ⟨negative, natOfDigits ds, 0⟩ := by
  have hfull : ds.isEmpty = false := by simpa using hne
  simp [ofUnsigned?, spanDigits_of_digits h, hfull, exponentOf?]

inductive Writes : List Char → Int → Prop where
  | digits {ds : List Char} (hne : ds ≠ []) (h : ∀ c ∈ ds, c.isDigit = true) :
    Writes ds (Nat.ofDigitChars 10 ds 0)
  | minus {ds : List Char} (hne : ds ≠ []) (h : ∀ c ∈ ds, c.isDigit = true) :
    Writes ('-' :: ds) (-Nat.ofDigitChars 10 ds 0)

end Decimal

namespace Binary64

theorem ofText?_of_sign {s : List Char} {negative : Bool}
    (hsign : Decimal.spanSign s = (negative, ds)) (hne : ds ≠ []) (h : ∀ c ∈ ds, c.isDigit = true) :
    ofText? s = some (ofQuotient negative (Decimal.natOfDigits ds * quantaPerUnit) 1) := by
  -- each of the words for numbers has an `n`
  have hword : ∀ w : List Char, 'n' ∈ w → ds ≠ w := by
    rintro w hn rfl
    exact absurd (h 'n' hn) (by decide)
  have hinf : ¬ (ds = "inf".toList ∨ ds = "infinity".toList) := by
    rintro (he | he)
    · exact hword _ (by decide) he
    · exact hword _ (by decide) he
  have hnan : ds ≠ "nan".toList := hword _ (by decide)
  simp only [ofText?, hsign, map_toLower_of_digits h, hinf, hnan, ↓reduceIte,
    Decimal.ofUnsigned?_digits hne h, Option.map_some, Decimal.toBinary64_whole]

theorem ofText?_digits (hne : ds ≠ []) (h : ∀ c ∈ ds, c.isDigit = true) :
    ofText? ds = some (ofNat (Decimal.natOfDigits ds)) :=
  ofText?_of_sign (Decimal.spanSign_of_digits h) hne h

/-- A whole number is read as the number nearest to it; only zero may have another sign. -/
theorem ofText?_of_writes {s : List Char} {n : Int} (h : Decimal.Writes s n) :
    ∃ x, ofText? s = some x ∧ x.rank? = some (wholePlace n) := by
  cases h with
  | digits hne h =>
    refine ⟨_, ofText?_digits hne h, ?_⟩
    rw [Decimal.natOfDigits_eq, ← ofInt_natCast, rank?_ofInt]
  | @minus ds hne h =>
    refine ⟨_, ofText?_of_sign rfl hne h, ?_⟩
    rw [Decimal.natOfDigits_eq]
    generalize Nat.ofDigitChars 10 ds 0 = n
    by_cases hn : n = 0
    · rw [hn, Nat.zero_mul, ofQuotient_zero, Int.natCast_zero, Int.neg_zero, wholePlace_zero]
      rfl
    · rw [rank?_ofQuotient, wholePlace, Int.natAbs_neg, Int.natAbs_natCast, if_pos rfl,
        if_pos (by omega)]

end Binary64

end BoardFilter
