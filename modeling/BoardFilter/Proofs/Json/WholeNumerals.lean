import BoardFilter.Json.Numeral
import BoardFilter.Proofs.Number.Numeral

/-!
# Numerals of whole numbers

The digits of a number that fits in 64 bits are gathered to the last one, so it is read back as
itself. No numeral stands for a whole number beyond that.
-/

namespace BoardFilter.Json

open Decimal (natOfDigits spanDigits)

def appended (n : Nat) (ds : List Char) : Nat :=
  ds.foldl (fun n c => n * 10 + (c.toNat - '0'.toNat)) n

theorem le_appended (n : Nat) (ds : List Char) : n ≤ appended n ds := by
  induction ds generalizing n with
  | nil => exact Nat.le_refl n
  | cons c r ih =>
    have hstep : n * 10 + (c.toNat - '0'.toNat) ≤ appended n (c :: r) := ih _
    omega

theorem gather_of_appended_lt {n : Nat} {ds : List Char} (h : appended n ds < wordLimit) :
    gather n ds = (appended n ds, []) := by
  induction ds generalizing n with
  | nil => rfl
  | cons c r ih =>
    have hrest : appended (n * 10 + (c.toNat - '0'.toNat)) r < wordLimit := h
    have hnext := Nat.lt_of_le_of_lt (le_appended _ r) hrest
    rw [gather]
    simp only [if_pos hnext]
    exact ih hrest

theorem gather_lt {n : Nat} (h : n < wordLimit) (ds : List Char) : (gather n ds).1 < wordLimit := by
  induction ds generalizing n with
  | nil => exact h
  | cons c r ih =>
    rw [gather]
    split
    · next hnext => exact ih hnext
    · exact h

def IsWord (n : Int) : Prop := -0x8000000000000000 ≤ n ∧ n < 0x10000000000000000

theorem wholeOf?_false (n : Nat) : wholeOf? false n = some (.int n) := rfl

theorem wholeOf?_true {n : Nat} (hpos : 0 < n) (h : n ≤ 0x8000000000000000) :
    wholeOf? true n = some (.int (-(n : Int))) := by
  have hfits : ¬ (n = 0 ∨ 0x8000000000000000 < n) := by omega
  rw [wholeOf?, Bool.not_true, if_neg Bool.false_ne_true, if_neg hfits]

theorem exists_cons_toDigits (n : Nat) :
    ∃ c r, Nat.toDigits 10 n = c :: r ∧ c.isDigit = true := by
  obtain ⟨c, r, hr⟩ := List.exists_cons_of_ne_nil (Nat.toDigits_ne_nil (n := n) (b := 10))
  refine ⟨c, r, hr, isDigit_of_mem_toDigits (n := n) ?_⟩
  rw [hr]
  exact List.mem_cons_self

theorem head?_toDigits_ne {n : Nat} (h : 0 < n) : (Nat.toDigits 10 n).head? ≠ some '0' := by
  induction n using Nat.strong_induction_on with
  | _ n ih =>
    by_cases hlt : n < 10
    · have hdigit : ∀ k < 10, 0 < k → Nat.digitChar k ≠ '0' := by decide
      rw [Nat.toDigits_of_lt_base hlt, List.head?_cons]
      exact fun heq => hdigit n hlt h (Option.some.inj heq)
    · have hrest := ih (n / 10) (by omega) (by omega)
      obtain ⟨d, ds, hds, -⟩ := exists_cons_toDigits (n / 10)
      rw [Nat.toDigits_of_base_le (by decide) (Nat.not_lt.1 hlt), hds]
      rwa [hds] at hrest

def EndsNumeral (r : List Char) : Prop :=
  ∀ c ∈ r.head?, c.isDigit = false ∧ c ≠ '.' ∧ c ≠ 'e' ∧ c ≠ 'E'

theorem spanDigits_append {ds r : List Char} (h : ∀ c ∈ ds, c.isDigit = true)
    (hr : ∀ c ∈ r.head?, c.isDigit = false) : spanDigits (ds ++ r) = (ds, r) := by
  rw [spanDigits, List.span_eq_takeWhile_dropWhile, List.takeWhile_append_of_pos h,
    List.dropWhile_append_of_pos h]
  cases r with
  | nil => simp
  | cons c r => simp [hr c rfl]

theorem readUnsigned?_toDigits (negative : Bool) {n : Nat} (hn : n < wordLimit) {r : List Char}
    (hr : EndsNumeral r) :
    readUnsigned? negative (Nat.toDigits 10 n ++ r) = (wholeOf? negative n).map (·, r) := by
  have hspan : spanDigits (Nat.toDigits 10 n ++ r) = (Nat.toDigits 10 n, r) :=
    spanDigits_append (fun c hc => isDigit_of_mem_toDigits hc) fun c hc => (hr c hc).1
  have hfull : ((Nat.toDigits 10 n).isEmpty || ((Nat.toDigits 10 n).length ≠ 1 &&
      (Nat.toDigits 10 n).head? = some '0')) = false := by
    rw [List.isEmpty_eq_false_iff.2 Nat.toDigits_ne_nil, Bool.false_or, Bool.and_eq_false_iff]
    rcases Nat.eq_zero_or_pos n with rfl | hpos
    · exact .inl (by decide)
    · exact .inr (by simpa using head?_toDigits_ne hpos)
  have hgather : gather 0 (Nat.toDigits 10 n) = (n, []) := by
    have hvalue : appended 0 (Nat.toDigits 10 n) = n := Decimal.natOfDigits_toDigits n
    rw [gather_of_appended_lt (by rwa [hvalue]), hvalue]
  rw [readUnsigned?, hspan]
  simp only [hfull, hgather, Bool.false_eq_true, ↓reduceIte, List.isEmpty_nil]
  split
  · exact absurd rfl (hr '.' rfl).2.1
  · next c rest _ =>
    have hnoexp : ¬ (c = 'e' ∨ c = 'E') := by
      rintro (he | he)
      · exact (hr c rfl).2.2.1 he
      · exact (hr c rfl).2.2.2 he
    rw [if_neg hnoexp]
  · rfl

theorem toList_toString_ofNat (m : Nat) : (toString (Int.ofNat m)).toList = Nat.toDigits 10 m := by
  rw [← Nat.toList_repr]
  rfl

theorem toList_toString_negSucc (m : Nat) :
    (toString (Int.negSucc m)).toList = '-' :: Nat.toDigits 10 (m + 1) := by
  have hneg : toString (Int.negSucc m) = "-" ++ (m + 1).repr := rfl
  rw [hneg, String.toList_append, Nat.toList_repr]
  rfl

def BeginsNumeral (c : Char) : Prop := c.isDigit = true ∨ c = '-'

theorem exists_cons_toString (n : Int) :
    ∃ c r, (toString n).toList = c :: r ∧ BeginsNumeral c := by
  cases n with
  | ofNat m =>
    obtain ⟨c, r, hr, hc⟩ := exists_cons_toDigits m
    exact ⟨c, r, (toList_toString_ofNat m).trans hr, .inl hc⟩
  | negSucc m => exact ⟨'-', _, toList_toString_negSucc m, .inr rfl⟩

theorem BeginsNumeral.ne {c d : Char} (h : BeginsNumeral c) (hdigit : d.isDigit = false)
    (hsign : d ≠ '-') : c ≠ d := by
  rintro rfl
  rcases h with h | h
  · rw [hdigit] at h
    cases h
  · exact hsign h

theorem readNumeral?_of_digit {c : Char} (hc : c.isDigit = true) (r : List Char) :
    readNumeral? (c :: r) = readUnsigned? false (c :: r) := by
  rw [readNumeral?]
  rintro rest heq
  cases heq
  exact absurd hc (by decide)

theorem readNumeral?_int {n : Int} (hn : IsWord n) {r : List Char} (hr : EndsNumeral r) :
    readNumeral? ((toString n).toList ++ r) = some (.int n, r) := by
  obtain ⟨hlow, hhigh⟩ := hn
  cases n with
  | ofNat m =>
    have hread := readUnsigned?_toDigits false (n := m) (Int.ofNat_lt.1 hhigh) hr
    obtain ⟨c, ds, hds, hc⟩ := exists_cons_toDigits m
    rw [toList_toString_ofNat]
    rw [hds, List.cons_append] at hread ⊢
    rw [readNumeral?_of_digit hc, hread, wholeOf?_false]
    rfl
  | negSucc m =>
    have hm : m + 1 ≤ 0x8000000000000000 := by omega
    have hread := readUnsigned?_toDigits true (n := m + 1) (by unfold wordLimit; omega) hr
    rw [toList_toString_negSucc, List.cons_append, readNumeral?, hread,
      wholeOf?_true (Nat.succ_pos m) hm]
    rfl

inductive IsNumber : Json → Prop
  | int {n : Int} (h : IsWord n) : IsNumber (.int n)
  | float (x : Binary64) : IsNumber (.float x)

theorem of_map_pair {o : Option Json} {s r : List Char} {v : Json}
    (h : o.map (·, s) = some (v, r)) : o = some v := by
  obtain ⟨w, hw, heq⟩ := Option.map_eq_some_iff.1 h
  cases heq
  exact hw

theorem isNumber_floatOf? {negative : Bool} {significand : Nat} {exponent : Int} {v : Json}
    (h : floatOf? negative significand exponent = some v) : IsNumber v := by
  unfold floatOf? at h
  split at h
  · cases h
    exact .float _
  · obtain ⟨x, -, rfl⟩ := Option.map_eq_some_iff.1 h
    exact .float _

theorem isNumber_wholeOf? {negative : Bool} {significand : Nat} {v : Json}
    (hlt : significand < wordLimit) (h : wholeOf? negative significand = some v) : IsNumber v := by
  unfold wordLimit at hlt
  unfold wholeOf? at h
  split at h
  · cases h
    exact .int ⟨by omega, by omega⟩
  split at h
  · exact isNumber_floatOf? h
  · cases h
    exact .int ⟨by omega, by omega⟩

theorem isNumber_readExponent? {negative : Bool} {significand : Nat} {exponent : Int}
    {s r : List Char} {v : Json} (h : readExponent? negative significand exponent s = some (v, r)) :
    IsNumber v := by
  unfold readExponent? at h
  split at h
  · split at h
    · dsimp only at h
      split at h
      · cases h
      · exact isNumber_floatOf? (of_map_pair h)
    · exact isNumber_floatOf? (of_map_pair h)
  · exact isNumber_floatOf? (of_map_pair h)

theorem isNumber_readUnsigned? {negative : Bool} {s r : List Char} {v : Json}
    (h : readUnsigned? negative s = some (v, r)) : IsNumber v := by
  have hlt : (gather 0 (spanDigits s).1).1 < wordLimit := gather_lt (by decide) _
  unfold readUnsigned? at h
  simp only at h
  split at h
  · cases h
  split at h
  · split at h
    · cases h
    · exact isNumber_readExponent? h
  · split at h
    · exact isNumber_readExponent? h
    split at h
    · exact isNumber_wholeOf? hlt (of_map_pair h)
    · exact isNumber_floatOf? (of_map_pair h)
  · split at h
    · exact isNumber_wholeOf? hlt (of_map_pair h)
    · exact isNumber_floatOf? (of_map_pair h)

theorem isNumber_readNumeral? {s r : List Char} {v : Json} (h : readNumeral? s = some (v, r)) :
    IsNumber v := by
  unfold readNumeral? at h
  split at h <;> exact isNumber_readUnsigned? h

end BoardFilter.Json
