import BoardFilter.Proofs.Number.Numeral
import BoardFilter.Proofs.Text.AsciiCase

/-!
# Numerals in any case

A numeral is the same number in capitals and in small letters, and but for digits, signs, a point
and the letters of its exponent or its word there is nothing in it. So lower-casing a text neither
makes a number of it nor takes one away.
-/

namespace BoardFilter

namespace Text

theorem toLower_eq_iff {mark c : Char} (h : mark.toNat < 0x41) : c.toLower = mark ↔ c = mark := by
  have hcode := toNat_toLower c
  constructor
  · rintro rfl
    exact (toLower_of_not_upper (by split at hcode <;> omega)).symm
  · rintro rfl
    exact toLower_of_not_upper (by omega)

theorem isDigit_toLower (c : Char) : c.toLower.isDigit = c.isDigit := by
  by_cases h : 0x41 ≤ c.toNat ∧ c.toNat ≤ 0x5A
  · have hcode := toNat_toLower c
    rw [if_pos h] at hcode
    have hnone : ∀ d : Char, 0x41 ≤ d.toNat → d.isDigit = false := fun d hd => by
      rw [← Bool.not_eq_true]
      intro hdigit
      have := bounds_of_isDigit hdigit
      omega
    rw [hnone c h.1, hnone c.toLower (by omega)]
  · rw [toLower_of_not_upper h]

end Text

namespace Decimal

theorem spanSign_of_unsigned {c : Char} (hminus : c ≠ '-') (hplus : c ≠ '+') (r : List Char) :
    spanSign (c :: r) = (false, c :: r) := by
  unfold spanSign
  split <;> simp_all

theorem spanSign_map_toLower (s : List Char) :
    spanSign (s.map Char.toLower) = ((spanSign s).1, (spanSign s).2.map Char.toLower) := by
  rcases s with _ | ⟨c, r⟩
  · rfl
  by_cases hminus : c = '-'
  · rw [hminus]
    rfl
  by_cases hplus : c = '+'
  · rw [hplus]
    rfl
  rw [spanSign_of_unsigned hminus hplus, List.map_cons, spanSign_of_unsigned]
  · exact mt (Text.toLower_eq_iff (by decide)).1 hminus
  · exact mt (Text.toLower_eq_iff (by decide)).1 hplus

theorem spanDigits_map_toLower (s : List Char) :
    spanDigits (s.map Char.toLower) = ((spanDigits s).1, (spanDigits s).2.map Char.toLower) := by
  have hsame : Char.isDigit ∘ Char.toLower = Char.isDigit := funext Text.isDigit_toLower
  rw [spanDigits, spanDigits, List.span_eq_takeWhile_dropWhile, List.span_eq_takeWhile_dropWhile,
    List.takeWhile_map, List.dropWhile_map, hsame,
    map_toLower_of_digits fun c hc => List.mem_takeWhile_imp hc]

theorem isExponentMark_toLower (c : Char) :
    (c.toLower = 'e' ∨ c.toLower = 'E') ↔ (c = 'e' ∨ c = 'E') := by
  have hcode := Text.toNat_toLower c
  simp only [← Char.toNat_inj]
  change (_ = 0x65 ∨ _ = 0x45) ↔ (_ = 0x65 ∨ _ = 0x45)
  split at hcode <;> omega

theorem exponentOf?_map_toLower (s : List Char) :
    exponentOf? (s.map Char.toLower) = exponentOf? s := by
  rcases s with _ | ⟨c, r⟩
  · rfl
  rw [List.map_cons, exponentOf?, exponentOf?, spanSign_map_toLower]
  generalize spanSign r = parts
  obtain ⟨negative, r⟩ := parts
  have hall : (r.map Char.toLower).all Char.isDigit = r.all Char.isDigit := by
    rw [List.all_map]
    exact congrArg r.all (funext Text.isDigit_toLower)
  simp only [isExponentMark_toLower, List.isEmpty_map, hall]
  split
  · split
    · rfl
    · next hdigits =>
      rw [map_toLower_of_digits (by simp_all)]
  · rfl

def afterPoint : List Char → List Char × List Char
  | '.' :: r => spanDigits r
  | r => ([], r)

theorem afterPoint_of_no_point {r : List Char} (h : ∀ rest, r = '.' :: rest → False) :
    afterPoint r = ([], r) := by
  unfold afterPoint
  split
  · exact absurd rfl (h _)
  · rfl

theorem ofUnsigned?_eq (negative : Bool) (s : List Char) :
    ofUnsigned? negative s =
      if (spanDigits s).1.isEmpty && (afterPoint (spanDigits s).2).1.isEmpty then none
      else (exponentOf? (afterPoint (spanDigits s).2).2).map fun e =>
        ⟨negative, natOfDigits ((spanDigits s).1 ++ (afterPoint (spanDigits s).2).1),
          e - (afterPoint (spanDigits s).2).1.length⟩ := by
  rw [ofUnsigned?]
  generalize spanDigits s = parts
  obtain ⟨whole, r⟩ := parts
  dsimp only
  split
  · rfl
  · next hnone => rw [afterPoint_of_no_point hnone]

theorem afterPoint_map_toLower (s : List Char) :
    afterPoint (s.map Char.toLower) = ((afterPoint s).1, (afterPoint s).2.map Char.toLower) := by
  rcases s with _ | ⟨c, r⟩
  · rfl
  by_cases hpoint : c = '.'
  · rw [hpoint]
    exact spanDigits_map_toLower r
  have hlower : c.toLower ≠ '.' := mt (Text.toLower_eq_iff (by decide)).1 hpoint
  rw [List.map_cons, afterPoint_of_no_point fun _ h => hpoint (List.cons.inj h).1,
    afterPoint_of_no_point fun _ h => hlower (List.cons.inj h).1, List.map_cons]

theorem ofUnsigned?_map_toLower (negative : Bool) (s : List Char) :
    ofUnsigned? negative (s.map Char.toLower) = ofUnsigned? negative s := by
  simp only [ofUnsigned?_eq, spanDigits_map_toLower, afterPoint_map_toLower,
    exponentOf?_map_toLower]

variable {c : Char} {s : List Char}

theorem mem_spanSign (h : c ∈ s) : (c = '+' ∨ c = '-') ∨ c ∈ (spanSign s).2 := by
  unfold spanSign
  split
  · exact (List.mem_cons.1 h).imp_left .inr
  · exact (List.mem_cons.1 h).imp_left .inl
  · exact .inr h

theorem mem_spanDigits (h : c ∈ s) : c.isDigit = true ∨ c ∈ (spanDigits s).2 := by
  rw [← List.takeWhile_append_dropWhile (p := Char.isDigit) (l := s)] at h
  rw [spanDigits, List.span_eq_takeWhile_dropWhile]
  exact (List.mem_append.1 h).imp_left List.mem_takeWhile_imp

def IsNumeral (c : Char) : Prop := c.isDigit = true ∨ c.toLower ∈ "+-.einfty".toList

theorem IsNumeral.ascii (h : IsNumeral c) : c.toNat < 0x80 ∧ c ≠ 'k' := by
  have hcode := Text.toNat_toLower c
  rcases h with h | h
  · have := bounds_of_isDigit h
    exact ⟨by omega, Text.char_ne_of_toNat (by change c.toNat ≠ 0x6B; omega)⟩
  · have hword : ∀ d ∈ "+-.einfty".toList, d.toNat < 0x80 ∧ d ≠ 'k' :=
      List.all_iff_forall_prop.1 (by decide)
    obtain ⟨hascii, hk⟩ := hword _ h
    refine ⟨by split at hcode <;> omega, ?_⟩
    rintro rfl
    exact hk rfl

theorem mem_exponentOf? {e : Int} (h : exponentOf? s = some e) (hc : c ∈ s) : IsNumeral c := by
  rcases s with _ | ⟨mark, r⟩
  · cases hc
  rw [exponentOf?] at h
  split at h
  · next hmark =>
    rcases List.mem_cons.1 hc with rfl | hc
    · rcases hmark with rfl | rfl <;> exact .inr (by decide)
    rcases mem_spanSign hc with (rfl | rfl) | hc
    · exact .inr (by decide)
    · exact .inr (by decide)
    · dsimp only at h
      split at h
      · cases h
      · next hdigits => exact .inl (by simp_all)
  · cases h

theorem mem_afterPoint (h : c ∈ s) : IsNumeral c ∨ c ∈ (afterPoint s).2 := by
  unfold afterPoint
  split
  · rcases List.mem_cons.1 h with rfl | h
    · exact .inl (.inr (by decide))
    · exact (mem_spanDigits h).imp_left .inl
  · exact .inr h

theorem mem_ofUnsigned? {negative : Bool} {d : Decimal} (h : ofUnsigned? negative s = some d)
    (hc : c ∈ s) : IsNumeral c := by
  rw [ofUnsigned?_eq] at h
  split at h
  · cases h
  obtain ⟨e, he, -⟩ := Option.map_eq_some_iff.1 h
  rcases mem_spanDigits hc with hdigit | hc
  · exact .inl hdigit
  · exact (mem_afterPoint hc).elim id (mem_exponentOf? he)

end Decimal

namespace Binary64

open Decimal

theorem ofText?_map_toLower (s : List Char) : ofText? (s.map Char.toLower) = ofText? s := by
  have htwice : ∀ r : List Char, (r.map Char.toLower).map Char.toLower = r.map Char.toLower :=
    fun r => by
      rw [List.map_map]
      exact List.map_congr_left fun c _ => Text.toLower_toLower c
  simp only [ofText?, spanSign_map_toLower, htwice, ofUnsigned?_map_toLower]

theorem mem_ofText? {c : Char} {s : List Char} {x : Binary64} (h : ofText? s = some x)
    (hnumber : x.isNaN = false) (hc : c ∈ s) : IsNumeral c := by
  rcases mem_spanSign hc with (rfl | rfl) | hc
  · exact .inr (by decide)
  · exact .inr (by decide)
  unfold ofText? at h
  generalize spanSign s = parts at h hc
  obtain ⟨negative, r⟩ := parts
  dsimp only at h hc
  have hlower : c.toLower ∈ r.map Char.toLower := List.mem_map_of_mem hc
  split at h
  · next hword =>
    have hletters : "inf".toList ⊆ "+-.einfty".toList ∧ "infinity".toList ⊆ "+-.einfty".toList := by
      decide
    rcases hword with hword | hword <;> rw [hword] at hlower
    · exact .inr (hletters.1 hlower)
    · exact .inr (hletters.2 hlower)
  split at h
  · cases h
    cases hnumber
  · obtain ⟨d, hd, -⟩ := Option.map_eq_some_iff.1 h
    exact mem_ofUnsigned? hd hc

end Binary64

end BoardFilter
