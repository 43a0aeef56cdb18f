import BoardFilter.Line
import Mathlib.Data.List.DropRight
import Mathlib.Data.List.TakeWhile

/-!
# The normal form of a line

Lower-casing a text twice is lower-casing it once, for every text: no mapping of the case table
leads to a character that has a mapping itself, and none leads to a blank character. Trimming
therefore stays done when the text is lower-cased, and the normal form of a line is its own normal
form.
-/

namespace BoardFilter.Text

theorem toNat_ofNat {n : Nat} (h : n.isValidChar) : (Char.ofNat n).toNat = n := by
  rw [Char.ofNat, dif_pos h]
  rfl

namespace CaseRange

def imageFirst (r : CaseRange) : Nat := (r.first + r.offset).toNat

def imageLast (r : CaseRange) : Nat := (r.last + r.offset).toNat

def avoids (r q : CaseRange) : Bool :=
  Nat.blt r.imageLast q.first || Nat.blt q.last r.imageFirst ||
    (Nat.beq q.step 2 && Nat.beq ((r.imageFirst + q.first) % 2) 1 &&
      (Nat.beq r.step 2 || Nat.beq r.imageFirst r.imageLast))

def isPlain (r : CaseRange) : Bool :=
  (Nat.beq r.step 1 || Nat.beq r.step 2) && decide (0 ≤ r.first + r.offset) &&
    (Nat.blt r.imageLast 0xD800 || (Nat.blt 0xDFFF r.imageFirst && Nat.blt r.imageLast 0x110000)) &&
    (Nat.blt r.imageLast 0x130 || Nat.blt 0x130 r.imageFirst) &&
    blankRanges.all fun b => Nat.blt r.imageLast b.1 || Nat.blt b.2 r.imageFirst

theorem offset?_eq_some {r : CaseRange} {code : Nat} {offset : Int}
    (h : r.offset? code = some offset) :
    r.first ≤ code ∧ code ≤ r.last ∧ (code - r.first) % r.step = 0 ∧ offset = r.offset := by
  unfold offset? at h
  split at h
  · next hc => exact ⟨hc.1, hc.2.1, hc.2.2, (Option.some.inj h).symm⟩
  · exact absurd h (by simp)

theorem image_bounds {r : CaseRange} (hr : r.isPlain = true) {code : Nat} {offset : Int}
    (h : r.offset? code = some offset) :
    r.imageFirst ≤ (code + offset).toNat ∧ (code + offset).toNat ≤ r.imageLast ∧
      (r.step = 2 → ((code + offset).toNat - r.imageFirst) % 2 = 0) := by
  obtain ⟨hlow, hhigh, hstep, rfl⟩ := offset?_eq_some h
  simp only [isPlain, Bool.and_eq_true, decide_eq_true_eq] at hr
  have hpos : 0 ≤ (r.first : Int) + r.offset := hr.1.1.1.2
  unfold imageFirst imageLast
  refine ⟨by omega, by omega, fun h2 => ?_⟩
  rw [h2] at hstep
  omega

theorem offset?_image {r q : CaseRange} (hr : r.isPlain = true) (hq : r.avoids q = true)
    {code : Nat} {offset : Int} (h : r.offset? code = some offset) :
    q.offset? (code + offset).toNat = none := by
  obtain ⟨hlow, hhigh, heven⟩ := image_bounds hr h
  simp only [avoids, Bool.or_eq_true, Bool.and_eq_true, Nat.blt_eq, Nat.beq_eq] at hq
  generalize (code + offset).toNat = image at hlow hhigh heven
  unfold offset?
  rw [if_neg]
  rintro ⟨hfirst, hlast, hstep⟩
  rcases hq with (hq | hq) | ⟨⟨h2, hodd⟩, hr2 | hone⟩
  · omega
  · omega
  · have := heven hr2
    rw [h2] at hstep
    omega
  · rw [h2] at hstep
    omega

end CaseRange

theorem lowerRanges_plain : lowerRanges.all CaseRange.isPlain = true := by decide +kernel

theorem lowerRanges_avoid :
    (lowerRanges.all fun r => lowerRanges.all r.avoids) = true := by decide +kernel

theorem image_facts {code : Nat} {offset : Int}
    (h : lowerRanges.findSome? (fun r => r.offset? code) = some offset) :
    (code + offset).toNat.isValidChar ∧ (code + offset).toNat ≠ 0x130 ∧
      inRanges blankRanges (code + offset).toNat = false ∧
      ∀ q ∈ lowerRanges, q.offset? (code + offset).toNat = none := by
  obtain ⟨r, hmem, hr⟩ := List.exists_of_findSome?_eq_some h
  have hplain := List.all_eq_true.1 lowerRanges_plain r hmem
  have havoid := List.all_eq_true.1 lowerRanges_avoid r hmem
  obtain ⟨hlow, hhigh, -⟩ := CaseRange.image_bounds hplain hr
  refine ⟨?_, ?_, ?_, fun q hq =>
    CaseRange.offset?_image hplain (List.all_eq_true.1 havoid q hq) hr⟩
  all_goals
    simp only [CaseRange.isPlain, Bool.and_eq_true, Bool.or_eq_true, Nat.blt_eq,
      List.all_eq_true] at hplain
  · have := hplain.1.1.2
    unfold Nat.isValidChar
    omega
  · have := hplain.1.2
    omega
  · rw [inRanges, List.any_eq_false]
    intro b hb
    have := hplain.2 b hb
    simp only [Bool.and_eq_true, decide_eq_true_eq]
    omega

/-- Lower-casing leaves the character alone, wherever it stands. -/
def IsLower (c : Char) : Prop := lowerChar c = c ∧ c ≠ 'Σ' ∧ c ≠ 'İ'

instance (c : Char) : Decidable (IsLower c) :=
  inferInstanceAs (Decidable (lowerChar c = c ∧ c ≠ 'Σ' ∧ c ≠ 'İ'))

theorem char_ne_of_toNat {c d : Char} (h : c.toNat ≠ d.toNat) : c ≠ d := fun e => h (e ▸ rfl)

theorem toNat_toLower (c : Char) :
    c.toLower.toNat = if 0x41 ≤ c.toNat ∧ c.toNat ≤ 0x5A then c.toNat + 32 else c.toNat := by
  have hiff : (c.val ≥ 'A'.val ∧ c.val ≤ 'Z'.val) ↔ (0x41 ≤ c.toNat ∧ c.toNat ≤ 0x5A) := by
    simp only [ge_iff_le, UInt32.le_iff_toNat_le, Char.toNat_val]
    rfl
  unfold Char.toLower
  by_cases h : c.val ≥ 'A'.val ∧ c.val ≤ 'Z'.val
  · rw [dif_pos h, if_pos (hiff.1 h)]
    have hbound : c.toNat ≤ 0x5A := (hiff.1 h).2
    change (c.val + 32).toNat = _
    rw [UInt32.toNat_add, Char.toNat_val]
    change (c.toNat + 32) % 2 ^ 32 = _
    omega
  · rw [dif_neg h, if_neg fun h' => h (hiff.2 h')]

theorem toLower_of_not_upper {c : Char} (h : ¬ (0x41 ≤ c.toNat ∧ c.toNat ≤ 0x5A)) :
    c.toLower = c := by
  apply Char.toNat_inj.1
  rw [toNat_toLower, if_neg h]

theorem isLower_of_ascii {c : Char} (hc : c.toNat < 0x80)
    (h : ¬ (0x41 ≤ c.toNat ∧ c.toNat ≤ 0x5A)) : IsLower c := by
  refine ⟨?_, char_ne_of_toNat (by change c.toNat ≠ 0x3A3; omega),
    char_ne_of_toNat (by change c.toNat ≠ 0x130; omega)⟩
  rw [lowerChar, if_pos hc, toLower_of_not_upper h]

theorem isLower_of_unmapped {c : Char} (hc : ¬ c.toNat < 0x80) (hdot : c ≠ 'İ')
    (h : lowerRanges.findSome? (fun r => r.offset? c.toNat) = none) : IsLower c := by
  refine ⟨by simp [lowerChar, hc, h], ?_, hdot⟩
  rintro rfl
  revert h
  decide +kernel

theorem isLower_lowerChar {c : Char} (hdot : c ≠ 'İ') : IsLower (lowerChar c) := by
  by_cases hascii : c.toNat < 0x80
  · have hval := toNat_toLower c
    rw [lowerChar, if_pos hascii]
    split at hval
    · exact isLower_of_ascii (by omega) (by omega)
    · exact isLower_of_ascii (by omega) (by omega)
  · cases h : lowerRanges.findSome? fun r => r.offset? c.toNat with
    | none =>
      have hself : lowerChar c = c := by simp [lowerChar, hascii, h]
      rw [hself]
      exact isLower_of_unmapped hascii hdot h
    | some offset =>
      obtain ⟨hvalid, hne, -, hnone⟩ := image_facts h
      have himage : lowerChar c = Char.ofNat (c.toNat + offset).toNat := by
        simp [lowerChar, hascii, h]
      have hcode := toNat_ofNat hvalid
      rw [himage]
      by_cases hlow : (c.toNat + offset).toNat < 0x80
      · have hcapital := hnone ⟨0x41, 0x5A, 1, 32⟩ (by decide)
        simp only [CaseRange.offset?, Nat.mod_one, and_true, ite_eq_right_iff,
          reduceCtorEq, imp_false] at hcapital
        exact isLower_of_ascii (by omega) (by omega)
      · refine isLower_of_unmapped (by omega) (char_ne_of_toNat (by rw [hcode]; exact hne)) ?_
        rw [hcode, List.findSome?_eq_none_iff]
        exact hnone

theorem isBlank_lowerChar {c : Char} (h : isBlank c = false) : isBlank (lowerChar c) = false := by
  by_cases hascii : c.toNat < 0x80
  · have hval := toNat_toLower c
    rw [lowerChar, if_pos hascii]
    split at hval
    · have hbounds : 0x61 ≤ c.toLower.toNat ∧ c.toLower.toNat ≤ 0x7A := by omega
      simp only [isBlank, inRanges, blankRanges, List.any_cons, List.any_nil, Bool.or_false,
        Bool.or_eq_false_iff, Bool.and_eq_false_iff, decide_eq_false_iff_not]
      omega
    · rwa [Char.toNat_inj.1 hval]
  · cases hmap : lowerRanges.findSome? fun r => r.offset? c.toNat with
    | none => simpa [lowerChar, hascii, hmap] using h
    | some offset =>
      obtain ⟨hvalid, -, hblank, -⟩ := image_facts hmap
      have himage : lowerChar c = Char.ofNat (c.toNat + offset).toNat := by
        simp [lowerChar, hascii, hmap]
      rw [himage, isBlank, toNat_ofNat hvalid]
      exact hblank

def lowerPiece (before : List Char) (c : Char) (after : List Char) : List Char :=
  if c = 'Σ' then [if startsCased before && !startsCased after then 'ς' else 'σ']
  else if c = 'İ' then ['i', '\u0307']
  else [lowerChar c]

theorem lowerAfter_cons (before : List Char) (c : Char) (r : List Char) :
    lowerAfter before (c :: r) = lowerPiece before c r ++ lowerAfter (c :: before) r := by
  unfold lowerPiece
  rw [lowerAfter]
  split
  · rfl
  split <;> rfl

theorem lowerPiece_ne_nil (before : List Char) (c : Char) (after : List Char) :
    lowerPiece before c after ≠ [] := by
  unfold lowerPiece
  split
  · simp
  split <;> simp

theorem mem_lowerPiece {before after : List Char} {c d : Char} (h : d ∈ lowerPiece before c after) :
    d ∈ ['ς', 'σ', 'i', '\u0307'] ∨ (c ≠ 'İ' ∧ d = lowerChar c) := by
  unfold lowerPiece at h
  split at h
  · split at h <;> exact Or.inl (by simp_all)
  split at h
  · exact Or.inl (by simp_all)
  · next hdot => exact Or.inr ⟨hdot, List.mem_singleton.1 h⟩

theorem isLower_of_mem_lowerPiece {before after : List Char} {c d : Char}
    (h : d ∈ lowerPiece before c after) : IsLower d := by
  have hsmall : ['ς', 'σ', 'i', '\u0307'].all (fun d => decide (IsLower d)) = true := by
    decide +kernel
  rcases mem_lowerPiece h with h | ⟨hdot, rfl⟩
  · exact of_decide_eq_true (List.all_eq_true.1 hsmall d h)
  · exact isLower_lowerChar hdot

theorem isBlank_of_mem_lowerPiece {before after : List Char} {c d : Char}
    (hc : isBlank c = false) (h : d ∈ lowerPiece before c after) : isBlank d = false := by
  have hsmall : ['ς', 'σ', 'i', '\u0307'].all (fun d => !isBlank d) = true := by decide
  rcases mem_lowerPiece h with h | ⟨-, rfl⟩
  · simpa using List.all_eq_true.1 hsmall d h
  · exact isBlank_lowerChar hc

theorem isLower_of_mem_lowerAfter {before s : List Char} {d : Char}
    (h : d ∈ lowerAfter before s) : IsLower d := by
  induction s generalizing before with
  | nil => exact absurd h (by simp [lowerAfter])
  | cons c r ih =>
    rw [lowerAfter_cons] at h
    rcases List.mem_append.1 h with h | h
    · exact isLower_of_mem_lowerPiece h
    · exact ih h

theorem lowerAfter_of_isLower {s : List Char} (h : ∀ c ∈ s, IsLower c) (before : List Char) :
    lowerAfter before s = s := by
  induction s generalizing before with
  | nil => rfl
  | cons c r ih =>
    obtain ⟨hfix, hsigma, hdot⟩ := h c (by simp)
    rw [lowerAfter_cons, ih fun d hd => h d (by simp [hd])]
    simp [lowerPiece, hsigma, hdot, hfix]

theorem lowered_lowered (s : List Char) : lowered (lowered s) = lowered s :=
  lowerAfter_of_isLower (fun _ h => isLower_of_mem_lowerAfter h) []

def HasCleanEnds (s : List Char) : Prop :=
  (∀ c ∈ s.head?, isBlank c = false) ∧ ∀ c ∈ s.getLast?, isBlank c = false

theorem dropWhile_of_head {p : Char → Bool} {s : List Char} (h : ∀ c ∈ s.head?, p c = false) :
    s.dropWhile p = s := by
  cases s with
  | nil => rfl
  | cons c r => rw [List.dropWhile_cons_of_neg (by simpa using h c rfl)]

theorem head_dropWhile {p : Char → Bool} {s : List Char} {c : Char}
    (h : c ∈ (s.dropWhile p).head?) : p c = false := by
  have hnot := List.head?_dropWhile_not p s
  rw [Option.mem_def.1 h] at hnot
  simpa using hnot

theorem dropEndWhile_eq_rdropWhile (p : Char → Bool) (s : List Char) :
    dropEndWhile p s = s.rdropWhile p := rfl

theorem dropEndWhile_of_getLast {p : Char → Bool} {s : List Char}
    (h : ∀ c ∈ s.getLast?, p c = false) : dropEndWhile p s = s := by
  rw [dropEndWhile_eq_rdropWhile, List.rdropWhile_eq_self_iff]
  intro hne
  simp [h _ (List.getLast?_eq_some_getLast hne)]

theorem hasCleanEnds_trimmed (s : List Char) : HasCleanEnds (trimmed s) := by
  have hlast : ∀ c ∈ (trimmed s).getLast?, isBlank c = false := by
    intro c hc
    rw [trimmed, dropEndWhile, List.getLast?_reverse] at hc
    exact head_dropWhile hc
  refine ⟨fun c hc => ?_, hlast⟩
  -- what is left after trimming the end begins where the text did
  obtain ⟨t, ht⟩ : trimmed s <+: s.dropWhile isBlank := by
    rw [trimmed, dropEndWhile_eq_rdropWhile]
    exact List.rdropWhile_prefix _ _
  apply head_dropWhile (s := s)
  rw [← ht, List.head?_append, Option.mem_def.1 hc]
  rfl

theorem trimmed_of_hasCleanEnds {s : List Char} (h : HasCleanEnds s) : trimmed s = s := by
  rw [trimmed, dropWhile_of_head h.1, dropEndWhile_of_getLast h.2]

theorem trimmed_eq_nil_iff {s : List Char} : trimmed s = [] ↔ s.all isBlank = true := by
  rw [trimmed, dropEndWhile_eq_rdropWhile, List.rdropWhile_eq_nil_iff, List.all_eq_true]
  constructor
  · intro h c hc
    by_contra hblank
    -- the first character that is no blank would be left
    have hne : s.dropWhile isBlank ≠ [] := fun e =>
      hblank (List.dropWhile_eq_nil_iff.1 e c hc)
    have hhead := List.head_dropWhile_not isBlank hne
    have := h _ (List.head_mem hne)
    simp_all
  · intro h c hc
    exact h c (List.dropWhile_subset _ hc)

theorem head?_lowerAfter {before s : List Char} (h : ∀ c ∈ s.head?, isBlank c = false) :
    ∀ d ∈ (lowerAfter before s).head?, isBlank d = false := by
  cases s with
  | nil => simp [lowerAfter]
  | cons c r =>
    intro d hd
    have hne := lowerPiece_ne_nil before c r
    rw [lowerAfter_cons, List.head?_append, List.head?_eq_some_head hne, Option.some_or] at hd
    rw [← Option.some.inj hd]
    exact isBlank_of_mem_lowerPiece (h c rfl) (List.head_mem hne)

theorem getLast?_lowerAfter {before s : List Char} (h : ∀ c ∈ s.getLast?, isBlank c = false) :
    ∀ d ∈ (lowerAfter before s).getLast?, isBlank d = false := by
  induction s generalizing before with
  | nil => simp [lowerAfter]
  | cons c r ih =>
    intro d hd
    rw [lowerAfter_cons, List.getLast?_append] at hd
    cases r with
    | nil =>
      simp only [lowerAfter, List.getLast?_nil, Option.none_or] at hd
      exact isBlank_of_mem_lowerPiece (h c rfl) (List.mem_of_getLast? hd)
    | cons e r =>
      have hrest := @ih (c :: before) (by simpa using h)
      rw [lowerAfter_cons] at hd hrest
      obtain ⟨last, hlast⟩ : ∃ last, (lowerPiece (c :: before) e r ++
          lowerAfter (e :: c :: before) r).getLast? = some last :=
        Option.isSome_iff_exists.1 (by simp [lowerPiece_ne_nil])
      rw [hlast, Option.some_or] at hd
      exact hrest d (hlast.trans hd)

theorem hasCleanEnds_lowered {s : List Char} (h : HasCleanEnds s) : HasCleanEnds (lowered s) :=
  ⟨head?_lowerAfter h.1, getLast?_lowerAfter h.2⟩

theorem lowered_eq_nil_iff {s : List Char} : lowered s = [] ↔ s = [] := by
  cases s with
  | nil => simp [lowered, lowerAfter]
  | cons c r => simp [lowered, lowerAfter_cons, lowerPiece_ne_nil]

end BoardFilter.Text

namespace BoardFilter.Line

open Text

theorem toList_normalize (t : String) : (normalize t).toList = lowered (trimmed t.toList) := by
  simp [normalize, lowercase, trim]

/-- The normal form of a line is its own normal form. -/
theorem normalize_normalize (t : String) : normalize (normalize t) = normalize t := by
  apply String.toList_injective
  have hclean := hasCleanEnds_lowered (hasCleanEnds_trimmed t.toList)
  rw [toList_normalize, toList_normalize, trimmed_of_hasCleanEnds hclean, lowered_lowered]

theorem normalize_eq_empty_iff {t : String} : normalize t = "" ↔ isBlankText t = true := by
  rw [← String.toList_inj, toList_normalize, isBlankText, ← trimmed_eq_nil_iff]
  exact lowered_eq_nil_iff

end BoardFilter.Line
