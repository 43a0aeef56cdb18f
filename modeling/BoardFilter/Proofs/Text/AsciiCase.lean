import BoardFilter.Proofs.Clause.Splitting
import BoardFilter.Proofs.Text.NormalForm
import Mathlib.Data.Bool.AllAny

/-!
# Lower case and ASCII

Lower-casing all of Unicode and lower-casing only the ASCII letters agree on a text just if each of
its characters is an ASCII one or in lower case already. Signs and digits come from themselves only,
and apart from the sign of the kelvin, which becomes a `k`, no character becomes an ASCII one that
is not an ASCII one itself.
-/

namespace BoardFilter.Text

theorem lowerChar_of_ascii {c : Char} (h : c.toNat < 0x80) : lowerChar c = c.toLower := by
  rw [lowerChar, if_pos h]

theorem toLower_of_not_ascii {c : Char} (h : ¬ c.toNat < 0x80) : c.toLower = c :=
  toLower_of_not_upper (by omega)

theorem IsLower.toLower_eq {c : Char} (h : IsLower c) : c.toLower = c := by
  by_cases hascii : c.toNat < 0x80
  · rw [← lowerChar_of_ascii hascii, h.1]
  · exact toLower_of_not_ascii hascii

theorem toLower_toLower (c : Char) : c.toLower.toLower = c.toLower := by
  have hcode := toNat_toLower c
  apply toLower_of_not_upper
  split at hcode <;> omega

theorem lowerRanges_stay :
    (lowerRanges.all fun r => Nat.blt r.last 0x80 || Nat.blt 0x7F r.imageFirst ||
      (Nat.beq r.imageFirst 0x6B && Nat.beq r.imageLast 0x6B)) = true := by
  decide +kernel

theorem ascii_of_lowerChar {c : Char} (h : (lowerChar c).toNat < 0x80) (hk : lowerChar c ≠ 'k') :
    c.toNat < 0x80 := by
  by_contra hascii
  rw [lowerChar, if_neg hascii] at h hk
  cases hmap : lowerRanges.findSome? fun r => r.offset? c.toNat with
  | none =>
    simp only [hmap] at h
    exact hascii h
  | some offset =>
    obtain ⟨r, hmem, hr⟩ := List.exists_of_findSome?_eq_some hmap
    obtain ⟨hlow, hhigh, -⟩ :=
      CaseRange.image_bounds (List.all_eq_true.1 lowerRanges_plain r hmem) hr
    have hstay := List.all_eq_true.1 lowerRanges_stay r hmem
    simp only [hmap, toNat_ofNat (image_facts hmap).1] at h
    simp only [Bool.or_eq_true, Bool.and_eq_true, Nat.blt_eq, Nat.beq_eq] at hstay
    rcases hstay with (hstay | hstay) | ⟨hfirst, hlast⟩
    · have hin := (CaseRange.offset?_eq_some hr).2.1
      omega
    · omega
    · apply hk
      simp only [hmap]
      rw [show (c.toNat + offset).toNat = 0x6B by omega]

theorem eq_of_lowerChar {c : Char} (h : (lowerChar c).toNat < 0x41) : lowerChar c = c := by
  have hk : lowerChar c ≠ 'k' := char_ne_of_toNat (by change (lowerChar c).toNat ≠ 0x6B; omega)
  have hascii := ascii_of_lowerChar (by omega) hk
  rw [lowerChar_of_ascii hascii] at h ⊢
  have hcode := toNat_toLower c
  apply toLower_of_not_upper
  split at hcode <;> omega

variable {before s : List Char}

theorem lowerAfter_append_of_isLower {u : List Char} (h : ∀ c ∈ u, IsLower c)
    (before s : List Char) :
    lowerAfter before (u ++ s) = u ++ lowerAfter (u.reverse ++ before) s := by
  induction u generalizing before with
  | nil => rfl
  | cons c r ih =>
    obtain ⟨hfix, hsigma, hdot⟩ := h c (by simp)
    have hpiece : lowerPiece before c (r ++ s) = [c] := by simp [lowerPiece, hsigma, hdot, hfix]
    rw [List.cons_append, lowerAfter_cons, hpiece, ih fun d hd => h d (by simp [hd])]
    simp

theorem lowerPiece_of_mem {mark c : Char} {after : List Char} (hmark : mark.toNat < 0x41)
    (h : mark ∈ lowerPiece before c after) : c = mark ∧ lowerPiece before c after = [mark] := by
  have hsmall : ∀ d ∈ ['ς', 'σ', 'i', '\u0307'], ¬ d.toNat < 0x41 :=
    List.all_iff_forall_prop.1 (by decide)
  rcases mem_lowerPiece h with hmem | ⟨hdot, heq⟩
  · exact absurd hmark (hsmall mark hmem)
  · have hc : c = mark := by rw [heq, eq_of_lowerChar (heq ▸ hmark)]
    have hsigma : c ≠ 'Σ' := by
      rintro rfl
      exact absurd (hc ▸ hmark) (by decide)
    refine ⟨hc, ?_⟩
    rw [lowerPiece, if_neg hsigma, if_neg hdot, heq]

theorem prefix_of_prefix_lowerAfter {marks : List Char} (hmarks : ∀ c ∈ marks, c.toNat < 0x41)
    (h : marks <+: lowerAfter before s) : marks <+: s := by
  induction marks generalizing before s with
  | nil => exact List.nil_prefix
  | cons mark marks ih =>
    cases s with
    | nil => simp [lowerAfter] at h
    | cons c r =>
      rw [lowerAfter_cons] at h
      have hhead : mark ∈ lowerPiece before c r := by
        obtain ⟨d, piece, hpiece⟩ := List.exists_cons_of_ne_nil (lowerPiece_ne_nil before c r)
        rw [hpiece, List.cons_append, List.cons_prefix_cons] at h
        simp [hpiece, h.1]
      obtain ⟨rfl, hpiece⟩ := lowerPiece_of_mem (hmarks mark (by simp)) hhead
      rw [hpiece, List.singleton_append, List.cons_prefix_cons] at h
      exact List.cons_prefix_cons.2 ⟨rfl, ih (fun d hd => hmarks d (by simp [hd])) h.2⟩

theorem infix_of_infix_lowerAfter {marks : List Char} (hmarks : ∀ c ∈ marks, c.toNat < 0x41)
    (h : marks <:+: lowerAfter before s) : marks <:+: s := by
  rcases marks with _ | ⟨mark, marks⟩
  · exact List.nil_infix
  induction s generalizing before with
  | nil => simp [lowerAfter] at h
  | cons c r ih =>
    by_cases hmem : mark ∈ lowerPiece before c r
    · obtain ⟨-, hpiece⟩ := lowerPiece_of_mem (hmarks mark (by simp)) hmem
      have hcons : lowerAfter before (c :: r) = mark :: lowerAfter (c :: before) r := by
        rw [lowerAfter_cons, hpiece, List.singleton_append]
      rw [hcons, List.infix_cons_iff, ← hcons] at h
      rcases h with hpre | hrest
      · exact (prefix_of_prefix_lowerAfter hmarks hpre).isInfix
      · exact List.infix_cons (ih hrest)
    · rw [lowerAfter_cons, infix_append_of_not_mem hmem] at h
      exact List.infix_cons (ih h)

theorem mem_of_mem_lowerAfter {mark : Char} (hmark : mark.toNat < 0x41)
    (h : mark ∈ lowerAfter before s) : mark ∈ s := by
  have hmarks : ∀ c ∈ [mark], c.toNat < 0x41 := by simpa using hmark
  rw [← List.singleton_infix_iff] at h ⊢
  exact infix_of_infix_lowerAfter hmarks h

theorem isBlank_of_mem_lowerAfter (h : ∀ c ∈ s, isBlank c = false) {d : Char}
    (hd : d ∈ lowerAfter before s) : isBlank d = false := by
  induction s generalizing before with
  | nil => simp [lowerAfter] at hd
  | cons c r ih =>
    rw [lowerAfter_cons] at hd
    rcases List.mem_append.1 hd with hd | hd
    · exact isBlank_of_mem_lowerPiece (h c (by simp)) hd
    · exact ih (fun e he => h e (by simp [he])) hd

theorem ascii_of_lowerPiece {c : Char} {after : List Char}
    (h : ∀ d ∈ lowerPiece before c after, d.toNat < 0x80 ∧ d ≠ 'k') : c.toNat < 0x80 := by
  unfold lowerPiece at h
  split at h
  · split at h
    · exact absurd (h 'ς' (by simp)).1 (by decide)
    · exact absurd (h 'σ' (by simp)).1 (by decide)
  split at h
  · exact absurd (h '\u0307' (by simp)).1 (by decide)
  · obtain ⟨hascii, hk⟩ := h (lowerChar c) (by simp)
    exact ascii_of_lowerChar hascii hk

/-- A text is in ASCII if its lower case is, but for the sign of the kelvin. -/
theorem ascii_of_lowerAfter (h : ∀ d ∈ lowerAfter before s, d.toNat < 0x80 ∧ d ≠ 'k') :
    ∀ c ∈ s, c.toNat < 0x80 := by
  induction s generalizing before with
  | nil => simp
  | cons c r ih =>
    rw [lowerAfter_cons] at h
    exact List.forall_mem_cons.2
      ⟨ascii_of_lowerPiece fun d hd => h d (List.mem_append_left _ hd),
        ih fun d hd => h d (List.mem_append_right _ hd)⟩

theorem lowerPiece_append_eq_iff {c : Char} {after t u : List Char} :
    lowerPiece before c after ++ t = c.toLower :: u ↔ (c.toNat < 0x80 ∨ IsLower c) ∧ t = u := by
  unfold lowerPiece
  split
  · next hsigma =>
    rw [hsigma]
    refine iff_of_false (fun h => ?_) fun h => ?_
    · obtain ⟨hhead, -⟩ := List.cons.inj h
      split at hhead <;> exact absurd hhead (by decide)
    · rcases h.1 with hascii | hlower
      · exact absurd hascii (by decide)
      · exact hlower.2.1 rfl
  split
  · next hdot =>
    rw [hdot]
    refine iff_of_false (fun h => absurd (List.cons.inj h).1 (by decide)) fun h => ?_
    rcases h.1 with hascii | hlower
    · exact absurd hascii (by decide)
    · exact hlower.2.2 rfl
  · next hsigma hdot =>
    rw [List.singleton_append, List.cons.injEq]
    refine and_congr_left' ⟨fun h => ?_, fun h => ?_⟩
    · by_cases hascii : c.toNat < 0x80
      · exact .inl hascii
      · rw [toLower_of_not_ascii hascii] at h
        exact .inr ⟨h, hsigma, hdot⟩
    · rcases h with hascii | hlower
      · exact lowerChar_of_ascii hascii
      · exact hlower.1.trans hlower.toLower_eq.symm

/-- Lower-casing the ASCII letters is enough just where every character is in ASCII or in lower
case. -/
theorem lowerAfter_eq_map_iff :
    lowerAfter before s = s.map Char.toLower ↔ ∀ c ∈ s, c.toNat < 0x80 ∨ IsLower c := by
  induction s generalizing before with
  | nil => simp [lowerAfter]
  | cons c r ih =>
    rw [lowerAfter_cons, List.map_cons, lowerPiece_append_eq_iff, ih, List.forall_mem_cons]

theorem map_toLower_lowerAfter (before s : List Char) :
    (lowerAfter before s).map Char.toLower = lowerAfter before s := by
  rw [List.map_congr_left fun c hc => (isLower_of_mem_lowerAfter hc).toLower_eq, List.map_id']

end BoardFilter.Text
