import BoardFilter.Proofs.Text.Words

/-!
# Spellings of a line

Neither blanks at its ends nor the case of its letters have a part in the normal form of a line. The
lines of a text lie between its line feeds.
-/

namespace BoardFilter

namespace Text

theorem upToBlank_upToBlank (s : List Char) : upToBlank (upToBlank s) = upToBlank s :=
  List.takeWhile_idem

theorem upToBlank_cons_upToBlank (c : Char) (s : List Char) :
    upToBlank (c :: upToBlank s) = upToBlank (c :: s) := by
  cases hblank : isBlank c with
  | true => simp [upToBlank, hblank]
  | false =>
    have hstep : ∀ r, upToBlank (c :: r) = c :: upToBlank r := by
      intro r
      simp [upToBlank, hblank]
    rw [hstep, hstep, upToBlank_upToBlank]

theorem lowerPiece_congr {before before' after after' : List Char} (c : Char)
    (hbefore : upToBlank before = upToBlank before') (hafter : upToBlank after = upToBlank after') :
    lowerPiece before c after = lowerPiece before' c after' := by
  rw [← lowerPiece_upToBlank, hbefore, hafter, lowerPiece_upToBlank]

theorem lowerAfter_congr {before before' : List Char} (h : upToBlank before = upToBlank before')
    (s : List Char) : lowerAfter before s = lowerAfter before' s := by
  induction s generalizing before before' with
  | nil => rfl
  | cons c r ih =>
    have hnext : upToBlank (c :: before) = upToBlank (c :: before') := by
      rw [← upToBlank_cons_upToBlank, h, upToBlank_cons_upToBlank]
    rw [lowerAfter_cons, lowerAfter_cons, lowerPiece_congr c h rfl, ih hnext]

theorem upToBlank_append_blanks {v : List Char} (hv : ∀ c ∈ v, isBlank c = true) (s : List Char) :
    upToBlank (s ++ v) = upToBlank s := by
  have hnone : upToBlank v = [] := by
    cases v with
    | nil => rfl
    | cons b r => simp [upToBlank, hv b List.mem_cons_self]
  induction s with
  | nil => exact hnone
  | cons c r ih =>
    cases hblank : isBlank c with
    | true => simp [upToBlank, hblank]
    | false => simpa [upToBlank, hblank] using ih

theorem lowerAfter_of_blanks {v : List Char} (hv : ∀ c ∈ v, isBlank c = true)
    (before : List Char) : lowerAfter before v = v := by
  induction v generalizing before with
  | nil => rfl
  | cons b r ih =>
    rw [lowerAfter_cons, lowerPiece_of_isBlank (hv b List.mem_cons_self),
      ih fun c hc => hv c (List.mem_cons_of_mem b hc)]
    rfl

theorem lowerAfter_append_blanks {v : List Char} (hv : ∀ c ∈ v, isBlank c = true)
    (before s : List Char) : lowerAfter before (s ++ v) = lowerAfter before s ++ v := by
  induction s generalizing before with
  | nil => exact lowerAfter_of_blanks hv before
  | cons c r ih =>
    rw [List.cons_append, lowerAfter_cons, lowerAfter_cons, ih,
      lowerPiece_congr c rfl (upToBlank_append_blanks hv r), List.append_assoc]

theorem lowerAfter_blanks_append {u : List Char} (hu : ∀ c ∈ u, isBlank c = true)
    {before : List Char} (hbefore : upToBlank before = []) (s : List Char) :
    lowerAfter before (u ++ s) = u ++ lowered s := by
  induction u generalizing before with
  | nil => exact lowerAfter_congr hbefore s
  | cons b r ih =>
    have hb := hu b List.mem_cons_self
    have hcut : upToBlank (b :: before) = [] := by simp [upToBlank, hb]
    rw [List.cons_append, lowerAfter_cons, lowerPiece_of_isBlank hb,
      ih (fun c hc => hu c (List.mem_cons_of_mem b hc)) hcut]
    rfl

theorem lowered_between_blanks {u v : List Char} (hu : ∀ c ∈ u, isBlank c = true)
    (hv : ∀ c ∈ v, isBlank c = true) (s : List Char) :
    lowered (u ++ s ++ v) = u ++ lowered s ++ v := by
  rw [lowered, lowerAfter_append_blanks hv, lowerAfter_blanks_append hu rfl]

theorem trimmed_between_blanks {u v : List Char} (hu : ∀ c ∈ u, isBlank c = true)
    (hv : ∀ c ∈ v, isBlank c = true) (s : List Char) : trimmed (u ++ s ++ v) = trimmed s := by
  rw [trimmed_append_blanks hv, trimmed_blanks_append hu]

theorem trimmed_lowered (s : List Char) : trimmed (lowered s) = lowered (trimmed s) := by
  obtain ⟨u, v, hu, hv, hs⟩ := exists_trimmed s
  have hclean := hasCleanEnds_lowered (hasCleanEnds_trimmed s)
  calc trimmed (lowered s) = trimmed (u ++ lowered (trimmed s) ++ v) := by
        rw [← lowered_between_blanks hu hv, hs]
    _ = lowered (trimmed s) := by
        rw [trimmed_between_blanks hu hv, trimmed_of_hasCleanEnds hclean]

/-- The texts differ in the blanks at their ends and in case at most. -/
def Respelled (s t : String) : Prop :=
  ∃ u core v u' core' v' : String,
    (isBlankText u = true ∧ isBlankText v = true ∧ isBlankText u' = true ∧ isBlankText v' = true) ∧
    s = u ++ core ++ v ∧ t = u' ++ core' ++ v' ∧ lowercase core = lowercase core'

theorem Respelled.refl (s : String) : Respelled s s :=
  ⟨"", s, "", "", s, "", by decide, by simp, by simp, rfl⟩

theorem Respelled.symm {s t : String} (h : Respelled s t) : Respelled t s := by
  obtain ⟨u, core, v, u', core', v', ⟨hu, hv, hu', hv'⟩, hs, ht, hcore⟩ := h
  exact ⟨u', core', v', u, core, v, ⟨hu', hv', hu, hv⟩, ht, hs, hcore.symm⟩

end Text

open Text

theorem Line.normalize_padded {u v : String} (hu : isBlankText u = true)
    (hv : isBlankText v = true) (core : String) :
    normalize (u ++ core ++ v) = trim (lowercase core) := by
  apply String.toList_injective
  rw [toList_normalize, String.toList_append, String.toList_append,
    trimmed_between_blanks (List.all_eq_true.1 hu) (List.all_eq_true.1 hv), ← trimmed_lowered, trim,
    lowercase, String.toList_ofList, String.toList_ofList]

theorem Line.normalize_trim (t : String) : normalize (trim t) = normalize t := by
  apply String.toList_injective
  rw [toList_normalize, toList_normalize, trim, String.toList_ofList,
    trimmed_of_hasCleanEnds (hasCleanEnds_trimmed t.toList)]

theorem Line.normalize_eq_of_respelled {s t : String} (h : Respelled s t) :
    normalize s = normalize t := by
  obtain ⟨u, core, v, u', core', v', ⟨hu, hv, hu', hv'⟩, rfl, rfl, hcore⟩ := h
  rw [normalize_padded hu hv, normalize_padded hu' hv', hcore]

namespace Text

section

variable {p : Char → Bool}

theorem mem_splitOnP_iff {s w : List Char} :
    w ∈ s.splitOnP p ↔ (∀ c ∈ w, p c = false) ∧ ∃ before after, s = before ++ w ++ after ∧
      (∀ c ∈ before.getLast?, p c = true) ∧ ∀ c ∈ after.head?, p c = true := by
  constructor
  · intro hw
    refine ⟨not_of_mem_splitOnP hw, ?_⟩
    -- by the length of the text, since what follows the first piece is shorter
    induction hlen : s.length using Nat.strong_induction_on generalizing s with
    | _ n ih =>
      have hs := List.takeWhile_append_dropWhile (p := fun c => !p c) (l := s)
      have hfirst : (s.takeWhile fun c => !p c).splitOnP p = [s.takeWhile fun c => !p c] :=
        List.splitOnP_eq_singleton fun c hc => by simpa using List.mem_takeWhile_imp hc
      cases hrest : s.dropWhile fun c => !p c with
      | nil =>
        rw [hrest, List.append_nil] at hs
        rw [← hs, hfirst, List.mem_singleton] at hw
        exact ⟨[], [], by simp [hw, hs], by simp, by simp⟩
      | cons b r =>
        have hb : p b = true := by
          have hhead := head_dropWhile (p := fun c => !p c) (s := s) (c := b) (by rw [hrest]; rfl)
          simpa using hhead
        rw [hrest] at hs
        rw [← hs, List.splitOnP_append_cons _ _ hb, hfirst, List.singleton_append,
          List.mem_cons] at hw
        rcases hw with rfl | hw
        · exact ⟨[], b :: r, by simp [hs], by simp, by simpa using hb⟩
        · have hlt : r.length < n := by
            rw [← hlen, ← hs]
            simp only [List.length_append, List.length_cons]
            omega
          obtain ⟨before, after, rfl, hbefore, hafter⟩ := ih r.length hlt hw rfl
          refine ⟨(s.takeWhile fun c => !p c) ++ b :: before, after, ?_, ?_, hafter⟩
          · calc s = (s.takeWhile fun c => !p c) ++ b :: (before ++ w ++ after) := hs.symm
              _ = (s.takeWhile fun c => !p c) ++ b :: before ++ w ++ after := by
                  simp only [List.append_assoc, List.cons_append]
          · intro c hc
            rw [List.getLast?_append, List.getLast?_cons, Option.some_or, Option.mem_some_iff] at hc
            cases hlast : before.getLast? with
            | none => simpa [← hc, hlast] using hb
            | some d => simpa [← hc, hlast] using hbefore d hlast
  · rintro ⟨hw, before, after, rfl, hbefore, hafter⟩
    have hlast : w ∈ (w ++ after).splitOnP p := by
      cases after with
      | nil =>
        rw [List.append_nil, List.splitOnP_eq_singleton hw]
        exact List.mem_singleton_self w
      | cons b r =>
        rw [List.splitOnP_append_cons _ _ (hafter b rfl), List.splitOnP_eq_singleton hw]
        exact List.mem_append_left _ (List.mem_singleton_self w)
    rcases List.eq_nil_or_concat before with rfl | ⟨u, b, rfl⟩
    · exact hlast
    · have hb := hbefore b (by simp)
      rw [List.concat_eq_append, List.append_assoc, List.append_assoc, List.singleton_append,
        List.splitOnP_append_cons _ _ hb]
      exact List.mem_append_right _ hlast

end

def IsLineOf (line t : String) : Prop :=
  '\n' ∉ line.toList ∧ ∃ before after : String, t = before ++ line ++ after ∧
    (∀ c ∈ before.toList.getLast?, c = '\n') ∧ ∀ c ∈ after.toList.head?, c = '\n'

theorem mem_trimmedLines_iff {t l : String} :
    l ∈ trimmedLines t ↔ ∃ line, IsLineOf line t ∧ trim line = l := by
  have hpiece : ∀ w : List Char, w ∈ t.toList.splitOnP (· == '\n') ↔
      IsLineOf (String.ofList w) t := by
    intro w
    rw [mem_splitOnP_iff, IsLineOf, String.toList_ofList]
    refine and_congr ?_ ⟨?_, ?_⟩
    · simp only [beq_eq_false_iff_ne]
      exact ⟨fun h hmem => h _ hmem rfl, fun h c hc hnl => h (hnl ▸ hc)⟩
    · rintro ⟨before, after, hs, hbefore, hafter⟩
      refine ⟨String.ofList before, String.ofList after, ?_, ?_, ?_⟩
      · apply String.toList_injective
        simpa using hs
      · simpa using hbefore
      · simpa using hafter
    · rintro ⟨before, after, rfl, hbefore, hafter⟩
      exact ⟨before.toList, after.toList, by simp, by simpa using hbefore, by simpa using hafter⟩
  rw [trimmedLines, List.mem_map]
  constructor
  · rintro ⟨w, hw, rfl⟩
    exact ⟨String.ofList w, (hpiece w).1 hw, by rw [trim, String.toList_ofList]⟩
  · rintro ⟨line, hline, rfl⟩
    refine ⟨line.toList, (hpiece line.toList).2 ?_, rfl⟩
    rwa [String.ofList_toList]

end Text

end BoardFilter
