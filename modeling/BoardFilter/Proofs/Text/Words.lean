import BoardFilter.Proofs.Text.Trimming

/-!
# Words and their lower case

The words of a text do not depend on the kind and the number of the blanks around them, and
lower-casing a text lower-cases its words one by one: what decides about the form of a sigma never
lies beyond a blank.
-/

namespace BoardFilter.Text

def apart (r q : Nat × Nat) : Bool := Nat.blt r.2 q.1 || Nat.blt q.2 r.1

theorem inRanges_of_apart {rs qs : List (Nat × Nat)}
    (h : (rs.all fun r => qs.all (apart r)) = true) {code : Nat} (hc : inRanges rs code = true) :
    inRanges qs code = false := by
  obtain ⟨r, hr, hin⟩ := List.any_eq_true.1 hc
  rw [inRanges, List.any_eq_false]
  intro q hq
  have hapart := List.all_eq_true.1 (List.all_eq_true.1 h r hr) q hq
  simp only [apart, Bool.or_eq_true, Nat.blt_eq] at hapart
  simp only [Bool.and_eq_true, decide_eq_true_eq] at hin ⊢
  omega

variable {c : Char}

theorem isCased_of_isBlank (h : isBlank c = true) : isCased c = false := by
  have hapart : (blankRanges.all fun r => casedRanges.all (apart r)) = true := by decide +kernel
  exact inRanges_of_apart hapart h

theorem isCaseIgnorable_of_isBlank (h : isBlank c = true) : isCaseIgnorable c = false := by
  have hapart : (blankRanges.all fun r => caseIgnorableRanges.all (apart r)) = true := by
    decide +kernel
  exact inRanges_of_apart hapart h

theorem lowerChar_of_isBlank (h : isBlank c = true) : lowerChar c = c := by
  unfold lowerChar
  split
  · apply toLower_of_not_upper
    rintro ⟨hlow, hhigh⟩
    simp only [isBlank, inRanges, blankRanges, List.any_cons, List.any_nil, Bool.or_false,
      Bool.or_eq_true, Bool.and_eq_true, decide_eq_true_eq] at h
    omega
  · have hapart : (blankRanges.all fun b =>
        (lowerRanges.map fun r => (r.first, r.last)).all (apart b)) = true := by decide +kernel
    have hout := inRanges_of_apart hapart h
    have hnone : (lowerRanges.findSome? fun r => r.offset? c.toNat) = none := by
      rw [List.findSome?_eq_none_iff]
      intro r hr
      have hr' := List.any_eq_false.1 hout (r.first, r.last) (List.mem_map_of_mem hr)
      simp only [Bool.and_eq_true, decide_eq_true_eq] at hr'
      rw [CaseRange.offset?, if_neg fun hin => hr' ⟨hin.1, hin.2.1⟩]
    rw [hnone]

theorem lowerPiece_of_isBlank (h : isBlank c = true) (before after : List Char) :
    lowerPiece before c after = [c] := by
  have hsigma : c ≠ 'Σ' := by
    rintro rfl
    exact absurd h (by decide)
  have hdot : c ≠ 'İ' := by
    rintro rfl
    exact absurd h (by decide)
  rw [lowerPiece, if_neg hsigma, if_neg hdot, lowerChar_of_isBlank h]

def upToBlank (s : List Char) : List Char := s.takeWhile fun c => !isBlank c

theorem startsCased_upToBlank (s : List Char) : startsCased (upToBlank s) = startsCased s := by
  induction s with
  | nil => rfl
  | cons c r ih =>
    cases hblank : isBlank c with
    | true =>
      simp [upToBlank, startsCased, hblank, isCaseIgnorable_of_isBlank hblank,
        isCased_of_isBlank hblank]
    | false =>
      have hstep : upToBlank (c :: r) = c :: upToBlank r := by simp [upToBlank, hblank]
      rw [hstep]
      cases hign : isCaseIgnorable c with
      | true => simpa [startsCased, hign] using ih
      | false => simp [startsCased, hign]

theorem lowerPiece_upToBlank (before : List Char) (c : Char) (after : List Char) :
    lowerPiece (upToBlank before) c (upToBlank after) = lowerPiece before c after := by
  rw [lowerPiece, lowerPiece, startsCased_upToBlank, startsCased_upToBlank]

section

variable {p : Char → Bool}

theorem exists_splitOnP (p : Char → Bool) (s : List Char) :
    ∃ ws, s.splitOnP p = (s.takeWhile fun c => !p c) :: ws := by
  induction s with
  | nil => exact ⟨[], rfl⟩
  | cons c r ih =>
    obtain ⟨ws, hws⟩ := ih
    rw [List.splitOnP_cons_eq_if_modifyHead]
    cases hc : p c with
    | true => exact ⟨r.splitOnP p, by simp [hc]⟩
    | false => exact ⟨ws, by simp [hc, hws]⟩

theorem splitOnP_append_piece {w s u : List Char} {ws : List (List Char)}
    (hw : ∀ c ∈ w, p c = false) (hs : s.splitOnP p = u :: ws) :
    (w ++ s).splitOnP p = (w ++ u) :: ws := by
  induction w with
  | nil => exact hs
  | cons c r ih =>
    rw [List.cons_append, List.splitOnP_cons_eq_if_modifyHead, ih fun d hd => hw d (by simp [hd])]
    simp [hw c (by simp)]

theorem not_of_mem_splitOnP {s w : List Char} (hw : w ∈ s.splitOnP p) :
    ∀ c ∈ w, p c = false := by
  induction s generalizing w with
  | nil => simp_all [List.splitOnP_nil]
  | cons d r ih =>
    rw [List.splitOnP_cons_eq_if_modifyHead] at hw
    split at hw
    · rcases List.mem_cons.1 hw with rfl | hw
      · simp
      · exact ih hw
    · next hd =>
      obtain ⟨ws, hws⟩ := exists_splitOnP p r
      rw [hws, List.modifyHead_cons] at hw
      rw [hws] at ih
      rcases List.mem_cons.1 hw with rfl | hw
      · intro c hc
        rcases List.mem_cons.1 hc with rfl | hc
        · simpa using hd
        · exact ih List.mem_cons_self c hc
      · exact ih (List.mem_cons_of_mem _ hw)

end

theorem wordsOf_append_cons {b : Char} (hb : isBlank b = true) (u v : List Char) :
    wordsOf (u ++ b :: v) = wordsOf u ++ wordsOf v := by
  rw [wordsOf, List.splitOnP_append_cons _ _ hb, List.filter_append, ← wordsOf, ← wordsOf]

theorem wordsOf_append_blanks {v : List Char} (hv : ∀ c ∈ v, isBlank c = true) (u : List Char) :
    wordsOf (u ++ v) = wordsOf u := by
  induction v generalizing u with
  | nil => rw [List.append_nil]
  | cons b r ih =>
    have hr := ih (fun c hc => hv c (by simp [hc])) []
    rw [wordsOf_append_cons (hv b (by simp)), ← List.nil_append r, hr]
    exact List.append_nil _

theorem wordsOf_blanks_append {u : List Char} (hu : ∀ c ∈ u, isBlank c = true) (v : List Char) :
    wordsOf (u ++ v) = wordsOf v := by
  induction u with
  | nil => rfl
  | cons b r ih =>
    have hhead := wordsOf_append_cons (hu b (by simp)) [] (r ++ v)
    rw [List.cons_append, ← List.nil_append (b :: (r ++ v)), hhead,
      ih fun c hc => hu c (by simp [hc])]
    rfl

theorem wordsOf_trimmed (s : List Char) : wordsOf (trimmed s) = wordsOf s := by
  obtain ⟨u, v, hu, hv, hs⟩ := exists_trimmed s
  calc wordsOf (trimmed s) = wordsOf (u ++ (trimmed s ++ v)) := by
        rw [wordsOf_blanks_append hu, wordsOf_append_blanks hv]
    _ = wordsOf s := by rw [← List.append_assoc, hs]

theorem of_mem_wordsOf {s w : List Char} (hw : w ∈ wordsOf s) :
    w ≠ [] ∧ ∀ c ∈ w, isBlank c = false := by
  obtain ⟨hmem, hne⟩ := List.mem_filter.1 hw
  exact ⟨by simpa using hne, not_of_mem_splitOnP hmem⟩

theorem wordsOf_eq_nil_iff {s : List Char} : wordsOf s = [] ↔ s.all isBlank = true := by
  induction s with
  | nil => simp [wordsOf, List.splitOnP_nil]
  | cons c r ih =>
    cases hblank : isBlank c with
    | true =>
      have hskip := wordsOf_blanks_append (u := [c]) (by simpa using hblank) r
      rw [List.singleton_append] at hskip
      rw [hskip, ih, List.all_cons, hblank, Bool.true_and]
    | false =>
      obtain ⟨ws, hws⟩ := exists_splitOnP isBlank r
      simp [wordsOf, List.splitOnP_cons_eq_if_modifyHead, hblank, hws]

theorem wordsOf_word {w : List Char} (hne : w ≠ []) (h : ∀ c ∈ w, isBlank c = false) :
    wordsOf w = [w] := by
  rw [wordsOf, List.splitOnP_eq_singleton h]
  simp [hne]

theorem wordsOf_intercalate {b : Char} (hb : isBlank b = true) {ws : List (List Char)}
    (h : ∀ w ∈ ws, w ≠ [] ∧ ∀ c ∈ w, isBlank c = false) : wordsOf ([b].intercalate ws) = ws := by
  induction ws with
  | nil => rfl
  | cons w rest ih =>
    obtain ⟨hne, hblank⟩ := h w List.mem_cons_self
    have hrest := ih fun v hv => h v (List.mem_cons_of_mem w hv)
    cases rest with
    | nil => rw [List.intercalate_singleton, wordsOf_word hne hblank]
    | cons v rest =>
      rw [List.intercalate_cons_cons, List.append_assoc, List.singleton_append,
        wordsOf_append_cons hb, wordsOf_word hne hblank, hrest, List.singleton_append]

theorem splitOnP_lowerAfter {s w : List Char} {ws : List (List Char)}
    (h : s.splitOnP isBlank = w :: ws) (before : List Char) :
    (lowerAfter before s).splitOnP isBlank =
      lowerAfter (upToBlank before) w :: ws.map lowered := by
  induction s generalizing before w ws with
  | nil =>
    cases h
    rfl
  | cons c r ih =>
    obtain ⟨us, hus⟩ := exists_splitOnP isBlank r
    have hrest := ih hus (c :: before)
    rw [List.splitOnP_cons_eq_if_modifyHead, hus] at h
    cases hblank : isBlank c with
    | true =>
      simp only [hblank, ↓reduceIte, List.cons.injEq] at h
      obtain ⟨rfl, rfl⟩ := h
      have hcut : upToBlank (c :: before) = [] := by simp [upToBlank, hblank]
      rw [lowerAfter_cons, lowerPiece_of_isBlank hblank, List.singleton_append,
        List.splitOnP_cons_eq_if_modifyHead, hrest, hcut]
      simp [hblank, lowerAfter, lowered]
    | false =>
      simp only [hblank, Bool.false_eq_true, ↓reduceIte] at h
      obtain ⟨rfl, rfl⟩ := h
      have hcut : upToBlank (c :: before) = c :: upToBlank before := by simp [upToBlank, hblank]
      have hpiece : ∀ d ∈ lowerPiece before c r, isBlank d = false :=
        fun d hd => isBlank_of_mem_lowerPiece hblank hd
      rw [lowerAfter_cons, splitOnP_append_piece hpiece hrest, lowerAfter_cons, hcut]
      rw [← lowerPiece_upToBlank before c r]
      rfl

theorem wordsOf_lowered (s : List Char) : wordsOf (lowered s) = (wordsOf s).map lowered := by
  obtain ⟨ws, hws⟩ := exists_splitOnP isBlank s
  have hsplit : (lowered s).splitOnP isBlank = (s.splitOnP isBlank).map lowered := by
    rw [lowered, splitOnP_lowerAfter hws, hws]
    rfl
  rw [wordsOf, hsplit, List.filter_map, wordsOf]
  congr 1
  apply List.filter_congr
  intro w _
  rw [Function.comp_apply, Bool.eq_iff_iff]
  simp [lowered_eq_nil_iff]

theorem words_lowercase (t : String) : words (lowercase t) = (words t).map lowercase := by
  rw [words, lowercase, String.toList_ofList, wordsOf_lowered, words, List.map_map, List.map_map]
  apply List.map_congr_left
  intro w _
  simp [lowercase]

theorem words_trim (t : String) : words (trim t) = words t := by
  rw [words, trim, String.toList_ofList, wordsOf_trimmed, words]

theorem of_mem_words {t w : String} (hw : w ∈ words t) :
    w ≠ "" ∧ ∀ c ∈ w.toList, isBlank c = false := by
  obtain ⟨u, hu, rfl⟩ := List.mem_map.1 hw
  obtain ⟨hne, hblank⟩ := of_mem_wordsOf hu
  refine ⟨fun he => hne ?_, by simpa using hblank⟩
  simpa using congrArg String.toList he

theorem words_intercalate {ws : List String}
    (h : ∀ w ∈ ws, w ≠ "" ∧ ∀ c ∈ w.toList, isBlank c = false) :
    words (String.intercalate " " ws) = ws := by
  have hws : ∀ w ∈ ws.map String.toList, w ≠ [] ∧ ∀ c ∈ w, isBlank c = false := by
    intro w hw
    obtain ⟨t, ht, rfl⟩ := List.mem_map.1 hw
    exact ⟨fun hnil => (h t ht).1 (String.toList_eq_nil_iff.1 hnil), (h t ht).2⟩
  have hlist := wordsOf_intercalate (b := ' ') (by decide) hws
  rw [words, String.toList_intercalate]
  change (wordsOf ([' '].intercalate _)).map String.ofList = ws
  rw [hlist, List.map_map]
  simp [Function.comp_def]

theorem words_word {w : String} (hne : w ≠ "") (h : ∀ c ∈ w.toList, isBlank c = false) :
    words w = [w] := by
  have hw : w.toList ≠ [] := fun hnil => hne (String.toList_eq_nil_iff.1 hnil)
  rw [words, wordsOf_word hw h, List.map_singleton, String.ofList_toList]

theorem words_eq_nil_iff {t : String} : words t = [] ↔ isBlankText t = true := by
  rw [words, List.map_eq_nil_iff, wordsOf_eq_nil_iff, isBlankText]

section

variable {α : Type} [BEq α] [LawfulBEq α]

theorem nodup_eraseDups (l : List α) : l.eraseDups.Nodup := by
  -- by the length of the list, since the members that are equal to the first are taken out
  induction hlen : l.length using Nat.strong_induction_on generalizing l with
  | _ n ih =>
    cases l with
    | nil => exact List.nodup_nil
    | cons a r =>
      rw [List.eraseDups_cons, List.nodup_cons, List.mem_eraseDups]
      have hlt : (r.filter fun b => !b == a).length < n :=
        hlen ▸ Nat.lt_succ_of_le (List.length_filter_le _ r)
      exact ⟨by simp, ih _ hlt _ rfl⟩

theorem eraseDups_of_nodup {l : List α} (h : l.Nodup) : l.eraseDups = l := by
  induction l with
  | nil => rfl
  | cons a r ih =>
    obtain ⟨ha, hr⟩ := List.nodup_cons.1 h
    have hkept : (r.filter fun b => !b == a) = r := by
      rw [List.filter_eq_self]
      intro b hb
      have hne : b ≠ a := fun heq => ha (heq ▸ hb)
      simpa using hne
    rw [List.eraseDups_cons, hkept, ih hr]

end

end BoardFilter.Text

namespace BoardFilter.Line

/-- The words of a line are those of its text in lower case: trimming takes none away. -/
theorem words_normalize (t : String) :
    Text.words (normalize t) = Text.words (Text.lowercase t) := by
  rw [normalize, Text.words_lowercase, Text.words_trim, Text.words_lowercase]

end BoardFilter.Line
