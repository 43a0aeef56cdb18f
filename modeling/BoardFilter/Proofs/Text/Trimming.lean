import BoardFilter.Proofs.Text.NormalForm

/-!
# Blanks at the ends

Trimming takes away the blanks at both ends of a text and nothing else, so it does not matter how
many there were.
-/

namespace BoardFilter.Text

theorem dropEndWhile_append_all {p : Char → Bool} {t : List Char} (h : ∀ c ∈ t, p c = true)
    (s : List Char) : dropEndWhile p (s ++ t) = dropEndWhile p s := by
  rw [dropEndWhile, List.reverse_append,
    List.dropWhile_append_of_pos fun c hc => h c (List.mem_reverse.1 hc), dropEndWhile]

theorem trimmed_append_blanks {t : List Char} (h : ∀ c ∈ t, isBlank c = true) (s : List Char) :
    trimmed (s ++ t) = trimmed s := by
  rw [trimmed, List.dropWhile_append]
  split
  · next hnil =>
    rw [trimmed, List.isEmpty_iff.1 hnil, List.dropWhile_eq_nil_iff.2 h]
  · rw [dropEndWhile_append_all h, trimmed]

theorem trimmed_blanks_append {t : List Char} (h : ∀ c ∈ t, isBlank c = true) (s : List Char) :
    trimmed (t ++ s) = trimmed s := by
  rw [trimmed, List.dropWhile_append_of_pos h, trimmed]

theorem trimmed_of_no_blank {s : List Char} (h : ∀ c ∈ s, isBlank c = false) : trimmed s = s :=
  trimmed_of_hasCleanEnds ⟨fun c hc => h c (List.mem_of_mem_head? hc),
    fun c hc => h c (List.mem_of_getLast? hc)⟩

theorem exists_trimmed (s : List Char) :
    ∃ u v, (∀ c ∈ u, isBlank c = true) ∧ (∀ c ∈ v, isBlank c = true) ∧ u ++ trimmed s ++ v = s := by
  refine ⟨s.takeWhile isBlank, (s.dropWhile isBlank).rtakeWhile isBlank,
    fun c hc => List.mem_takeWhile_imp hc, fun c hc => List.mem_rtakeWhile_imp hc, ?_⟩
  rw [trimmed, dropEndWhile_eq_rdropWhile, List.append_assoc, List.rdropWhile_append_rtakeWhile,
    List.takeWhile_append_dropWhile]

end BoardFilter.Text
