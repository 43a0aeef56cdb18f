import BoardFilter.Blacklist
import BoardFilter.Proofs.Line.Matches
import BoardFilter.Proofs.Text.NormalForm

/-!
# The lines of a blacklist

A line is known by the normal form of its text, so the line that was just added is the one that its
text finds.
-/

namespace BoardFilter.Blacklist

open Line (normalize)

theorem ext {b c : Blacklist} (h : b.lines = c.lines) : b = c := by
  cases b
  cases h
  rfl

theorem mem_lines_insert {b : Blacklist} {line l : Line}
    (hne : ∀ m ∈ b.lines, m.text ≠ line.text) :
    l ∈ (b.insert line).lines ↔ l = line ∨ l ∈ b.lines := by
  obtain ⟨ls, hasc⟩ := b
  simp only [insert] at hne ⊢
  clear hasc
  induction ls with
  | nil => simp [place]
  | cons m rest ih =>
    have hm : ¬ line.text = m.text := fun h => hne m (by simp) h.symm
    simp only [place, if_neg hm]
    split
    · simp
    · rw [List.mem_cons, ih fun m hm => hne m (by simp [hm]), List.mem_cons]
      constructor
      · rintro (h | h | h)
        · exact Or.inr (Or.inl h)
        · exact Or.inl h
        · exact Or.inr (Or.inr h)
      · rintro (h | h | h)
        · exact Or.inr (Or.inl h)
        · exact Or.inl h
        · exact Or.inr (Or.inr h)

theorem eq_of_text (b : Blacklist) {l m : Line} (hl : l ∈ b.lines) (hm : m ∈ b.lines)
    (ht : l.text = m.text) : l = m := by
  by_contra hne
  rcases List.Pairwise.forall_of_forall_of_flip (R := fun l m : Line => l ≠ m → l.text ≠ m.text)
    (by simp) (b.ascending.imp fun hlt _ e => String.lt_irrefl _ (e ▸ hlt))
    (b.ascending.imp fun hlt _ e => String.lt_irrefl _ (e ▸ hlt)) hl hm hne with h
  exact h ht

theorem mem_lines_modify {b : Blacklist} {text : String} {f : Line → Line}
    {hf : ∀ l, (f l).text = l.text} {l : Line} :
    l ∈ (b.modify text f hf).lines ↔
      ∃ m ∈ b.lines, (if m.text = normalize text then f m else m) = l := by
  rw [modify, lines_map, List.mem_map]

theorem contains_iff {b : Blacklist} {text : String} :
    b.contains text = true ↔ ∃ l ∈ b.lines, l.text = normalize text := by
  simp [contains, get?]

theorem text_compile (text : String) (enabled : Bool) (ex : Exemptions) :
    (Line.compile (normalize text) enabled ex).text = normalize text :=
  Line.normalize_normalize text

theorem create_cases (b : Blacklist) (text : String) (enabled : Bool) (ex : Exemptions) :
    ((Text.isBlankText text = true ∨ ∃ l ∈ b.lines, l.text = normalize text) ∧
      b.create text enabled ex = (b, false)) ∨
    (Text.isBlankText text = false ∧ (∀ l ∈ b.lines, l.text ≠ normalize text) ∧
      b.create text enabled ex = (b.insert (Line.compile (normalize text) enabled ex), true)) := by
  have hblank : (normalize text).isEmpty = true ↔ Text.isBlankText text = true := by
    rw [String.isEmpty_iff, Line.normalize_eq_empty_iff]
  unfold create
  by_cases h : ((normalize text).isEmpty || b.contains text) = true
  · refine Or.inl ⟨?_, by simp only [h, ↓reduceIte]⟩
    rcases Bool.or_eq_true_iff.1 h with h | h
    · exact Or.inl (hblank.1 h)
    · exact Or.inr (contains_iff.1 h)
  · refine Or.inr ⟨?_, fun l hl ht => ?_, by simp only [h, Bool.false_eq_true, ↓reduceIte]⟩
    · rw [Bool.eq_false_iff]
      exact fun hb => h (by rw [hblank.2 hb]; rfl)
    · exact h (by rw [contains_iff.2 ⟨l, hl, ht⟩, Bool.or_true])

theorem lines_add (b : Blacklist) (posts : List Post) :
    (b.add posts).1.lines = b.lines.map fun l => (l.updateEach true posts).1 := by
  simp [add]

theorem lines_reindex (b : Blacklist) (posts : List Post) :
    (b.reindex posts).1.lines = b.lines.map fun l => (l.clear.updateEach true posts).1 := by
  simp [reindex, lines_add, clear, lines_map]

end BoardFilter.Blacklist
