import BoardFilter.Blacklist

/-!
# What a blacklist says of a post

The state of an id, told by the lines that remember it: an enabled one prevails, and disabled ones
count only where no enabled one does.
-/

namespace BoardFilter.Blacklist

variable {b : Blacklist} {id : Nat}

theorem line_state_eq_enabled {l : Line} :
    l.state id = .enabled ↔ l.enabled = true ∧ id ∈ l.matched := by
  unfold Line.state
  by_cases hmem : id ∈ l.matched
  · cases l.enabled <;> simp [hmem]
  · simp [hmem]

theorem line_state_eq_disabled {l : Line} :
    l.state id = .disabled ↔ l.enabled = false ∧ id ∈ l.matched := by
  unfold Line.state
  by_cases hmem : id ∈ l.matched
  · cases l.enabled <;> simp [hmem]
  · simp [hmem]

theorem states_contain_enabled :
    (b.lines.map (·.state id)).contains .enabled = true ↔
      ∃ l ∈ b.lines, l.enabled = true ∧ id ∈ l.matched := by
  simp only [List.contains_iff_mem, List.mem_map, line_state_eq_enabled]

theorem states_contain_disabled :
    (b.lines.map (·.state id)).contains .disabled = true ↔
      ∃ l ∈ b.lines, l.enabled = false ∧ id ∈ l.matched := by
  simp only [List.contains_iff_mem, List.mem_map, line_state_eq_disabled]

theorem state_eq_ite (b : Blacklist) (id : Nat) :
    b.state id =
      if (b.lines.map (·.state id)).contains .enabled then .enabled
      else if (b.lines.map (·.state id)).contains .disabled then .disabled
      else .noMatch := rfl

theorem state_eq_enabled_iff :
    b.state id = .enabled ↔ ∃ l ∈ b.lines, l.enabled = true ∧ id ∈ l.matched := by
  rw [← states_contain_enabled, state_eq_ite]
  generalize (b.lines.map (·.state id)).contains .enabled = enabled
  generalize (b.lines.map (·.state id)).contains .disabled = disabled
  cases enabled <;> cases disabled <;> simp

theorem state_eq_disabled_iff :
    b.state id = .disabled ↔ (¬ ∃ l ∈ b.lines, l.enabled = true ∧ id ∈ l.matched) ∧
      ∃ l ∈ b.lines, l.enabled = false ∧ id ∈ l.matched := by
  rw [← states_contain_enabled, ← states_contain_disabled, state_eq_ite]
  generalize (b.lines.map (·.state id)).contains .enabled = enabled
  generalize (b.lines.map (·.state id)).contains .disabled = disabled
  cases enabled <;> cases disabled <;> simp

theorem state_eq_noMatch_iff : b.state id = .noMatch ↔ ¬ ∃ l ∈ b.lines, id ∈ l.matched := by
  have hsplit : (∃ l ∈ b.lines, id ∈ l.matched) ↔
      b.state id = .enabled ∨ b.state id = .disabled := by
    rw [state_eq_enabled_iff, state_eq_disabled_iff]
    constructor
    · rintro ⟨l, hl, hmem⟩
      by_cases henabled : ∃ l ∈ b.lines, l.enabled = true ∧ id ∈ l.matched
      · exact Or.inl henabled
      · refine Or.inr ⟨henabled, l, hl, ?_, hmem⟩
        cases hl' : l.enabled with
        | true => exact absurd ⟨l, hl, hl', hmem⟩ henabled
        | false => rfl
    · rintro (⟨l, hl, -, hmem⟩ | ⟨-, l, hl, -, hmem⟩)
      · exact ⟨l, hl, hmem⟩
      · exact ⟨l, hl, hmem⟩
  rw [hsplit]
  cases b.state id <;> simp

end BoardFilter.Blacklist
