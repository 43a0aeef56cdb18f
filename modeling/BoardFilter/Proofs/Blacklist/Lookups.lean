import BoardFilter.Proofs.Blacklist.Lines
import BoardFilter.Proofs.Blacklist.Visibility

/-!
# Lookups of an id

A blacklist is asked for an id in three ways: whether an enabled line matches, whether any does,
and for the state of the id. The answers agree and do not depend on the order in which the lines are
gone through. Switching lines changes them as it says, and lines that do not match do not count.
-/

namespace BoardFilter.Blacklist

open Line (normalize)

variable {b c : Blacklist} {id : Nat}

theorem hasMatch_enabled_iff : b.hasMatch id false = true ↔ b.state id = .enabled := by
  rw [state_eq_enabled_iff, hasMatch, List.any_eq_true]
  simp only [Line.hasMatch, Bool.or_false, Bool.and_eq_true, decide_eq_true_eq]

theorem hasMatch_any_iff : b.hasMatch id true = true ↔ b.state id ≠ .noMatch := by
  rw [ne_eq, state_eq_noMatch_iff, not_not, hasMatch, List.any_eq_true]
  simp only [Line.hasMatch, Bool.or_true, Bool.true_and, decide_eq_true_eq]

def search (id : Nat) (found : MatchState) : List Line → MatchState
  | [] => found
  | l :: rest =>
    match l.state id with
    | .enabled => .enabled
    | .disabled => search id .disabled rest
    | .noMatch => search id found rest

theorem search_eq_ite (found : MatchState) (ls : List Line) :
    search id found ls =
      if (ls.map (·.state id)).contains .enabled then .enabled
      else if (ls.map (·.state id)).contains .disabled then .disabled
      else found := by
  induction ls generalizing found with
  | nil => rfl
  | cons l rest ih =>
    rw [search, List.map_cons, List.contains_cons, List.contains_cons]
    cases l.state id with
    | enabled => rfl
    | disabled =>
      simp only [ih]
      generalize (rest.map (·.state id)).contains .enabled = enabled
      generalize (rest.map (·.state id)).contains .disabled = disabled
      cases enabled <;> cases disabled <;> rfl
    | noMatch => exact ih found

theorem search_of_perm {ls : List Line} (h : ls.Perm b.lines) :
    search id .noMatch ls = b.state id := by
  have hmap := h.map (·.state id)
  rw [search_eq_ite, state_eq_ite, hmap.contains_eq, hmap.contains_eq]

def Alike (id : Nat) (b c : Blacklist) : Prop :=
  b.state id = c.state id ∧
    ∀ ignoreDisabled, b.hasMatch id ignoreDisabled = c.hasMatch id ignoreDisabled

theorem alike_of_state (h : b.state id = c.state id) : Alike id b c := by
  refine ⟨h, fun ignoreDisabled => ?_⟩
  rw [Bool.eq_iff_iff]
  cases ignoreDisabled with
  | false => rw [hasMatch_enabled_iff, hasMatch_enabled_iff, h]
  | true => rw [hasMatch_any_iff, hasMatch_any_iff, h]

theorem alike_of_matching (h : ∀ l, id ∈ l.matched → (l ∈ b.lines ↔ l ∈ c.lines)) :
    Alike id b c := by
  have hiff : ∀ enabled, (∃ l ∈ b.lines, l.enabled = enabled ∧ id ∈ l.matched) ↔
      ∃ l ∈ c.lines, l.enabled = enabled ∧ id ∈ l.matched := by
    intro enabled
    constructor
    · rintro ⟨l, hl, hstate, hmem⟩
      exact ⟨l, (h l hmem).1 hl, hstate, hmem⟩
    · rintro ⟨l, hl, hstate, hmem⟩
      exact ⟨l, (h l hmem).2 hl, hstate, hmem⟩
  apply alike_of_state
  cases hc : c.state id with
  | enabled =>
    rw [state_eq_enabled_iff] at hc ⊢
    exact (hiff true).2 hc
  | disabled =>
    rw [state_eq_disabled_iff] at hc ⊢
    rwa [hiff, hiff]
  | noMatch =>
    rw [state_eq_noMatch_iff] at hc ⊢
    rintro ⟨l, hl, hmem⟩
    exact hc ⟨l, (h l hmem).1 hl, hmem⟩

theorem alike_create (b : Blacklist) (id : Nat) (text : String) (enabled : Bool) (ex : Exemptions) :
    Alike id (b.create text enabled ex).1 b := by
  apply alike_of_matching
  intro l hmem
  rcases b.create_cases text enabled ex with ⟨-, he⟩ | ⟨-, hne, he⟩
  · rw [he]
  · rw [he, mem_lines_insert (by rwa [text_compile])]
    refine or_iff_right ?_
    rintro rfl
    exact IdSet.not_mem_empty id hmem

theorem alike_delete {text : String} (h : ∀ l ∈ b.lines, l.text = normalize text → id ∉ l.matched) :
    Alike id (b.delete text).1 b := by
  apply alike_of_matching
  intro l hmem
  rw [delete, List.mem_filter, decide_eq_true_eq]
  exact and_iff_left_of_imp fun hl ht => h l hl ht hmem

theorem toggle_toggle (b : Blacklist) (text : String) : ((b.toggle text).1.toggle text).1 = b := by
  apply ext
  simp only [toggle, modify, lines_map, List.map_map]
  nth_rewrite 2 [← List.map_id b.lines]
  apply List.map_congr_left
  intro l _
  rw [Function.comp_apply, id]
  by_cases ht : l.text = normalize text
  · rw [if_pos ht, if_pos (l.text_toggle.trans ht), Line.toggle, Line.toggle, Bool.not_not]
  · rw [if_neg ht, if_neg ht]

theorem exists_setAll {enabled e : Bool} :
    (∃ l ∈ (b.setAll enabled).lines, l.enabled = e ∧ id ∈ l.matched) ↔
      enabled = e ∧ ∃ l ∈ b.lines, id ∈ l.matched := by
  simp only [setAll, lines_map, List.mem_map]
  constructor
  · rintro ⟨-, ⟨l, hl, rfl⟩, he, hmem⟩
    exact ⟨he, l, hl, hmem⟩
  · rintro ⟨he, l, hl, hmem⟩
    exact ⟨_, ⟨l, hl, rfl⟩, he, hmem⟩

theorem state_setAll (b : Blacklist) (enabled : Bool) (id : Nat) :
    (b.setAll enabled).state id =
      if b.state id = .noMatch then .noMatch else if enabled then .enabled else .disabled := by
  by_cases hmem : ∃ l ∈ b.lines, id ∈ l.matched
  · rw [if_neg fun hnone => state_eq_noMatch_iff.1 hnone hmem]
    cases enabled with
    | true => exact state_eq_enabled_iff.2 (exists_setAll.2 ⟨rfl, hmem⟩)
    | false =>
      refine state_eq_disabled_iff.2 ⟨fun h => ?_, exists_setAll.2 ⟨rfl, hmem⟩⟩
      exact Bool.false_ne_true (exists_setAll.1 h).1
  · rw [if_pos (state_eq_noMatch_iff.2 hmem), state_eq_noMatch_iff]
    rintro ⟨l, hl, h⟩
    exact hmem (exists_setAll.1 ⟨l, hl, rfl, h⟩).2

/-- The lookups of an id agree in every order of the lines, and only lines that match it count. -/
theorem lookups_agree (b : Blacklist) (id : Nat) :
    (b.hasMatch id false = true ↔ b.state id = .enabled) ∧
    (b.hasMatch id true = true ↔ b.state id ≠ .noMatch) ∧
    (∀ ls : List Line, ls.Perm b.lines → search id .noMatch ls = b.state id ∧
      ∀ ignoreDisabled, (ls.any fun l => l.hasMatch id ignoreDisabled) =
        b.hasMatch id ignoreDisabled) ∧
    (∀ enabled, (b.setAll enabled).state id =
      if b.state id = .noMatch then .noMatch else if enabled then .enabled else .disabled) ∧
    (∀ enabled, (b.setAll enabled).lines.map (fun l => (l.text, l.matched)) =
      b.lines.map fun l => (l.text, l.matched)) ∧
    (∀ text, ((b.toggle text).1.toggle text).1 = b) ∧
    (∀ text enabled ex, Alike id (b.create text enabled ex).1 b) ∧
    ∀ text, (∀ l ∈ b.lines, l.text = normalize text → id ∉ l.matched) →
      Alike id (b.delete text).1 b := by
  refine ⟨hasMatch_enabled_iff, hasMatch_any_iff, fun ls h => ⟨search_of_perm h, fun _ => ?_⟩,
    fun enabled => b.state_setAll enabled id, fun enabled => ?_, b.toggle_toggle,
    fun text enabled ex => b.alike_create id text enabled ex, fun _ h => alike_delete h⟩
  · rw [hasMatch, h.any_eq]
  · rw [setAll, lines_map, List.map_map]
    rfl

theorem lookups_agree_of_two_lines :
    let b := (((empty.load ["solo", "duo"] true {}).toggle "duo").1.add
      [{ id := 1, tags := .ofFlat "solo duo" }, { id := 2, tags := .ofFlat "duo" }]).1
    b.lines.reverse.Perm b.lines ∧ search 1 .noMatch b.lines.reverse = b.state 1 ∧
      b.state 1 = .enabled ∧ b.state 2 = .disabled ∧
      (∀ l ∈ b.lines, l.text = normalize " Solo" → 2 ∉ l.matched) ∧
      Alike 2 (b.delete " Solo").1 b := by
  intro b
  obtain ⟨-, -, -, -, -, -, -, hdelete⟩ := lookups_agree b 2
  have hreverse : b.lines.reverse.Perm b.lines := List.reverse_perm b.lines
  have hother : ∀ l ∈ b.lines, l.text = normalize " Solo" → 2 ∉ l.matched := by decide +kernel
  have hsearch := ((lookups_agree b 1).2.2.1 b.lines.reverse hreverse).1
  exact ⟨hreverse, hsearch, by decide +kernel, by decide +kernel, hother, hdelete " Solo" hother⟩

end BoardFilter.Blacklist
