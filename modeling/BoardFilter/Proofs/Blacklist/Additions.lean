import BoardFilter.Proofs.Blacklist.LineMap

/-!
# Adding many lines

Lines are added one after the other. What comes of it can be told at once: the lines that were there
stay as they are, and every other normal form brings one line, in the state that the first text with
that form asks for.
-/

namespace BoardFilter.Blacklist

open Line (normalize)

def createAll (b : Blacklist) (entries : List (String × Bool)) (ex : Exemptions) : Blacklist :=
  entries.foldl (fun b e => (b.create e.1 e.2 ex).1) b

theorem load_eq_createAll (b : Blacklist) (texts : List String) (enabled : Bool)
    (ex : Exemptions) :
    b.load texts enabled ex = b.createAll (texts.map fun t => (t, enabled)) ex := by
  rw [load, createAll, List.foldl_map]

def Brings (b : Blacklist) (entries : List (String × Bool)) (ex : Exemptions) (l : Line) : Prop :=
  (∀ m ∈ b.lines, m.text ≠ l.text) ∧
    ∃ e, entries.find? (fun e => Line.normalize e.1 = l.text) = some e ∧
      Text.isBlankText e.1 = false ∧ l = Line.compile l.text e.2 ex

variable {b : Blacklist} {e : String × Bool} {rest : List (String × Bool)} {ex : Exemptions}
  {l : Line}

theorem brings_cons_of_ne (h : normalize e.1 ≠ l.text) :
    b.Brings (e :: rest) ex l ↔ b.Brings rest ex l := by
  rw [Brings, Brings, List.find?_cons_of_neg (by simpa using h)]

theorem brings_cons_of_eq (h : normalize e.1 = l.text) :
    b.Brings (e :: rest) ex l ↔ (∀ m ∈ b.lines, m.text ≠ l.text) ∧
      Text.isBlankText e.1 = false ∧ l = Line.compile l.text e.2 ex := by
  rw [Brings, List.find?_cons_of_pos (by simpa using h)]
  simp only [Option.some.injEq, exists_eq_left']

theorem Brings.exists_entry {entries : List (String × Bool)} (h : b.Brings entries ex l) :
    ∃ e ∈ entries, normalize e.1 = l.text ∧ Text.isBlankText e.1 = false := by
  obtain ⟨-, e, hfind, hblank, -⟩ := h
  exact ⟨e, List.mem_of_find?_eq_some hfind, by simpa using List.find?_some hfind, hblank⟩

theorem brings_cons_of_idle
    (h : Text.isBlankText e.1 = true ∨ ∃ m ∈ b.lines, m.text = normalize e.1) :
    b.Brings (e :: rest) ex l ↔ b.Brings rest ex l := by
  by_cases hkey : normalize e.1 = l.text
  · rw [brings_cons_of_eq hkey]
    rcases h with hblank | ⟨m, hm, ht⟩
    · rw [hblank]
      refine iff_of_false (fun hb => Bool.noConfusion hb.2.1) fun hb => ?_
      obtain ⟨e', -, hkey', hblank'⟩ := hb.exists_entry
      rw [← LineMap.isBlankText_normalize, hkey, ← hkey', LineMap.isBlankText_normalize, hblank']
        at hblank
      exact Bool.noConfusion hblank
    · exact iff_of_false (fun hb => hb.1 m hm (ht.trans hkey)) fun hb => hb.1 m hm (ht.trans hkey)
  · exact brings_cons_of_ne hkey

/-- An entry that adds a line decides for that line and leaves the others to those after it. -/
theorem mem_insert_or_brings (hblank : Text.isBlankText e.1 = false)
    (hne : ∀ m ∈ b.lines, m.text ≠ normalize e.1) :
    (l ∈ (b.insert (Line.compile (normalize e.1) e.2 ex)).lines ∨
      (b.insert (Line.compile (normalize e.1) e.2 ex)).Brings rest ex l) ↔
      l ∈ b.lines ∨ b.Brings (e :: rest) ex l := by
  have htext := text_compile e.1 e.2 ex
  have hother : ∀ m ∈ b.lines, m.text ≠ (Line.compile (normalize e.1) e.2 ex).text := by
    rwa [htext]
  by_cases hkey : normalize e.1 = l.text
  · have hold : l ∉ b.lines := fun hl => hne l hl hkey.symm
    have hnew : ¬ (b.insert (Line.compile (normalize e.1) e.2 ex)).Brings rest ex l :=
      fun hb => hb.1 _ ((mem_lines_insert hother).2 (Or.inl rfl)) (htext.trans hkey)
    rw [brings_cons_of_eq hkey, mem_lines_insert hother, or_iff_left hnew, or_iff_left hold,
      or_iff_right hold, ← hkey]
    exact ⟨fun hl => ⟨hne, hblank, hl⟩, fun hl => hl.2.2⟩
  · have hne : l ≠ Line.compile (normalize e.1) e.2 ex := by
      rintro rfl
      exact hkey htext.symm
    rw [brings_cons_of_ne hkey, mem_lines_insert hother, or_iff_right hne, Brings, Brings]
    simp only [mem_lines_insert hother, forall_eq_or_imp, htext, ne_eq, hkey, not_false_eq_true,
      true_and]

theorem mem_createAll {entries : List (String × Bool)} :
    l ∈ (b.createAll entries ex).lines ↔ l ∈ b.lines ∨ b.Brings entries ex l := by
  induction entries generalizing b with
  | nil => simp [createAll, Brings]
  | cons e rest ih =>
    rw [createAll, List.foldl_cons, ← createAll, ih]
    rcases b.create_cases e.1 e.2 ex with ⟨hidle, he⟩ | ⟨hblank, hne, he⟩
    · rw [he, brings_cons_of_idle hidle]
    · rw [he]
      exact mem_insert_or_brings hblank hne

theorem mem_load {texts : List String} {enabled : Bool} :
    l ∈ (empty.load texts enabled ex).lines ↔
      (∃ t ∈ texts, Text.isBlankText t = false ∧ normalize t = l.text) ∧
        l = Line.compile l.text enabled ex := by
  have hnone : l ∉ empty.lines := List.not_mem_nil
  rw [load_eq_createAll, mem_createAll, or_iff_right hnone]
  constructor
  · intro h
    obtain ⟨e, he, hkey, hblank⟩ := h.exists_entry
    obtain ⟨-, e', hfind, -, hl⟩ := h
    obtain ⟨t, ht, rfl⟩ := List.mem_map.1 he
    obtain ⟨t', -, rfl⟩ := List.mem_map.1 (List.mem_of_find?_eq_some hfind)
    exact ⟨⟨t, ht, hblank, hkey⟩, hl⟩
  · rintro ⟨⟨t, ht, hblank, hkey⟩, hl⟩
    refine ⟨fun m hm => absurd hm List.not_mem_nil, ?_⟩
    obtain ⟨e, hfind⟩ : ∃ e, (texts.map fun t => (t, enabled)).find?
        (fun e => Line.normalize e.1 = l.text) = some e := by
      rw [← Option.isSome_iff_exists, List.find?_isSome]
      exact ⟨(t, enabled), List.mem_map_of_mem ht, by simpa using hkey⟩
    obtain ⟨t', -, rfl⟩ := List.mem_map.1 (List.mem_of_find?_eq_some hfind)
    have hkey' : normalize t' = l.text := by simpa using List.find?_some hfind
    refine ⟨(t', enabled), hfind, ?_, hl⟩
    rw [← LineMap.isBlankText_normalize, hkey', ← hkey, LineMap.isBlankText_normalize, hblank]

/-- Lines that are loaded at once have the normal forms of their texts, and nothing else of these
counts. -/
theorem exists_forms_load (texts : List String) (enabled : Bool) (ex : Exemptions) :
    ∃ forms : List String, forms.Pairwise (· < ·) ∧
      (∀ form, form ∈ forms ↔ ∃ t ∈ texts, Text.isBlankText t = false ∧ normalize t = form) ∧
      (empty.load texts enabled ex).lines = forms.map fun form => Line.compile form enabled ex := by
  refine ⟨(empty.load texts enabled ex).lines.map (·.text), ?_, fun form => ?_, ?_⟩
  · exact List.pairwise_map.2 (empty.load texts enabled ex).ascending
  · rw [List.mem_map]
    constructor
    · rintro ⟨l, hl, rfl⟩
      exact (mem_load.1 hl).1
    · rintro ⟨t, ht, hblank, rfl⟩
      have htext := text_compile t enabled ex
      exact ⟨_, mem_load.2 ⟨⟨t, ht, hblank, htext.symm⟩, by rw [htext]⟩, htext⟩
  · calc (empty.load texts enabled ex).lines = (empty.load texts enabled ex).lines.map id :=
          (List.map_id _).symm
      _ = ((empty.load texts enabled ex).lines.map (·.text)).map fun form =>
            Line.compile form enabled ex := by
          rw [List.map_map]
          exact List.map_congr_left fun l hl => (mem_load.1 hl).2

end BoardFilter.Blacklist
