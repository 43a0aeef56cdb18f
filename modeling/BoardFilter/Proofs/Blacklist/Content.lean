import BoardFilter.Proofs.Blacklist.LineMap

/-!
# What a blacklist holds

The texts and states of the lines are the pairs of a plain map. The operations follow those of the
map, showing posts to the lines leaves it alone, and what is stored is read back as the same map.
-/

namespace BoardFilter.Blacklist

open Line (normalize)

def content (b : Blacklist) : List (String × Bool) := b.lines.map fun l => (l.text, l.enabled)

theorem mem_content {b : Blacklist} {t : String} {e : Bool} :
    (t, e) ∈ b.content ↔ ∃ l ∈ b.lines, l.text = t ∧ l.enabled = e := by
  simp [content]

/-- The blacklist is the content of a map. -/
def Holds (b : Blacklist) (m : LineMap) : Prop := m.Lists b.content

variable {b : Blacklist} {m : LineMap}

theorem Holds.mem_iff (h : b.Holds m) (t : String) (e : Bool) :
    (∃ l ∈ b.lines, l.text = t ∧ l.enabled = e) ↔ m t = some e := by
  rw [← mem_content]
  exact LineMap.Lists.mem_iff h t e

theorem Holds.of_lines
    (hmem : ∀ t e, (∃ l ∈ b.lines, l.text = t ∧ l.enabled = e) ↔ m t = some e) : b.Holds m := by
  refine ⟨List.pairwise_map.2 b.ascending, fun t e => ?_⟩
  rw [mem_content]
  exact hmem t e

theorem holds_empty : empty.Holds LineMap.empty := by
  apply Holds.of_lines
  simp [empty, LineMap.empty]

theorem content_of_lines {b c : Blacklist} {f : Line → Line} (hf : ∀ l, (f l).SameRule l)
    (hc : c.lines = b.lines.map f) : c.content = b.content := by
  rw [content, content, hc, List.map_map]
  apply List.map_congr_left
  intro l _
  obtain ⟨htext, -, -, hen⟩ := hf l
  rw [Function.comp_apply, htext, hen]

theorem content_add (b : Blacklist) (posts : List Post) : (b.add posts).1.content = b.content :=
  content_of_lines (fun l => l.sameRule_updateEach true posts) (b.lines_add posts)

theorem content_reindex (b : Blacklist) (posts : List Post) :
    (b.reindex posts).1.content = b.content := by
  rw [reindex, content_add]
  exact content_of_lines Line.sameRule_clear rfl

theorem content_update (b : Blacklist) (text : String) (posts : List Post) (evict : Bool) :
    (b.update text posts evict).content = b.content := by
  refine content_of_lines (fun l => ?_) rfl
  split
  · exact l.sameRule_updateEach evict posts
  · exact .refl l

theorem Holds.isSome_iff (h : b.Holds m) {t : String} :
    (m t).isSome = true ↔ ∃ l ∈ b.lines, l.text = t := by
  rw [Option.isSome_iff_exists]
  constructor
  · rintro ⟨e, he⟩
    obtain ⟨l, hl, ht, -⟩ := (h.mem_iff t e).2 he
    exact ⟨l, hl, ht⟩
  · rintro ⟨l, hl, ht⟩
    exact ⟨l.enabled, (h.mem_iff t l.enabled).1 ⟨l, hl, ht, rfl⟩⟩

theorem Holds.create_snd (h : b.Holds m) (text : String) (enabled : Bool) (ex : Exemptions) :
    (b.create text enabled ex).2 = m.admits text := by
  rcases create_cases b text enabled ex with ⟨hold, he⟩ | ⟨hblank, hne, he⟩
  · rw [he, LineMap.admits]
    rcases hold with hblank | hthere
    · rw [hblank]
      rfl
    · rw [← Option.not_isSome, h.isSome_iff.2 hthere, Bool.not_true, Bool.and_false]
  · have hfree : (m (normalize text)).isSome = false := by
      rw [Bool.eq_false_iff]
      intro hsome
      obtain ⟨l, hl, ht⟩ := h.isSome_iff.1 hsome
      exact hne l hl ht
    rw [he, LineMap.admits, hblank, ← Option.not_isSome, hfree]
    rfl

theorem Holds.create (h : b.Holds m) (text : String) (enabled : Bool) (ex : Exemptions) :
    (b.create text enabled ex).1.Holds (m.add text enabled) := by
  have hnew := h.create_snd text enabled ex
  rw [LineMap.add, ← hnew]
  rcases create_cases b text enabled ex with ⟨-, he⟩ | ⟨-, hne, he⟩
  · rw [he]
    exact h
  · have hother : ∀ l ∈ b.lines, l.text ≠ (Line.compile (normalize text) enabled ex).text := by
      rwa [text_compile]
    apply Holds.of_lines
    intro t e
    rw [he, if_pos rfl]
    simp only [mem_lines_insert hother]
    by_cases ht : t = normalize text
    · -- the new line is the only one with its text
      rw [ht, Function.update_self]
      constructor
      · rintro ⟨l, rfl | hl, htext, rfl⟩
        · rfl
        · exact absurd htext (hne l hl)
      · intro hsome
        exact ⟨_, Or.inl rfl, text_compile text enabled ex, Option.some.inj hsome⟩
    · rw [Function.update_of_ne ht, ← h.mem_iff]
      constructor
      · rintro ⟨l, rfl | hl, htext, hen⟩
        · rw [text_compile] at htext
          exact absurd htext.symm ht
        · exact ⟨l, hl, htext, hen⟩
      · rintro ⟨l, hl, htext, hen⟩
        exact ⟨l, Or.inr hl, htext, hen⟩

theorem Holds.load (h : b.Holds m) (texts : List String) (enabled : Bool) (ex : Exemptions) :
    (b.load texts enabled ex).Holds (m.addAll texts enabled) := by
  induction texts generalizing b m with
  | nil => exact h
  | cons text rest ih =>
    rw [Blacklist.load, List.foldl_cons, ← Blacklist.load, LineMap.addAll, List.foldl_cons,
      ← LineMap.addAll]
    exact ih (h.create text enabled ex)

theorem Holds.delete_snd (h : b.Holds m) (text : String) :
    (b.delete text).2 = (m (normalize text)).isSome := by
  rw [Bool.eq_iff_iff, h.isSome_iff]
  exact contains_iff

theorem Holds.delete (h : b.Holds m) (text : String) : (b.delete text).1.Holds (m.remove text) := by
  apply Holds.of_lines
  intro t e
  simp only [Blacklist.delete, List.mem_filter, decide_eq_true_eq]
  by_cases ht : t = normalize text
  · rw [ht, LineMap.remove, Function.update_self]
    constructor
    · rintro ⟨l, ⟨-, hne⟩, htext, -⟩
      exact absurd htext hne
    · intro hsome
      cases hsome
  · rw [LineMap.remove, Function.update_of_ne ht, ← h.mem_iff]
    constructor
    · rintro ⟨l, ⟨hl, -⟩, htext, hen⟩
      exact ⟨l, hl, htext, hen⟩
    · rintro ⟨l, hl, htext, hen⟩
      exact ⟨l, ⟨hl, by rwa [htext]⟩, htext, hen⟩

theorem Holds.get?_enabled (h : b.Holds m) (text : String) :
    (b.get? text).map (·.enabled) = m (normalize text) := by
  apply Option.ext
  intro e
  rw [← h.mem_iff, Option.map_eq_some_iff]
  constructor
  · rintro ⟨l, hfound, hen⟩
    exact ⟨l, List.mem_of_find?_eq_some hfound, by simpa using List.find?_some hfound, hen⟩
  · rintro ⟨l, hl, htext, hen⟩
    have hthere : (b.get? text).isSome = true := contains_iff.2 ⟨l, hl, htext⟩
    obtain ⟨l', hl'⟩ := Option.isSome_iff_exists.1 hthere
    have htext' : l'.text = normalize text := by simpa using List.find?_some hl'
    have hsame := b.eq_of_text (List.mem_of_find?_eq_some hl') hl (htext'.trans htext.symm)
    exact ⟨l', hl', by rw [hsame, hen]⟩

theorem Holds.toggle_snd (h : b.Holds m) (text : String) :
    (b.toggle text).2 = (m (normalize text)).map (!·) := by
  rw [← h.get?_enabled, Option.map_map]
  rfl

theorem Holds.toggle (h : b.Holds m) (text : String) : (b.toggle text).1.Holds (m.toggle text) := by
  apply Holds.of_lines
  intro t e
  simp only [Blacklist.toggle, mem_lines_modify]
  have hsame : ∀ l : Line, (if l.text = normalize text then l.toggle else l).text = l.text := by
    intro l
    split <;> rfl
  by_cases ht : t = normalize text
  · rw [ht, LineMap.toggle, Function.update_self, Option.map_eq_some_iff]
    constructor
    · rintro ⟨-, ⟨l, hl, rfl⟩, htext, rfl⟩
      rw [hsame] at htext
      rw [if_pos htext]
      exact ⟨l.enabled, (h.mem_iff _ _).1 ⟨l, hl, htext, rfl⟩, rfl⟩
    · rintro ⟨e', hsome, rfl⟩
      obtain ⟨l, hl, htext, rfl⟩ := (h.mem_iff _ _).2 hsome
      exact ⟨_, ⟨l, hl, if_pos htext⟩, htext, rfl⟩
  · rw [LineMap.toggle, Function.update_of_ne ht, ← h.mem_iff]
    constructor
    · rintro ⟨-, ⟨l, hl, rfl⟩, htext, hen⟩
      rw [hsame] at htext
      rw [if_neg fun hkey => ht (htext.symm.trans hkey)] at hen
      exact ⟨l, hl, htext, hen⟩
    · rintro ⟨l, hl, htext, hen⟩
      exact ⟨l, ⟨l, hl, if_neg fun hkey => ht (htext.symm.trans hkey)⟩, htext, hen⟩

theorem Holds.setAll (h : b.Holds m) (enabled : Bool) :
    (b.setAll enabled).Holds (m.setAll enabled) := by
  apply Holds.of_lines
  intro t e
  rw [LineMap.setAll, Option.map_eq_some_iff]
  simp only [Blacklist.setAll, lines_map, List.mem_map]
  constructor
  · rintro ⟨-, ⟨l, hl, rfl⟩, htext, hen⟩
    exact ⟨l.enabled, (h.mem_iff _ _).1 ⟨l, hl, htext, rfl⟩, hen⟩
  · rintro ⟨e', hsome, hen⟩
    obtain ⟨l, hl, htext, -⟩ := (h.mem_iff _ _).2 hsome
    exact ⟨_, ⟨l, hl, rfl⟩, htext, hen⟩

def stored (p : String × Bool) : Json := .ofFields [("text", .text p.1), ("enabled", .bool p.2)]

theorem map_entry (b : Blacklist) : b.lines.map entry = b.content.map stored := by
  rw [content, List.map_map]
  rfl

theorem entry?_stored (p : String × Bool) : entry? (stored p) = some p := by
  have hlt : "enabled" < "text" := by decide
  simp [stored, entry?, Json.ofFields, Json.Fields.ofList, Json.Fields.put, Json.Fields.empty,
    Json.Fields.toJson, Json.putField, Json.fullSlots?, Json.slots?, Json.lookup,
    Json.required?, Json.asText?, Json.asBool?, hlt]

theorem asList?_stored (pairs : List (String × Bool)) :
    Json.asList? entry? (.array (pairs.map stored)) = some pairs := by
  rw [Json.asList?_eq_some_iff]
  exact ⟨_, rfl, by simp [entry?_stored]⟩

theorem restore_of_none (b : Blacklist) {settings : Settings} (h : settings.get? key = none)
    (ex : Exemptions) : b.restore settings ex = .ok (b, false) := by
  rw [restore, Settings.read?, h]
  rfl

theorem Holds.restoreAll (h : b.Holds m) (pairs : List (String × Bool)) (ex : Exemptions) :
    (pairs.foldl (fun b p => (b.create p.1 p.2 ex).1) b).Holds
      (pairs.foldl (fun m p => m.add p.1 p.2) m) := by
  induction pairs generalizing b m with
  | nil => exact h
  | cons p rest ih =>
    rw [List.foldl_cons, List.foldl_cons]
    exact ih (h.create p.1 p.2 ex)

/-- Normal forms are normal forms of themselves, so every stored line is added under its own
text. -/
theorem Holds.restore (h : b.Holds m) (hm : m.Normal) {settings : Settings}
    (hs : settings.get? key = some (.array (b.content.map stored))) (ex : Exemptions) :
    ∃ c : Blacklist, empty.restore settings ex = .ok (c, true) ∧ c.Holds m := by
  have hfold := holds_empty.restoreAll b.content ex
  rw [LineMap.Lists.foldl_add h hm] at hfold
  refine ⟨_, ?_, hfold⟩
  rw [Blacklist.restore, Settings.read?, hs]
  simp only [asList?_stored]
  rfl

end BoardFilter.Blacklist
