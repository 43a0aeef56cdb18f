import BoardFilter.Gallery
import BoardFilter.Line

/-!
# What a line remembers

A line tracks a gallery if it remembers exactly the posts of the gallery that it evaluates to true
on. Showing a post to the line, with eviction, and putting the post into the gallery keep this,
whatever versions of the post came before.
-/

namespace BoardFilter

namespace Gallery

theorem get?_eq_some_iff {g : Gallery} {id : Nat} {p : Post} :
    g.get? id = some p ↔ p ∈ g.posts ∧ p.id = id := by
  obtain ⟨l, hl⟩ := g
  simp only [get?]
  induction l with
  | nil => simp
  | cons q rest ih =>
    have hq := List.pairwise_cons.1 hl
    by_cases hid : q.id = id
    · simp only [List.find?_cons, hid, decide_true, Option.some.injEq, List.mem_cons]
      constructor
      · rintro rfl
        exact ⟨Or.inl rfl, hid⟩
      · rintro ⟨rfl | hp, hpid⟩
        · rfl
        · have hlt := hq.1 p hp
          omega
    · simp only [List.find?_cons, hid, decide_false, List.mem_cons]
      rw [ih hq.2]
      constructor
      · rintro ⟨hp, hpid⟩
        exact ⟨Or.inr hp, hpid⟩
      · rintro ⟨rfl | hp, hpid⟩
        · exact absurd hpid hid
        · exact ⟨hp, hpid⟩

theorem place_of_greater {p : Post} {l : List Post} (h : ∀ q ∈ l, q.id < p.id) :
    place p l = l ++ [p] := by
  induction l with
  | nil => rfl
  | cons q rest ih =>
    have hq := h q (by simp)
    rw [place, if_neg (by omega), if_neg (by omega), ih fun r hr => h r (by simp [hr])]
    rfl

theorem posts_insertAll {g : Gallery} {l : List Post} (h : (g.posts ++ l).Pairwise (·.id < ·.id)) :
    (g.insertAll l).posts = g.posts ++ l := by
  induction l generalizing g with
  | nil => simp [insertAll]
  | cons p rest ih =>
    have hplace : (g.insert p).posts = g.posts ++ [p] := by
      apply place_of_greater
      intro q hq
      exact (List.pairwise_append.1 h).2.2 q hq p (by simp)
    have hrest := @ih (g.insert p) (by rw [hplace]; simpa using h)
    rw [hplace] at hrest
    simpa [insertAll] using hrest

theorem insertAll_posts (g : Gallery) : empty.insertAll g.posts = g := by
  have h := @posts_insertAll empty g.posts (by simpa [empty] using g.ascending)
  obtain ⟨l, hl⟩ := g
  cases hg : empty.insertAll l with
  | mk posts ascending =>
    rw [hg] at h
    subst h
    rfl

end Gallery

namespace Line

theorem evaluate_congr {l m : Line} (hc : l.clauses = m.clauses)
    (ho : l.optionalCount = m.optionalCount) : l.evaluate = m.evaluate := by
  funext p
  simp only [evaluate, hc, ho]

def SameRule (l m : Line) : Prop :=
  l.text = m.text ∧ l.clauses = m.clauses ∧ l.optionalCount = m.optionalCount ∧
    l.enabled = m.enabled

theorem SameRule.refl (l : Line) : l.SameRule l := ⟨rfl, rfl, rfl, rfl⟩

theorem SameRule.trans {l m n : Line} (h : l.SameRule m) (k : m.SameRule n) : l.SameRule n :=
  ⟨h.1.trans k.1, h.2.1.trans k.2.1, h.2.2.1.trans k.2.2.1, h.2.2.2.trans k.2.2.2⟩

theorem SameRule.evaluate {l m : Line} (h : l.SameRule m) : l.evaluate = m.evaluate :=
  evaluate_congr h.2.1 h.2.2.1

theorem sameRule_update (l : Line) (p : Post) (evict : Bool) : (l.update p evict).1.SameRule l := by
  unfold update
  split
  · exact .refl l
  split <;> exact .refl l

theorem sameRule_updateEach (l : Line) (evict : Bool) (ps : List Post) :
    (l.updateEach evict ps).1.SameRule l := by
  induction ps generalizing l with
  | nil => exact .refl l
  | cons p ps ih => exact (ih (l.update p evict).1).trans (sameRule_update l p evict)

@[simp]
theorem evaluate_updateEach (l : Line) (evict : Bool) (ps : List Post) :
    (l.updateEach evict ps).1.evaluate = l.evaluate := (sameRule_updateEach l evict ps).evaluate

@[simp]
theorem enabled_updateEach (l : Line) (evict : Bool) (ps : List Post) :
    (l.updateEach evict ps).1.enabled = l.enabled := (sameRule_updateEach l evict ps).2.2.2

theorem sameRule_clear (l : Line) : l.clear.SameRule l := ⟨rfl, rfl, rfl, rfl⟩

theorem SameRule.clear_eq {l m : Line} (h : l.SameRule m) : l.clear = m.clear := by
  obtain ⟨htext, hclauses, hcount, henabled⟩ := h
  rw [Line.clear, Line.clear, Line.mk.injEq]
  exact ⟨htext, hclauses, hcount, henabled, rfl⟩

theorem mem_update_iff {l : Line} {p : Post} {evict : Bool} {id : Nat} :
    id ∈ (l.update p evict).1.matched ↔ (p.id = id ∧ l.evaluate p = true) ∨
      (id ∈ l.matched ∧ (p.id = id → evict = true → l.evaluate p = true)) := by
  unfold update
  by_cases hid : p.id = id
  · subst hid
    cases l.evaluate p <;> cases evict <;> simp
  · have hne : id ≠ p.id := fun e => hid e.symm
    cases l.evaluate p <;> cases evict <;> simp [hid, hne]

theorem mem_update_evict {l : Line} {p : Post} {id : Nat} :
    id ∈ (l.update p true).1.matched ↔
      if p.id = id then l.evaluate p = true else id ∈ l.matched := by
  rw [mem_update_iff]
  by_cases hid : p.id = id <;> simp [hid]

theorem mem_update_keep {l : Line} {p : Post} {id : Nat} :
    id ∈ (l.update p false).1.matched ↔ (p.id = id ∧ l.evaluate p = true) ∨ id ∈ l.matched := by
  simp [mem_update_iff]

theorem mem_updateEach_keep {l : Line} {ps : List Post} {id : Nat} :
    id ∈ (l.updateEach false ps).1.matched ↔
      (∃ p ∈ ps, p.id = id ∧ l.evaluate p = true) ∨ id ∈ l.matched := by
  induction ps generalizing l with
  | nil => simp [updateEach]
  | cons p ps ih =>
    have hrule := (sameRule_update l p false).evaluate
    change id ∈ ((l.update p false).1.updateEach false ps).1.matched ↔ _
    rw [ih, hrule, mem_update_keep]
    simp only [List.mem_cons, exists_eq_or_imp]
    constructor
    · rintro (h | h | h)
      · exact Or.inl (Or.inr h)
      · exact Or.inl (Or.inl h)
      · exact Or.inr h
    · rintro ((h | h) | h)
      · exact Or.inr (Or.inl h)
      · exact Or.inl h
      · exact Or.inr (Or.inr h)

/-- The line remembers exactly the posts of the gallery that it evaluates to true on. -/
def Tracks (l : Line) (g : Gallery) : Prop :=
  ∀ id, id ∈ l.matched ↔ ∃ p ∈ g.posts, p.id = id ∧ l.evaluate p = true

theorem tracks_iff_get? {l : Line} {g : Gallery} :
    l.Tracks g ↔ ∀ id, id ∈ l.matched ↔ ∃ p, g.get? id = some p ∧ l.evaluate p = true := by
  simp only [Tracks, Gallery.get?_eq_some_iff, and_assoc]

theorem Tracks.congr {l m : Line} {g : Gallery} (h : l.Tracks g) (hm : m.matched = l.matched)
    (he : m.evaluate = l.evaluate) : m.Tracks g := by
  intro id
  rw [hm, he]
  exact h id

theorem Tracks.update {l : Line} {g : Gallery} (h : l.Tracks g) (p : Post) :
    (l.update p true).1.Tracks (g.insert p) := by
  rw [tracks_iff_get?] at h ⊢
  intro id
  rw [(sameRule_update l p true).evaluate, mem_update_evict]
  by_cases hid : p.id = id
  · subst hid
    simp [Gallery.get?_insert_self]
  · rw [if_neg hid, Gallery.get?_insert_of_ne g hid]
    exact h id

theorem Tracks.updateEach {l : Line} {g : Gallery} (h : l.Tracks g) (ps : List Post) :
    (l.updateEach true ps).1.Tracks (g.insertAll ps) := by
  induction ps generalizing l g with
  | nil => exact h
  | cons p ps ih => exact ih (h.update p)

theorem tracks_clear (l : Line) : l.clear.Tracks .empty := by
  intro id
  simp [clear, Gallery.empty]

theorem tracks_reindex (l : Line) (g : Gallery) : (l.clear.updateEach true g.posts).1.Tracks g := by
  have h := (tracks_clear l).updateEach g.posts
  rwa [Gallery.insertAll_posts] at h

theorem tracks_of_new {l : Line} (h : l.matched = .empty) (g : Gallery) :
    (l.updateEach false g.posts).1.Tracks g := by
  intro id
  rw [mem_updateEach_keep, h, evaluate_updateEach]
  simp

theorem Tracks.size {l : Line} {g : Gallery} (h : l.Tracks g) :
    l.matched.size = (g.posts.filter l.evaluate).length := by
  have hasc : ((g.posts.filter l.evaluate).map (·.id)).Pairwise (· < ·) :=
    List.pairwise_map.2 (g.ascending.filter _)
  have heq : l.matched = ⟨(g.posts.filter l.evaluate).map (·.id), hasc⟩ := by
    apply IdSet.ext
    intro id
    rw [h id, IdSet.mem_iff]
    simp only [List.mem_map, List.mem_filter]
    constructor
    · rintro ⟨p, hp, hid, he⟩
      exact ⟨p, ⟨hp, he⟩, hid⟩
    · rintro ⟨p, ⟨hp, he⟩, hid⟩
      exact ⟨p, hp, hid, he⟩
  rw [heq, IdSet.size, List.length_map]

end Line

end BoardFilter
