import BoardFilter.Proofs.Line.Matches

/-!
# Versions of a post

A batch may hold several versions of one post. The last of them is the one that a gallery keeps, and
the one that decides whether a line that is shown the batch remembers the post.
-/

namespace BoardFilter

namespace Post

/-- The last version of a post in a batch. -/
def last? (posts : List Post) (id : Nat) : Option Post := (posts.filter (·.id = id)).getLast?

variable {posts : List Post} {id : Nat} {p : Post}

theorem last?_append (ps qs : List Post) (id : Nat) :
    last? (ps ++ qs) id = (last? qs id).or (last? ps id) := by
  rw [last?, List.filter_append, List.getLast?_append, last?, last?]

theorem last?_cons_self (p : Post) (ps : List Post) :
    last? (p :: ps) p.id = (last? ps p.id).or (some p) := by
  have hone : last? [p] p.id = some p := by simp [last?]
  have happ := last?_append [p] ps p.id
  rwa [hone] at happ

theorem last?_cons_of_ne (h : p.id ≠ id) (ps : List Post) : last? (p :: ps) id = last? ps id := by
  rw [last?, List.filter_cons_of_neg (by simpa using h), last?]

theorem of_last? (h : last? posts id = some p) : p ∈ posts ∧ p.id = id := by
  have hmem := List.mem_filter.1 (List.mem_of_getLast? h)
  exact ⟨hmem.1, of_decide_eq_true hmem.2⟩

theorem last?_eq_none_iff : last? posts id = none ↔ ∀ p ∈ posts, p.id ≠ id := by
  simp [last?]

theorem exists_last? (h : p ∈ posts) : ∃ q, last? posts p.id = some q := by
  cases hlast : last? posts p.id with
  | none => exact absurd rfl (last?_eq_none_iff.1 hlast p h)
  | some q => exact ⟨q, rfl⟩

theorem last?_map {f : Post → Post} (hf : ∀ p, (f p).id = p.id) (posts : List Post) (id : Nat) :
    last? (posts.map f) id = (last? posts id).map f := by
  have hsame : (fun p : Post => decide (p.id = id)) ∘ f = fun p => decide (p.id = id) := by
    funext p
    rw [Function.comp_apply, hf]
  rw [last?, List.filter_map, hsame, List.getLast?_map, last?]

end Post

theorem Gallery.get?_insertAll (g : Gallery) (posts : List Post) (id : Nat) :
    (g.insertAll posts).get? id = (Post.last? posts id).or (g.get? id) := by
  induction posts generalizing g with
  | nil => rfl
  | cons p ps ih =>
    change ((g.insert p).insertAll ps).get? id = _
    rw [ih]
    by_cases hid : p.id = id
    · subst hid
      rw [get?_insert_self, Post.last?_cons_self, Option.or_assoc, Option.some_or]
    · rw [get?_insert_of_ne g hid, Post.last?_cons_of_ne hid]

namespace Line

theorem updateEach_append (l : Line) (evict : Bool) (ps qs : List Post) :
    (l.updateEach evict (ps ++ qs)).1 = ((l.updateEach evict ps).1.updateEach evict qs).1 := by
  induction ps generalizing l with
  | nil => rfl
  | cons p ps ih => exact ih (l.update p evict).1

theorem mem_updateEach_evict {l : Line} {posts : List Post} {id : Nat} :
    id ∈ (l.updateEach true posts).1.matched ↔
      (Post.last? posts id).elim (id ∈ l.matched) (l.evaluate · = true) := by
  induction posts generalizing l with
  | nil => rfl
  | cons p ps ih =>
    change id ∈ ((l.update p true).1.updateEach true ps).1.matched ↔ _
    rw [ih, (sameRule_update l p true).evaluate, mem_update_evict]
    by_cases hid : p.id = id
    · subst hid
      rw [Post.last?_cons_self, if_pos rfl]
      cases Post.last? ps p.id <;> rfl
    · rw [Post.last?_cons_of_ne hid, if_neg hid]

theorem SameRule.eq_of_matched {l m : Line} (h : l.SameRule m)
    (hmem : ∀ id, id ∈ l.matched ↔ id ∈ m.matched) : l = m := by
  obtain ⟨htext, hclauses, hcount, henabled⟩ := h
  rw [Line.mk.injEq]
  exact ⟨htext, hclauses, hcount, henabled, IdSet.ext hmem⟩

theorem SameRule.symm {l m : Line} (h : l.SameRule m) : m.SameRule l :=
  ⟨h.1.symm, h.2.1.symm, h.2.2.1.symm, h.2.2.2.symm⟩

theorem updateEach_congr (l : Line) {ps qs : List Post}
    (h : ∀ id, Post.last? ps id = Post.last? qs id) :
    (l.updateEach true ps).1 = (l.updateEach true qs).1 := by
  have hrule := (sameRule_updateEach l true ps).trans (sameRule_updateEach l true qs).symm
  apply hrule.eq_of_matched
  intro id
  rw [mem_updateEach_evict, mem_updateEach_evict, h]

end Line

end BoardFilter
