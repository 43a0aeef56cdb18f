import BoardFilter.Proofs.Blacklist.Lines
import BoardFilter.Proofs.Line.Updates
import BoardFilter.Proofs.Line.Versions
import Mathlib.Data.List.Forall2

/-!
# Batches of posts

What a blacklist remembers of a batch is decided by the last version of each post in it, so batches
may be joined, repeated and, where they have no post in common, shown in any order. The count of
the lines that match is about all versions.
-/

namespace BoardFilter

namespace Blacklist

variable (b : Blacklist)

theorem add_append (ps qs : List Post) :
    (b.add (ps ++ qs)).1 = ((b.add ps).1.add qs).1 := by
  apply ext
  rw [lines_add, lines_add, lines_add, List.map_map]
  apply List.map_congr_left
  intro l _
  rw [Function.comp_apply, l.updateEach_append]

theorem add_congr {ps qs : List Post} (h : ∀ id, Post.last? ps id = Post.last? qs id) :
    (b.add ps).1 = (b.add qs).1 := by
  apply ext
  rw [lines_add, lines_add]
  apply List.map_congr_left
  intro l _
  exact l.updateEach_congr h

theorem add_snd (posts : List Post) :
    (b.add posts).2 = b.lines.countP fun l => posts.any l.evaluate := by
  rw [add, List.countP_map]
  apply List.countP_congr
  intro l _
  rw [Function.comp_apply, Line.updateEach_snd, List.any_map]
  rfl

theorem add_snd_add (ps qs : List Post) : ((b.add ps).1.add qs).2 = (b.add qs).2 := by
  rw [add_snd, lines_add, List.countP_map, add_snd]
  apply List.countP_congr
  intro l _
  rw [Function.comp_apply, Line.evaluate_updateEach]

theorem add_comm_of_disjoint {ps qs : List Post} (h : ∀ p ∈ ps, ∀ q ∈ qs, p.id ≠ q.id) :
    ((b.add ps).1.add qs).1 = ((b.add qs).1.add ps).1 := by
  rw [← add_append, ← add_append]
  apply b.add_congr
  intro id
  rw [Post.last?_append, Post.last?_append]
  cases hp : Post.last? ps id with
  | none => rw [Option.or_none, Option.none_or]
  | some p =>
    cases hq : Post.last? qs id with
    | none => rw [Option.or_none, Option.none_or]
    | some q =>
      obtain ⟨hmemp, hidp⟩ := Post.of_last? hp
      obtain ⟨hmemq, hidq⟩ := Post.of_last? hq
      exact absurd (hidp.trans hidq.symm) (h p hmemp q hmemq)

theorem add_add_self (posts : List Post) : (b.add posts).1.add posts = b.add posts := by
  have hlines : ((b.add posts).1.add posts).1 = (b.add posts).1 := by
    rw [← add_append]
    apply b.add_congr
    intro id
    rw [Post.last?_append, Option.or_self]
  exact Prod.ext hlines (b.add_snd_add posts posts)

theorem forall₂_add (posts : List Post) :
    List.Forall₂ (fun l m => m.SameRule l ∧ ∀ id, id ∈ m.matched ↔
      (Post.last? posts id).elim (id ∈ l.matched) (l.evaluate · = true))
      b.lines (b.add posts).1.lines := by
  rw [lines_add, List.forall₂_map_right_iff, List.forall₂_same]
  intro l _
  exact ⟨l.sameRule_updateEach true posts, fun _ => Line.mem_updateEach_evict⟩

theorem clear_reindex (posts : List Post) : (b.reindex posts).1.clear = b.clear := by
  apply ext
  rw [clear, clear, lines_map, lines_map, lines_reindex, List.map_map]
  apply List.map_congr_left
  intro l _
  have hrule := (Line.sameRule_updateEach l.clear true posts).trans l.sameRule_clear
  exact hrule.clear_eq

theorem reindex_congr {b c : Blacklist} (h : b.clear = c.clear) (posts : List Post) :
    b.reindex posts = c.reindex posts := by
  rw [reindex, reindex, h]

theorem clear_eq_of_sameRule {b c : Blacklist}
    (h : List.Forall₂ Line.SameRule b.lines c.lines) : b.clear = c.clear := by
  apply ext
  rw [clear, clear, lines_map, lines_map, ← List.forall₂_eq_eq_eq, List.forall₂_map_left_iff,
    List.forall₂_map_right_iff]
  exact h.imp fun _ _ hrule => hrule.clear_eq

/-- A batch comes to what the last versions of its posts come to, whatever was remembered before:
batches can be joined, repeated and, where they have no post in common, exchanged. The count is that
of the lines that match some version, and reindexing starts from the rules of the lines alone. -/
theorem add_by_last_versions (b : Blacklist) :
    (∀ ps qs, (b.add (ps ++ qs)).1 = ((b.add ps).1.add qs).1) ∧
    (∀ ps qs : List Post, (∀ p ∈ ps, ∀ q ∈ qs, p.id ≠ q.id) →
      ((b.add ps).1.add qs).1 = ((b.add qs).1.add ps).1) ∧
    (∀ posts, (b.add posts).1.add posts = b.add posts) ∧
    (∀ posts, List.Forall₂ (fun l m => m.SameRule l ∧ ∀ id, id ∈ m.matched ↔
      (Post.last? posts id).elim (id ∈ l.matched) (l.evaluate · = true))
      b.lines (b.add posts).1.lines) ∧
    (∀ posts, (b.add posts).2 = b.lines.countP fun l => posts.any l.evaluate) ∧
    ∀ c : Blacklist, List.Forall₂ Line.SameRule b.lines c.lines →
      ∀ posts, b.reindex posts = c.reindex posts :=
  ⟨b.add_append, fun _ _ => b.add_comm_of_disjoint, b.add_add_self, b.forall₂_add, b.add_snd,
    fun _ h => reindex_congr (clear_eq_of_sameRule h)⟩

theorem add_by_last_versions_of_two_batches :
    let b := empty.load ["score:5", "duo"] true {}
    let ps : List Post := [{ id := 1, score := 5 }, { id := 1 }]
    let qs : List Post := [{ id := 2, tags := .ofFlat "duo" }]
    (∀ p ∈ ps, ∀ q ∈ qs, p.id ≠ q.id) ∧
      ((b.add ps).1.add qs).1 = ((b.add qs).1.add ps).1 ∧ (b.add ps).2 = 1 ∧
      (∀ l ∈ (b.add ps).1.lines, 1 ∉ l.matched) ∧
      List.Forall₂ Line.SameRule b.lines (b.add ps).1.lines ∧
      b.reindex qs = (b.add ps).1.reindex qs := by
  intro b ps qs
  obtain ⟨-, hcomm, -, hlines, hcount, hreindex⟩ := add_by_last_versions b
  have hdisjoint : ∀ p ∈ ps, ∀ q ∈ qs, p.id ≠ q.id := by decide
  have hone : (b.add ps).2 = 1 := by
    rw [hcount]
    decide +kernel
  have hrules : List.Forall₂ Line.SameRule b.lines (b.add ps).1.lines :=
    (hlines ps).imp fun _ _ hline => hline.1.symm
  have hforgotten : ∀ l ∈ (b.add ps).1.lines, 1 ∉ l.matched := by
    decide +kernel
  exact ⟨hdisjoint, hcomm ps qs hdisjoint, hone, hforgotten, hrules,
    hreindex (b.add ps).1 hrules qs⟩

end Blacklist

end BoardFilter
