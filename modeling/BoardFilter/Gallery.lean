import BoardFilter.Post.Basic

/-!
# Galleries

The posts that have been seen, one for each id, in ascending order of their ids. A later version of
a post takes the place of an earlier one.
-/

namespace BoardFilter

structure Gallery where
  posts : List Post
  ascending : posts.Pairwise (·.id < ·.id)

namespace Gallery

def empty : Gallery := ⟨[], .nil⟩

instance : Inhabited Gallery := ⟨empty⟩

def place (p : Post) : List Post → List Post
  | [] => [p]
  | q :: rest =>
    if p.id < q.id then p :: q :: rest
    else if p.id = q.id then p :: rest
    else q :: place p rest

theorem mem_place {p q : Post} {l : List Post} (h : q ∈ place p l) : q = p ∨ q ∈ l := by
  induction l with
  | nil => simpa [place] using h
  | cons r rest ih => grind [place]

theorem ascending_place {p : Post} {l : List Post} (h : l.Pairwise (·.id < ·.id)) :
    (place p l).Pairwise (·.id < ·.id) := by
  induction l with
  | nil => simp [place]
  | cons q rest ih =>
    have hq := List.pairwise_cons.1 h
    simp only [place]
    split
    · next hpq =>
      refine List.pairwise_cons.2 ⟨fun r hr => ?_, h⟩
      rcases List.mem_cons.1 hr with rfl | hr
      · exact hpq
      · exact Nat.lt_trans hpq (hq.1 r hr)
    split
    · next hpq =>
      exact List.pairwise_cons.2 ⟨fun r hr => hpq ▸ hq.1 r hr, hq.2⟩
    · next hlt hne =>
      refine List.pairwise_cons.2 ⟨fun r hr => ?_, ih hq.2⟩
      rcases mem_place hr with rfl | hr
      · omega
      · exact hq.1 r hr

def insert (g : Gallery) (p : Post) : Gallery := ⟨place p g.posts, ascending_place g.ascending⟩

def insertAll (g : Gallery) (posts : List Post) : Gallery := posts.foldl insert g

def get? (g : Gallery) (id : Nat) : Option Post := g.posts.find? fun p => p.id = id

def remark (g : Gallery) (isFavorite : Nat → Bool) : Gallery where
  posts := g.posts.map fun p => { p with isFavorited := isFavorite p.id }
  ascending := List.pairwise_map.2 g.ascending

theorem get?_insert_self (g : Gallery) (p : Post) : (g.insert p).get? p.id = some p := by
  obtain ⟨l, hl⟩ := g
  simp only [insert, get?]
  induction l with
  | nil => simp [place]
  | cons q rest ih =>
    simp only [place]
    split
    · simp
    split
    · simp
    · next hne =>
      have hq : ¬ q.id = p.id := fun e => hne e.symm
      simpa [hq] using ih (List.pairwise_cons.1 hl).2

theorem get?_insert_of_ne {id : Nat} {p : Post} (g : Gallery) (h : p.id ≠ id) :
    (g.insert p).get? id = g.get? id := by
  obtain ⟨l, hl⟩ := g
  simp only [insert, get?]
  induction l with
  | nil => simp [place, h]
  | cons q rest ih =>
    simp only [place]
    split
    · simp [List.find?_cons, h]
    split
    · next hpq =>
      have hq : ¬ q.id = id := fun e => h (hpq.trans e)
      simp [h, hq]
    · by_cases hq : q.id = id
      · simp [hq]
      · simpa [hq] using ih (List.pairwise_cons.1 hl).2

end Gallery

end BoardFilter
