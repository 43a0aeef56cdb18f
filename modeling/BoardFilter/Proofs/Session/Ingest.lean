import BoardFilter.Proofs.Blacklist.Batches
import BoardFilter.Proofs.Session.Exempt

/-!
# Reports on a batch

Every post of a batch is reported as it came, but what is said of it is what holds of the last
version of the post in the batch, since the lines have been shown all of them by then. That version
is also the one that becomes known.
-/

namespace BoardFilter

namespace Blacklist

def verdict (b : Blacklist) (p : Post) : MatchState :=
  if b.lines.any fun l => l.enabled && l.evaluate p then .enabled
  else if b.lines.any fun l => l.evaluate p then .disabled
  else .noMatch

def textsMatching (b : Blacklist) (p : Post) : List String :=
  (b.lines.filter fun l => l.evaluate p).map (·.text)

variable {b : Blacklist} {id : Nat} {p : Post}

theorem state_eq_verdict (h : ∀ l ∈ b.lines, id ∈ l.matched ↔ l.evaluate p = true) :
    b.state id = b.verdict p := by
  have henabled : (b.lines.any fun l => l.enabled && l.evaluate p) = true ↔
      ∃ l ∈ b.lines, l.enabled = true ∧ id ∈ l.matched := by
    rw [List.any_eq_true]
    exact exists_congr fun l => and_congr_right fun hl => by rw [Bool.and_eq_true, h l hl]
  have hany : (b.lines.any fun l => l.evaluate p) = true ↔ ∃ l ∈ b.lines, id ∈ l.matched := by
    rw [List.any_eq_true]
    exact exists_congr fun l => and_congr_right fun hl => (h l hl).symm
  rw [verdict]
  split
  · next hon => exact state_eq_enabled_iff.2 (henabled.1 hon)
  · next hoff =>
    split
    · next hmatch =>
      cases hs : b.state id with
      | enabled => exact absurd (henabled.2 (state_eq_enabled_iff.1 hs)) hoff
      | disabled => rfl
      | noMatch => exact absurd (hany.1 hmatch) (state_eq_noMatch_iff.1 hs)
    · next hnone => exact state_eq_noMatch_iff.2 fun hmem => hnone (hany.2 hmem)

theorem verdict_add (b : Blacklist) (posts : List Post) (p : Post) :
    (b.add posts).1.verdict p = b.verdict p := by
  simp only [verdict, lines_add, List.any_map, Function.comp_def, Line.evaluate_updateEach,
    Line.enabled_updateEach]

theorem textsMatching_add (b : Blacklist) (posts : List Post) (p : Post) :
    (b.add posts).1.textsMatching p = b.textsMatching p := by
  simp only [textsMatching, lines_add, List.filter_map, List.map_map, Function.comp_def,
    Line.evaluate_updateEach, Line.text_updateEach]

theorem mem_matched_add {posts : List Post} {l : Line} (hl : l ∈ (b.add posts).1.lines)
    (hp : Post.last? posts id = some p) : id ∈ l.matched ↔ l.evaluate p = true := by
  rw [lines_add] at hl
  obtain ⟨m, -, rfl⟩ := List.mem_map.1 hl
  rw [Line.mem_updateEach_evict, hp, Line.evaluate_updateEach]
  rfl

end Blacklist

theorem Favorites.mark_eq (favorites : IdSet) (p : Post) :
    mark favorites p = { p with isFavorited := p.isFavorited || decide (p.id ∈ favorites) } := by
  by_cases h : p.id ∈ favorites <;> simp [mark, h]

namespace Session

variable {s : Session}

theorem report_ingest {posts : List Post} {p q : Post}
    (hq : Post.last? (posts.map (Favorites.mark s.favorites)) p.id = some q) :
    ((s.ingest posts).2.report p).state = s.blacklist.verdict q ∧
      ((s.ingest posts).2.report p).lines = s.blacklist.textsMatching q := by
  have hmem : ∀ l ∈ (s.ingest posts).2.blacklist.lines, p.id ∈ l.matched ↔ l.evaluate q = true :=
    fun l hl => Blacklist.mem_matched_add hl hq
  constructor
  · exact (Blacklist.state_eq_verdict hmem).trans (s.blacklist.verdict_add _ q)
  · rw [← s.blacklist.textsMatching_add (posts.map (Favorites.mark s.favorites)) q]
    change (List.filter _ _).map _ = (List.filter _ _).map _
    congr 1
    apply List.filter_congr
    intro l hl
    rw [Bool.eq_iff_iff, decide_eq_true_iff]
    exact hmem l hl

/-- Ingesting reports on every post in turn, with the marks of the favorites put on it; the state
and the lines are those of the last version of the post. The last versions become known in the place
of what was known, and apart from the matches nothing else changes. -/
theorem ingest_reports_last_versions (s : Session) (posts : List Post) :
    let seen := fun p : Post =>
      { p with isFavorited := p.isFavorited || decide (p.id ∈ s.favorites) }
    let t := (s.ingest posts).2
    List.Forall₂ (fun p r => r.post = seen p ∧ ∃ q, Post.last? posts p.id = some q ∧
        r.state = s.blacklist.verdict (seen q) ∧ r.lines = s.blacklist.textsMatching (seen q) ∧
        r.lines.Pairwise (· < ·))
      posts (s.ingest posts).1 ∧
    (∀ id, t.known.get? id = ((Post.last? posts id).map seen).or (s.known.get? id)) ∧
    List.Forall₂ Line.SameRule s.blacklist.lines t.blacklist.lines ∧
    t.favorites = s.favorites ∧ t.settings = s.settings := by
  intro seen t
  have hseen : Favorites.mark s.favorites = seen := funext (Favorites.mark_eq s.favorites)
  have hid : ∀ p, (seen p).id = p.id := fun _ => rfl
  refine ⟨?_, fun id => ?_, ?_, rfl, rfl⟩
  · change List.Forall₂ _ posts ((posts.map (Favorites.mark s.favorites)).map t.report)
    rw [List.forall₂_map_right_iff, List.forall₂_map_right_iff, List.forall₂_same, hseen]
    intro p hp
    obtain ⟨q, hq⟩ := Post.exists_last? hp
    have hlast :
        Post.last? (posts.map (Favorites.mark s.favorites)) (seen p).id = some (seen q) := by
      rw [hseen, Post.last?_map hid, hid, hq, Option.map_some]
    obtain ⟨hstate, hlines⟩ := report_ingest hlast
    have hsorted : (s.blacklist.textsMatching (seen q)).Pairwise (· < ·) :=
      List.pairwise_map.2 (s.blacklist.ascending.filter _)
    exact ⟨rfl, q, hq, hstate, hlines, by rwa [hlines]⟩
  · change (s.known.insertAll _).get? id = _
    rw [Gallery.get?_insertAll, hseen, Post.last?_map hid]
  · exact (s.blacklist.forall₂_add _).imp fun _ _ hline => hline.1.symm

theorem ingest_reports_last_versions_of_pair :
    ∃ s, Session.opened { lines := ["score:5", "fav:yes"] }
        (Settings.empty.set Favorites.key (.array [.nat 1])) default none = .ok s ∧ s.Reachable ∧
      (s.ingest [{ id := 1, score := 5 }, { id := 1 }]).1 =
        [⟨{ id := 1, score := 5, isFavorited := true }, .enabled, ["fav:yes"]⟩,
          ⟨{ id := 1, isFavorited := true }, .enabled, ["fav:yes"]⟩] := by
  obtain ⟨s, hs, hb, hf⟩ : ∃ s, Session.opened { lines := ["score:5", "fav:yes"] }
      (Settings.empty.set Favorites.key (.array [.nat 1])) default none = .ok s ∧
      s.blacklist = Blacklist.empty.load ["score:5", "fav:yes"] true {} ∧
      s.favorites = .ofList [1] := ⟨_, rfl, rfl, rfl⟩
  have hmem : 1 ∈ s.favorites := by simp [hf]
  have hlast : Post.last? [{ id := 1, score := 5 }, { id := 1 }] 1 = some { id := 1 } := rfl
  have hstate : s.blacklist.verdict { id := 1, isFavorited := true } = .enabled := by
    rw [hb]
    decide +kernel
  have htexts : s.blacklist.textsMatching { id := 1, isFavorited := true } = ["fav:yes"] := by
    rw [hb]
    decide +kernel
  have hreports := (ingest_reports_last_versions s [{ id := 1, score := 5 }, { id := 1 }]).1
  simp only [List.forall₂_cons_left_iff, List.forall₂_nil_left_iff, hlast, Option.some.injEq,
    exists_eq_left', hmem, decide_true, Bool.or_true, hstate, htexts] at hreports
  obtain ⟨⟨_, _, _⟩, _, ⟨rfl, rfl, rfl, -⟩, ⟨⟨_, _, _⟩, _, ⟨rfl, rfl, rfl, -⟩, rfl, rfl⟩, heq⟩ :=
    hreports
  exact ⟨s, hs, .opened hs, heq⟩

end Session

end BoardFilter
