import BoardFilter.Proofs.Clause.Exempting
import BoardFilter.Proofs.Session.Outcome

/-!
# Exempt posts match no line

Two things hold in every session on settings whose writes succeed: its lines were all compiled under
the exemptions of the session, wherever they came from, and every known post that is among the
favorites carries the mark that the clauses of the exemptions ask for. No line can therefore match
a post that is exempt.
-/

namespace BoardFilter

theorem Line.Compiled.not_evaluate {l : Line} {ex : Exemptions} (h : l.Compiled ex) {p : Post}
    (hp : ex.Covers p) : l.evaluate p = false := by
  obtain ⟨c, hc, hfail⟩ := hp.exists_fails
  have hmem : c ∈ l.clauses := by
    rw [h.clauses]
    exact List.mem_append_left _ hc
  exact h.counted.not_evaluate hmem (Exemptions.optional_of_mem_clauses hc) hfail

def Gallery.Marks (g : Gallery) (favorites : IdSet) : Prop :=
  ∀ p ∈ g.posts, p.id ∈ favorites → p.isFavorited = true

theorem Favorites.id_mark (favorites : IdSet) (p : Post) : (mark favorites p).id = p.id := by
  unfold mark
  split <;> rfl

theorem Favorites.isFavorited_mark {favorites : IdSet} {p : Post} (h : p.id ∈ favorites) :
    (mark favorites p).isFavorited = true := by
  rw [mark, if_pos h]

namespace Gallery

variable {g : Gallery} {favorites : IdSet}

theorem mem_insertAll {l : List Post} {p : Post} (h : p ∈ (g.insertAll l).posts) :
    p ∈ l ∨ p ∈ g.posts := by
  induction l generalizing g with
  | nil => exact Or.inr h
  | cons q rest ih =>
    rcases ih (g := g.insert q) h with h | h
    · exact Or.inl (List.mem_cons_of_mem q h)
    · rcases mem_place h with rfl | h
      · exact Or.inl (by simp)
      · exact Or.inr h

theorem Marks.insertAll (h : g.Marks favorites) (posts : List Post) :
    (g.insertAll (posts.map (Favorites.mark favorites))).Marks favorites := by
  intro p hp hfav
  rcases mem_insertAll hp with hp | hp
  · obtain ⟨q, -, rfl⟩ := List.mem_map.1 hp
    rw [Favorites.id_mark] at hfav
    exact Favorites.isFavorited_mark hfav
  · exact h p hp hfav

theorem marks_remark (g : Gallery) (favorites : IdSet) :
    (g.remark fun id => id ∈ favorites).Marks favorites := by
  intro p hp hfav
  obtain ⟨q, -, rfl⟩ := List.mem_map.1 hp
  exact decide_eq_true hfav

end Gallery

namespace Session

variable {s : Session}

structure Guarded (s : Session) : Prop where
  lines : ∃ m, Filed (· = s.exemptions) m s.blacklist
  marks : s.known.Marks s.favorites

theorem Begins.guarded (h : s.Begins) : s.Guarded := by
  obtain ⟨c, hc, hlines⟩ := h.lines
  refine ⟨⟨_, hlines ▸ Filed.empty.apply hc⟩, ?_⟩
  rw [h.known]
  intro p hp
  cases hp

theorem Guarded.effect {t : Session} {failure : Option Failure} (h : s.Guarded)
    (he : s.Effect failure t) : t.Guarded := by
  obtain ⟨m, hm⟩ := h.lines
  cases he with
  | failed failure client => exact ⟨⟨m, hm⟩, h.marks⟩
  | ingested client posts =>
    exact ⟨⟨_, hm.apply (c := .add (posts.map (Favorites.mark s.favorites))) trivial⟩,
      h.marks.insertAll posts⟩
  | kept => exact h
  | edited changes hc => exact ⟨⟨_, hm.applyAll hc⟩, h.marks⟩
  | synced client favorites =>
    exact ⟨⟨_, hm.apply (c := .reindex (s.known.remark fun id => id ∈ favorites).posts) trivial⟩,
      s.known.marks_remark favorites⟩
  | reindexed =>
    exact ⟨⟨_, hm.apply (c := .reindex (s.known.remark fun id => id ∈ s.favorites).posts) trivial⟩,
      s.known.marks_remark s.favorites⟩

theorem Undisturbed.guarded (h : s.Undisturbed) : s.Guarded := by
  induction h with
  | opened hw h => exact (Opening.begins hw h).guarded
  | next h op ih => exact ih.effect (h.effect op)

/-- The post is exempt in the session: a favorite, an upload of the account, or with a tag of the
whitelist, as far as the configuration asks for it. -/
def Exempts (s : Session) (p : Post) : Prop :=
  (s.config.exemptFavorites = true ∧ p.id ∈ s.favorites) ∨
  (s.config.exemptUploads = true ∧ ∃ user, s.user = some user ∧ p.uploader = user.id) ∨
  ∃ tag ∈ s.config.whitelist, '*' ∉ tag.toList ∧ p.tags.contains (Text.lowercase tag) = true

theorem Exempts.covers {p : Post} (h : s.Exempts p) (hmarks : s.known.Marks s.favorites)
    (hp : p ∈ s.known.posts) : s.exemptions.Covers p := by
  rcases h with ⟨hex, hfav⟩ | ⟨hex, user, huser, hup⟩ | ⟨tag, htag, hstar, hmem⟩
  · exact Or.inl ⟨hex, hmarks p hp hfav⟩
  · refine Or.inr (Or.inl ?_)
    simp only [exemptions, Configuration.Blacklist.exemptions, hex, ↓reduceIte, huser,
      Option.map_some, hup]
  · refine Or.inr (Or.inr ⟨Text.lowercase tag, List.mem_map_of_mem htag, ?_, ?_⟩)
    · rw [Text.lowercase, String.toList_ofList]
      exact Text.star_not_mem_lowered hstar
    · rw [Text.lowercase_lowercase]
      exact hmem

/-- In every session on settings whose writes succeed, a known post that is exempt is matched by no
line, enabled or not, and no report on it tells of a match. -/
theorem Undisturbed.exempt_posts_match_nothing (h : s.Undisturbed) {p : Post}
    (hp : p ∈ s.known.posts) (hex : s.Exempts p) :
    (∀ l ∈ s.blacklist.lines, p.id ∉ l.matched) ∧
      ∀ q : Post, q.id = p.id → (s.report q).state = .noMatch ∧ (s.report q).lines = [] := by
  have hguard := h.guarded
  have hnone : ∀ l ∈ s.blacklist.lines, p.id ∉ l.matched := by
    intro l hl hmem
    obtain ⟨m, hm⟩ := hguard.lines
    obtain ⟨ex, rfl, hcomp⟩ := hm.exists_compiled hl
    have heval := (h.reachable.coherent.mem_matched_iff hl hp).1 hmem
    rw [hcomp.not_evaluate (hex.covers hguard.marks hp)] at heval
    cases heval
  refine ⟨hnone, fun q hq => ⟨?_, ?_⟩⟩
  · apply Blacklist.state_eq_noMatch_iff.2
    rintro ⟨l, hl, hmem⟩
    rw [hq] at hmem
    exact hnone l hl hmem
  · apply List.eq_nil_iff_forall_not_mem.2
    intro t ht
    obtain ⟨l, hl, -, hmem⟩ := mem_report_lines.1 ht
    rw [hq] at hmem
    exact hnone l hl hmem

theorem mem_known_ingest {p : Post} (hknown : s.known = .empty) (hfav : p.id ∉ s.favorites) :
    p ∈ (s.ingest [p]).2.known.posts := by
  rw [ingest, hknown, List.map_singleton, Favorites.mark, if_neg hfav]
  simp [Gallery.insertAll, Gallery.insert, Gallery.place, Gallery.empty]

/-- The id of the account has no binary64 number of its own. -/
theorem exempt_posts_match_nothing_of_uploader :
    let config : Configuration.Blacklist := { lines := ["duo"], exemptUploads := true }
    let client : Site.Client := .opened { username := some "mine", apiKey := some "key" }
      [⟨.received 200 "\x7b\"id\": 9007199254740993, \"name\": \"mine\"\x7d", 0⟩]
    let p : Post := { id := 1, uploader := 9007199254740993, tags := .ofFlat "duo" }
    ∃ s, Session.connected config .empty client = .ok s ∧
      let t := s.apply (.ingest [p])
      p ∈ t.known.posts ∧ t.Exempts p ∧ (∀ l ∈ t.blacklist.lines, 1 ∉ l.matched) ∧
        (t.report p).state = .noMatch := by
  suffices h : ∀ (config : Configuration.Blacklist) (client : Site.Client) (p : Post),
      config.exemptUploads = true →
      client.authenticate.1.toOption.bind id = some ⟨9007199254740993, "mine", []⟩ →
      p.id = 1 → p.uploader = 9007199254740993 →
      ∃ s, Session.connected config .empty client = .ok s ∧
        let t := s.apply (.ingest [p])
        p ∈ t.known.posts ∧ t.Exempts p ∧ (∀ l ∈ t.blacklist.lines, 1 ∉ l.matched) ∧
          (t.report p).state = .noMatch from
    h _ _ _ rfl (by decide +kernel) rfl rfl
  intro config client p hasks hlogin hid hup
  obtain ⟨s, hs, hconfig, huser, -, hknown, hfav⟩ :=
    opened_empty config client.authenticate.2 (client.authenticate.1.toOption.bind id)
  rw [← connected_eq_opened] at hs
  have hsession : Opening.session ⟨config, client, true⟩ .empty = .ok s := by
    rw [Opening.session, if_pos rfl]
    exact hs
  have ht := (Undisturbed.opened writable_empty hsession).next (.ingest [p])
  have hp : p ∈ (s.apply (.ingest [p])).known.posts := mem_known_ingest hknown (by simp [hfav])
  have hex : (s.apply (.ingest [p])).Exempts p := by
    refine Or.inr (Or.inl ⟨?_, ⟨9007199254740993, "mine", []⟩, ?_, hup⟩)
    · exact hconfig ▸ hasks
    · exact huser.trans hlogin
  obtain ⟨hnone, hreport⟩ := Undisturbed.exempt_posts_match_nothing ht hp hex
  rw [hid] at hnone
  exact ⟨s, hs, hp, hex, hnone, (hreport p rfl).1⟩

end Session

end BoardFilter
