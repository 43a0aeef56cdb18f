import BoardFilter.Session
import BoardFilter.Proofs.Blacklist.Lines
import BoardFilter.Proofs.Blacklist.Visibility

/-!
# Sessions remember what their posts say

The matches of the lines are never computed anew but patched by every operation of a session. In
every session that can come about they are nevertheless those of the known posts as they are stored,
whether the operations before succeeded or failed.
-/

namespace BoardFilter.Session

inductive Operation where
  | ingest (posts : List Post)
  | search (tags : List String) (first count limit : Nat)
  | fetch (ids : List Nat)
  | check (path : String) (content : Option String)
  | addLine (text : String)
  | removeLine (text : String)
  | toggleLine (text : String)
  | setAll (enabled : Bool)
  | syncFavorites
  | reindex

def apply (s : Session) : Operation → Session
  | .ingest posts => (s.ingest posts).2
  | .search tags first count limit => (s.search tags first count limit).2.2
  | .fetch ids => (s.fetch ids).2
  | .check path content => (s.check path content).2
  | .addLine text => (s.addLine text).2
  | .removeLine text => (s.removeLine text).2
  | .toggleLine text => (s.toggleLine text).2
  | .setAll enabled => (s.setAll enabled).2
  | .syncFavorites => s.syncFavorites.2
  | .reindex => s.reindex

/-- The sessions that can come about, on any settings and any site. -/
inductive Reachable : Session → Prop where
  | opened {config : Configuration.Blacklist} {settings : Settings} {client : Site.Client}
      {s : Session} (h : Session.opened config settings client none = .ok s) : Reachable s
  | connected {config : Configuration.Blacklist} {settings : Settings} {client : Site.Client}
      {s : Session} (h : Session.connected config settings client = .ok s) : Reachable s
  | next {s : Session} (h : Reachable s) (op : Operation) : Reachable (s.apply op)

def Follows (b : Blacklist) (g : Gallery) : Prop := ∀ l ∈ b.lines, l.Tracks g

def Fresh (b : Blacklist) : Prop := ∀ l ∈ b.lines, l.matched = .empty

theorem fresh_empty : Fresh .empty := by simp [Fresh, Blacklist.empty]

theorem Fresh.create {b : Blacklist} (h : Fresh b) (text : String) (enabled : Bool)
    (ex : Exemptions) : Fresh (b.create text enabled ex).1 := by
  rcases b.create_cases text enabled ex with ⟨-, he⟩ | ⟨-, -, he⟩
  · rw [he]
    exact h
  · rw [he]
    intro l hl
    rcases Blacklist.mem_of_mem_place hl with rfl | hl
    · rfl
    · exact h l hl

theorem Fresh.load {b : Blacklist} (h : Fresh b) (texts : List String) (enabled : Bool)
    (ex : Exemptions) : Fresh (b.load texts enabled ex) := by
  induction texts generalizing b with
  | nil => exact h
  | cons text rest ih =>
    rw [Blacklist.load, List.foldl_cons, ← Blacklist.load]
    exact ih (h.create text enabled ex)

theorem Fresh.restore {b c : Blacklist} (h : Fresh b) {settings : Settings} {ex : Exemptions}
    {found : Bool} (hr : b.restore settings ex = .ok (c, found)) : Fresh c := by
  unfold Blacklist.restore at hr
  cases hread : settings.read? Blacklist.key (Json.asList? Blacklist.entry?) with
  | error state => simp [hread, Except.map] at hr
  | ok stored =>
    cases stored with
    | none =>
      simp only [hread, Except.map, Except.ok.injEq, Prod.mk.injEq] at hr
      rw [← hr.1]
      exact h
    | some entries =>
      simp only [hread, Except.map, Except.ok.injEq, Prod.mk.injEq] at hr
      rw [← hr.1]
      clear hr hread
      induction entries generalizing b with
      | nil => exact h
      | cons e rest ih =>
        rw [List.foldl_cons]
        exact ih (h.create e.1 e.2 ex)

theorem Fresh.follows {b : Blacklist} (h : Fresh b) : Follows b .empty := by
  intro l hl id
  rw [h l hl]
  simp [Gallery.empty]

theorem fresh_opened {config : Configuration.Blacklist} {settings : Settings}
    {client : Site.Client} {user : Option Site.Profile} {s : Session}
    (h : opened config settings client user = .ok s) :
    Fresh s.blacklist ∧ s.known = .empty := by
  unfold opened at h
  simp only at h
  split at h
  · cases h
  · next restored found hr =>
    split at h
    · cases h
    split at h
    · cases h
    · cases h
      refine ⟨?_, rfl⟩
      cases found
      · exact fresh_empty.load _ _ _
      · exact fresh_empty.restore hr

section

variable {b : Blacklist} {g : Gallery}

theorem Follows.add (h : Follows b g) (posts : List Post) :
    Follows (b.add posts).1 (g.insertAll posts) := by
  rw [Follows, Blacklist.lines_add]
  intro l hl
  obtain ⟨m, hm, rfl⟩ := List.mem_map.1 hl
  exact (h m hm).updateEach posts

theorem follows_reindex (b : Blacklist) (k : Gallery) : Follows (b.reindex k.posts).1 k := by
  rw [Follows, Blacklist.lines_reindex]
  intro l hl
  obtain ⟨m, -, rfl⟩ := List.mem_map.1 hl
  exact m.tracks_reindex k

theorem Follows.map (h : Follows b g) {f : Line → Line} (ht : ∀ l, (f l).text = l.text)
    (hm : ∀ l, (f l).matched = l.matched) (he : ∀ l, (f l).evaluate = l.evaluate) :
    Follows (b.map f ht) g := by
  intro l hl
  obtain ⟨m, hmem, rfl⟩ := List.mem_map.1 hl
  exact (h m hmem).congr (hm m) (he m)

theorem Follows.setAll (h : Follows b g) (enabled : Bool) : Follows (b.setAll enabled) g :=
  h.map _ (fun _ => rfl) fun _ => rfl

theorem Follows.toggle (h : Follows b g) (text : String) : Follows (b.toggle text).1 g := by
  apply h.map <;>
  · intro l
    split <;> rfl

theorem Follows.delete (h : Follows b g) (text : String) : Follows (b.delete text).1 g :=
  fun l hl => h l (List.mem_filter.1 hl).1

theorem Follows.create (h : Follows b g) {text : String} {enabled : Bool} {ex : Exemptions}
    (hnew : (b.create text enabled ex).2 = true) :
    Follows ((b.create text enabled ex).1.update text g.posts false) g := by
  intro l hl
  obtain ⟨m, hm, rfl⟩ := Blacklist.mem_lines_modify.1 hl
  rcases b.create_cases text enabled ex with ⟨-, he⟩ | ⟨-, hne, he⟩
  · rw [he] at hnew
    cases hnew
  · rw [he] at hm
    rcases Blacklist.mem_of_mem_place hm with hm | hm
    · rw [if_pos (by rw [hm, Blacklist.text_compile])]
      exact Line.tracks_of_new (by rw [hm, Line.compile]) g
    · rw [if_neg (hne m hm)]
      exact h m hm

end

/-- The lines of the session remember exactly its known posts. -/
def Coherent (s : Session) : Prop := Follows s.blacklist s.known

variable {s : Session}

theorem Coherent.ingest (h : s.Coherent) (posts : List Post) : (s.ingest posts).2.Coherent :=
  h.add _

theorem Coherent.ingestFound (h : s.Coherent) (client : Site.Client)
    (found : Except Site.Failure (List Post)) : (s.ingestFound client found).2.Coherent := by
  cases found with
  | error failure => exact h
  | ok posts => exact Coherent.ingest (s := { s with client }) h posts

theorem Coherent.fetch (h : s.Coherent) (ids : List Nat) : (s.fetch ids).2.Coherent := by
  unfold Session.fetch
  split
  · exact h
  · exact h.ingestFound _ _

theorem Coherent.check (h : s.Coherent) (path : String) (content : Option String) :
    (s.check path content).2.Coherent := by
  unfold Session.check
  split
  · exact h
  split
  · exact h
  · exact h.ingest _

theorem Coherent.addLine (h : s.Coherent) (text : String) : (s.addLine text).2.Coherent := by
  unfold Session.addLine
  cases hnew : (s.blacklist.create text s.config.enabled s.exemptions).2 with
  | true => simpa [hnew, save, Coherent] using Follows.create h hnew
  | false => simpa [hnew] using h

theorem Coherent.removeLine (h : s.Coherent) (text : String) :
    (s.removeLine text).2.Coherent := by
  unfold Session.removeLine
  cases hgone : (s.blacklist.delete text).2 with
  | true => simpa [hgone, save, Coherent] using Follows.delete h text
  | false => simpa [hgone] using h

theorem Coherent.toggleLine (h : s.Coherent) (text : String) :
    (s.toggleLine text).2.Coherent := by
  unfold Session.toggleLine
  cases hstate : (s.blacklist.toggle text).2 with
  | some state => simpa [hstate, save, Coherent] using Follows.toggle h text
  | none => simpa [hstate] using h

theorem coherent_reindex (s : Session) : s.reindex.Coherent := follows_reindex _ _

theorem Coherent.syncFavorites (h : s.Coherent) : s.syncFavorites.2.Coherent := by
  unfold Session.syncFavorites
  cases s.user with
  | none => exact h
  | some user =>
    simp only
    generalize s.client.favoriteIds (some user.id) = found
    obtain ⟨ids, client⟩ := found
    cases ids with
    | error failure => exact h
    | ok ids =>
      simp only
      cases written s.settings with
      | error failure => exact h
      | ok done => exact follows_reindex _ _

theorem Coherent.apply (h : s.Coherent) (op : Operation) : (s.apply op).Coherent := by
  cases op with
  | ingest posts => exact h.ingest posts
  | search tags first count limit => exact h.ingestFound _ _
  | fetch ids => exact h.fetch ids
  | check path content => exact h.check path content
  | addLine text => exact h.addLine text
  | removeLine text => exact h.removeLine text
  | toggleLine text => exact h.toggleLine text
  | setAll enabled => exact Follows.setAll h enabled
  | syncFavorites => exact h.syncFavorites
  | reindex => exact coherent_reindex _

theorem coherent_opened {config : Configuration.Blacklist} {settings : Settings}
    {client : Site.Client} {user : Option Site.Profile}
    (h : Session.opened config settings client user = .ok s) : s.Coherent := by
  obtain ⟨hfresh, hknown⟩ := fresh_opened h
  rw [Coherent, hknown]
  exact hfresh.follows

theorem Reachable.coherent (h : s.Reachable) : s.Coherent := by
  induction h with
  | opened h => exact coherent_opened h
  | connected h => exact coherent_opened h
  | next _ op ih => exact ih.apply op

theorem Coherent.mem_matched_iff (h : s.Coherent) {l : Line} (hl : l ∈ s.blacklist.lines)
    {p : Post} (hp : p ∈ s.known.posts) : p.id ∈ l.matched ↔ l.evaluate p = true := by
  rw [h l hl p.id]
  constructor
  · rintro ⟨q, hq, hid, he⟩
    have hsame : some q = some p := by
      rw [← Gallery.get?_eq_some_iff.2 ⟨hq, hid⟩, Gallery.get?_eq_some_iff.2 ⟨hp, rfl⟩]
    rwa [← Option.some.inj hsame]
  · intro he
    exact ⟨p, hp, rfl, he⟩

theorem mem_report_lines {q : Post} {t : String} :
    t ∈ (s.report q).lines ↔ ∃ l ∈ s.blacklist.lines, l.text = t ∧ q.id ∈ l.matched := by
  simp only [report, List.mem_map, List.mem_filter, decide_eq_true_eq]
  constructor
  · rintro ⟨l, ⟨hl, hmem⟩, ht⟩
    exact ⟨l, hl, ht, hmem⟩
  · rintro ⟨l, hl, ht, hmem⟩
    exact ⟨l, ⟨hl, hmem⟩, ht⟩

/-- In every session that can come about the matches of a line are the known posts that it
evaluates to true on, and so reports and counts are those of the posts as they are stored. -/
theorem Reachable.answers_from_snapshots (h : s.Reachable) :
    (∀ l ∈ s.blacklist.lines, ∀ id,
      id ∈ l.matched ↔ ∃ p ∈ s.known.posts, p.id = id ∧ l.evaluate p = true) ∧
    (∀ p ∈ s.known.posts, ∀ q : Post, q.id = p.id →
      ((s.report q).state = .enabled ↔
        ∃ l ∈ s.blacklist.lines, l.enabled = true ∧ l.evaluate p = true) ∧
      ((s.report q).state = .disabled ↔
        (¬ ∃ l ∈ s.blacklist.lines, l.enabled = true ∧ l.evaluate p = true) ∧
          ∃ l ∈ s.blacklist.lines, l.enabled = false ∧ l.evaluate p = true) ∧
      ((s.report q).state = .noMatch ↔ ¬ ∃ l ∈ s.blacklist.lines, l.evaluate p = true) ∧
      (s.report q).lines.Pairwise (· < ·) ∧
      ∀ t, t ∈ (s.report q).lines ↔ ∃ l ∈ s.blacklist.lines, l.text = t ∧ l.evaluate p = true) ∧
    s.lines = s.blacklist.lines.map fun l =>
      ⟨l.text, l.enabled, (s.known.posts.filter l.evaluate).length⟩ := by
  have hc := h.coherent
  refine ⟨hc, fun p hp q hid => ?_, ?_⟩
  · -- the answers to an id, with the matches replaced by evaluations of the stored post
    have hiff : ∀ c : Line → Prop, (∃ l ∈ s.blacklist.lines, c l ∧ q.id ∈ l.matched) ↔
        ∃ l ∈ s.blacklist.lines, c l ∧ l.evaluate p = true := by
      intro c
      rw [hid]
      constructor
      · rintro ⟨l, hl, hcl, hmem⟩
        exact ⟨l, hl, hcl, (hc.mem_matched_iff hl hp).1 hmem⟩
      · rintro ⟨l, hl, hcl, he⟩
        exact ⟨l, hl, hcl, (hc.mem_matched_iff hl hp).2 he⟩
    have hany := hiff fun _ => True
    simp only [true_and] at hany
    refine ⟨?_, ?_, ?_, ?_, fun t => ?_⟩
    · rw [← hiff]
      exact Blacklist.state_eq_enabled_iff
    · rw [← hiff, ← hiff]
      exact Blacklist.state_eq_disabled_iff
    · rw [← hany]
      exact Blacklist.state_eq_noMatch_iff
    · exact List.pairwise_map.2 (s.blacklist.ascending.filter _)
    · rw [← hiff]
      exact mem_report_lines
  · rw [Session.lines]
    apply List.map_congr_left
    intro l hl
    rw [(hc l hl).size]

theorem answers_from_snapshots_after_edit :
    ∃ s, Session.opened { lines := ["solo", "duo"] } .empty default none = .ok s ∧
      (let t := ((s.apply (.ingest [{ id := 1 }, { id := 1, score := 5 }])).apply
        (.addLine "score:5")).apply .reindex
      t.Reachable ∧ ∀ l ∈ t.blacklist.lines, ∀ id,
        id ∈ l.matched ↔ ∃ p ∈ t.known.posts, p.id = id ∧ l.evaluate p = true) := by
  have hopen : ∃ s, Session.opened { lines := ["solo", "duo"] } .empty default none = .ok s :=
    ⟨_, rfl⟩
  obtain ⟨s, hs⟩ := hopen
  have hreach := (((Reachable.opened hs).next (.ingest [{ id := 1 }, { id := 1, score := 5 }])).next
    (.addLine "score:5")).next .reindex
  exact ⟨s, hs, hreach, (Reachable.answers_from_snapshots hreach).1⟩

end BoardFilter.Session
