import BoardFilter.Proofs.Session.Outcome
import BoardFilter.Proofs.Site.Paging

/-!
# Failures leave a session alone

Every way in which an operation can fail, as long as the settings can be written, comes before the
first change: a page that cannot be had although others were read, a dump that holds no posts, or
no account. What the session remembers is then the same as before.
-/

namespace BoardFilter.Session

variable {s : Session}

/-- What makes an operation fail. -/
inductive Cause (s : Session) : Operation → Failure → Prop where
  | page {tags : List String} {first count limit : Nat} {read : List (List Post)}
      {failure : Site.Failure}
      (h : s.client.Breaks (Site.Client.Search.pages tags first count limit) read failure) :
      Cause s (.search tags first count limit) (.site failure)
  | noIds : Cause s (.fetch []) .noPosts
  | part {ids : List Nat} (hne : ids ≠ []) {read : List (List Post)} {failure : Site.Failure}
      (h : s.client.Breaks (Site.Client.Search.ofIds ids) read failure) :
      Cause s (.fetch ids) (.site failure)
  | noFile {path : String} : Cause s (.check path none) .noFile
  | dump {path content : String} {failure : Failure} (h : readDump path content = .error failure) :
      Cause s (.check path (some content)) failure
  | noLogin (h : s.user = none) : Cause s .syncFavorites .notLoggedIn
  | favorites {user : Site.Profile} {n : Nat} {client : Site.Client} {failure : Site.Failure}
      (huser : s.user = some user) (hn : n < Site.Client.lastPage)
      (hfull : Site.Client.FullPages (some user.id) s.client 1 n client)
      (h : client.favoritesPage (some user.id) (1 + n) = .error failure) :
      Cause s .syncFavorites (.site failure)

theorem ingestFound_error_iff {client : Site.Client} {found : Except Site.Failure (List Post)}
    {failure : Failure} :
    (s.ingestFound client found).1 = .error failure ↔
      ∃ g, found = .error g ∧ failure = .site g := by
  cases found with
  | error g => simp [ingestFound, eq_comm]
  | ok posts => simp [ingestFound]

theorem search_error_iff {tags : List String} {first count limit : Nat} {failure : Failure} :
    (s.search tags first count limit).2.1 = .error failure ↔
      s.Cause (.search tags first count limit) failure := by
  rw [search]
  simp only [ingestFound_error_iff, Site.Client.searchAll_error_iff]
  constructor
  · rintro ⟨g, ⟨read, h⟩, rfl⟩
    exact .page h
  · intro h
    cases h with
    | page h => exact ⟨_, ⟨_, h⟩, rfl⟩

theorem fetch_error_iff {ids : List Nat} {failure : Failure} :
    (s.fetch ids).1 = .error failure ↔ s.Cause (.fetch ids) failure := by
  cases ids with
  | nil =>
    constructor
    · intro h
      cases h
      exact .noIds
    · intro h
      cases h with
      | noIds => rfl
      | part hne => exact absurd rfl hne
  | cons id ids =>
    rw [fetch, if_neg (by simp), Site.Client.getPosts]
    simp only [ingestFound_error_iff, Site.Client.searchAll_error_iff]
    constructor
    · rintro ⟨g, ⟨read, h⟩, rfl⟩
      exact .part (by simp) h
    · intro h
      cases h with
      | part hne h => exact ⟨_, ⟨_, h⟩, rfl⟩

theorem check_error_iff {path : String} {content : Option String} {failure : Failure} :
    (s.check path content).1 = .error failure ↔ s.Cause (.check path content) failure := by
  cases content with
  | none =>
    constructor
    · intro h
      cases h
      exact .noFile
    · intro h
      cases h with
      | noFile => rfl
  | some content =>
    rw [check]
    cases hread : readDump path content with
    | error other =>
      constructor
      · intro h
        cases h
        exact .dump hread
      · intro h
        cases h with
        | dump h =>
          rw [hread] at h
          cases h
          rfl
    | ok posts =>
      constructor
      · intro h
        cases h
      · intro h
        cases h with
        | dump h =>
          rw [hread] at h
          cases h

theorem syncFavorites_error_iff (hw : s.settings.Writable) {failure : Failure} :
    s.syncFavorites.1 = .error failure ↔ s.Cause .syncFavorites failure := by
  cases huser : s.user with
  | none =>
    rw [syncFavorites, huser]
    constructor
    · intro h
      cases h
      exact .noLogin huser
    · intro h
      cases h with
      | noLogin => rfl
      | favorites hsome =>
        rw [huser] at hsome
        cases hsome
  | some user =>
    have hresult : s.syncFavorites.1 = .error failure ↔
        ∃ g, (s.client.favoriteIds (some user.id)).1 = .error g ∧ failure = .site g := by
      rw [syncFavorites, huser]
      cases hids : (s.client.favoriteIds (some user.id)).1 with
      | error g => simp [hids, eq_comm]
      | ok ids => simp [hids, written_of_writable hw]
    rw [hresult]
    constructor
    · rintro ⟨g, hids, rfl⟩
      obtain ⟨n, c, hn, hfull, h⟩ := Site.Client.favoriteIds_error_iff.1 hids
      exact .favorites huser hn hfull h
    · intro h
      cases h with
      | noLogin hnone =>
        rw [huser] at hnone
        cases hnone
      | favorites hsome hn hfull h =>
        rw [huser] at hsome
        cases hsome
        exact ⟨_, Site.Client.favoriteIds_error_iff.2 ⟨_, _, hn, hfull, h⟩, rfl⟩

theorem failure?_eq_some_iff (hw : s.settings.Writable) {op : Operation} {failure : Failure} :
    s.failure? op = some failure ↔ s.Cause op failure := by
  have hnever : s.failure? op = none → (¬ s.Cause op failure) →
      (s.failure? op = some failure ↔ s.Cause op failure) := by
    intro hnone hcause
    rw [hnone]
    constructor
    · intro h
      cases h
    · intro h
      exact absurd h hcause
  cases op with
  | ingest posts => exact hnever rfl nofun
  | search tags first count limit => exact failureOf_eq_some_iff.trans search_error_iff
  | fetch ids => exact failureOf_eq_some_iff.trans fetch_error_iff
  | check path content => exact failureOf_eq_some_iff.trans check_error_iff
  | addLine text => exact hnever (effect_addLine hw text).1 nofun
  | removeLine text => exact hnever (effect_removeLine hw text).1 nofun
  | toggleLine text => exact hnever (effect_toggleLine hw text).1 nofun
  | setAll enabled => exact hnever (effect_setAll hw enabled).1 nofun
  | syncFavorites => exact failureOf_eq_some_iff.trans (syncFavorites_error_iff hw)
  | reindex => exact hnever rfl nofun

/-- Everything that a session remembers is the same in another one: the lines with their states and
matches, the favorites, what is stored, and the posts. -/
structure Same (s t : Session) : Prop where
  blacklist : t.blacklist = s.blacklist
  favorites : t.favorites = s.favorites
  settings : t.settings = s.settings
  known : t.known = s.known

theorem Effect.same {t : Session} {failure : Failure} (h : s.Effect (some failure) t) :
    s.Same t := by
  cases h with
  | failed => exact ⟨rfl, rfl, rfl, rfl⟩

/-- On settings that can be written, an operation fails just for one of the causes, and then nothing
that the session remembers has changed. -/
theorem Undisturbed.failure_changes_nothing (h : s.Undisturbed) (op : Operation)
    (failure : Failure) :
    (s.failure? op = some failure ↔ s.Cause op failure) ∧
      (s.failure? op = some failure → s.Same (s.apply op)) := by
  refine ⟨failure?_eq_some_iff h.writable, fun hfail => ?_⟩
  have heffect := h.effect op
  rw [hfail] at heffect
  exact heffect.same

theorem client_apply_ingest (s : Session) (posts : List Post) :
    (s.apply (.ingest posts)).client = s.client := rfl

theorem search_pages (s : Session) (tags : List String) (first count limit : Nat) :
    (s.search tags first count limit).1 =
      (s.client.searchAll (Site.Client.Search.pages tags first count limit)).1 := rfl

theorem failure_changes_nothing_after_first_page :
    let client : Site.Client := .opened {}
      [⟨.received 200 "\x7b\"posts\": [\x7b\"id\": 7\x7d]\x7d", 5⟩, ⟨.received 500 "", 5⟩]
    ∃ s, Session.opened { lines := ["solo"] } .empty client none = .ok s ∧
      let t := s.apply (.ingest [{ id := 1, tags := .ofFlat "solo" }])
      (t.search ["duo"] 1 2 10).1.read.map (·.map (·.id)) = [[7]] ∧
        t.failure? (.search ["duo"] 1 2 10) =
          some (.site (.refused .posts 500 "empty response")) ∧
        t.Undisturbed ∧ t.Same (t.apply (.search ["duo"] 1 2 10)) := by
  intro client
  obtain ⟨s, hs, -, -, hclient, -⟩ := opened_empty { lines := ["solo"] } client none
  have hsession : Opening.session ⟨{ lines := ["solo"] }, client, false⟩ .empty = .ok s := hs
  have ht := (Undisturbed.opened writable_empty hsession).next
    (.ingest [{ id := 1, tags := .ofFlat "solo" }])
  have hread : (client.searchAll (Site.Client.Search.pages ["duo"] 1 2 10)).1.read.map
      (·.map (·.id)) = [[7]] := by decide +kernel
  have hstop : (client.searchAll (Site.Client.Search.pages ["duo"] 1 2 10)).1.failure =
      some (.refused .posts 500 "empty response") := by decide +kernel
  have hsearch : (client.searchAll (Site.Client.Search.pages ["duo"] 1 2 10)).1.posts =
      .error (.refused .posts 500 "empty response") := by
    rw [Site.Client.Pages.posts, hstop]
  obtain ⟨read, hbreaks⟩ := Site.Client.searchAll_error_iff.1 hsearch
  rw [← hclient, ← client_apply_ingest s [{ id := 1, tags := .ofFlat "solo" }]] at hread hbreaks
  obtain ⟨hcause, hsame⟩ := Undisturbed.failure_changes_nothing ht (.search ["duo"] 1 2 10)
    (.site (.refused .posts 500 "empty response"))
  have hfail := hcause.2 (.page hbreaks)
  refine ⟨s, hs, ?_, hfail, ht, hsame hfail⟩
  rw [search_pages]
  exact hread

end BoardFilter.Session
