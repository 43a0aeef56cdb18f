import BoardFilter.Proofs.Json.Wrapping
import BoardFilter.Proofs.Session.Searches

/-!
# Saved answers

A saved answer of the site is reported as it would be if the site gave it, and it does not matter
whether the posts are listed in it as they are or under a name.
-/

namespace BoardFilter

namespace Json

theorem mapM_eq_none_iff {α β : Type} {f : α → Option β} {l : List α} :
    l.mapM f = none ↔ ∃ a ∈ l, f a = none := by
  induction l with
  | nil => simp
  | cons a rest ih =>
    rw [List.mapM_cons]
    cases ha : f a with
    | none => simp [ha]
    | some b =>
      have hrest : (∃ x ∈ a :: rest, f x = none) ↔ ∃ x ∈ rest, f x = none := by
        simp [ha]
      rw [hrest, ← ih]
      cases rest.mapM f <;> simp

end Json

namespace Session

open Site (Reply Listing.post?)
open Site.Client (place listed Search)

variable {s : Session} {site : Nat → Reply}

/-- A list of entries, bare or under the name that the site gives it. -/
inductive Lists : Json → List Json → Prop
  | bare (items : List Json) : Lists (.array items) items
  | named {fields : List (String × Json)} {items : List Json}
      (h : Json.lookup "posts" fields = some (.array items)) : Lists (.object fields) items

structure ListsPost (text : String) (items : List Json) : Prop where
  lists : ∃ v, Json.parse? text = some v ∧ Lists v items
  usable : ∃ item ∈ items, ∃ p, Listing.post? item = some (some p)

theorem Lists.dumped {v : Json} {items : List Json} (h : Lists v items) :
    dumped v = .array items := by
  cases h with
  | bare => rfl
  | named h => simp only [Session.dumped, Json.field?, h]

theorem ListsPost.listed {text : String} {items : List Json} (h : ListsPost text items)
    {status : Nat} (hstatus : Site.Answer.isSuccess status = true) :
    listed .posts (.received status text) =
      match items.mapM Listing.post? with
      | some entries => .ok entries
      | none => .error .misshapen := by
  obtain ⟨⟨v, hv, hlists⟩, -⟩ := h
  have hread : Site.Answer.read .posts text = .ok (.array items) := by
    rw [Site.Answer.read, Json.isBlankText_of_parse? hv, hv]
    cases hlists with
    | bare => rfl
    | named h => simp [Site.Answer.unwrap, Site.Endpoint.node?, h]
  rw [Site.Client.listed, Site.Answer.ofReply, if_pos hstatus, hread]
  rfl

theorem ListsPost.readDump {text : String} {items : List Json} (h : ListsPost text items)
    (path : String) :
    readDump path text =
      match items.mapM Listing.post? with
      | some entries => .ok (entries.filterMap id)
      | none => .error (.noDump path .misshapen) := by
  obtain ⟨⟨v, hv, hlists⟩, item, hitem, p, hp⟩ := h
  simp only [Session.readDump, hv, hlists.dumped, Site.Listing.posts?, Json.asList?]
  cases hentries : items.mapM Listing.post? with
  | none => rfl
  | some entries =>
    have hmem : some p ∈ entries := by
      have hmap := List.mem_map_of_mem (f := Listing.post?) hitem
      rw [hp, Json.mapM_eq_some_iff.1 hentries] at hmap
      simpa using hmap
    have hpost : p ∈ entries.filterMap id := List.mem_filterMap.2 ⟨some p, hmem, rfl⟩
    obtain ⟨q, posts, hposts⟩ := List.exists_cons_of_ne_nil (List.ne_nil_of_mem hpost)
    simp only [Option.map_some, hposts]

theorem readDump_congr {path a b : String} {v w : Json} (ha : Json.parse? a = some v)
    (hb : Json.parse? b = some w) (h : dumped v = dumped w) :
    readDump path a = readDump path b := by
  simp only [readDump, ha, hb, h]

theorem readDump_singleton {path a b : String} {fields : List (String × Json)}
    (ha : Json.parse? a = some (.object fields))
    (hb : Json.parse? b = some (.array [.object fields]))
    (h : dumped (.object fields) = .object fields) : readDump path a = readDump path b := by
  have hlist : dumped (.array [.object fields]) = .array [.object fields] := rfl
  simp only [readDump, ha, hb, h, hlist, Site.Listing.posts?, Json.asList?, List.mapM_cons,
    List.mapM_nil]
  rcases Listing.post? (.object fields) with _ | _ | p <;> rfl

theorem check_eq {path text : String} :
    s.check path (some text) =
      match readDump path text with
      | .ok posts => (.ok (s.ingest posts).1, (s.ingest posts).2)
      | .error failure => (.error failure, s) := by
  rw [check]
  cases readDump path text <;> rfl

theorem search_one_page (hs : s.client.Meets site) {u : Url}
    (hu : place s.client.config .posts = .ok u) (tags : List String) {first : Nat}
    (hfirst : first < 0xFFFF) (limit : Nat) :
    (s.search tags first 1 limit).2 =
      s.ingestFound (s.client.searchAll (Search.pages tags first 1 limit)).2
        ((listed .posts (site 0)).map fun entries => entries.filterMap id) := by
  have hpages : Search.pages tags first 1 limit =
      [⟨String.intercalate " " tags, first, limit⟩] := by
    have hone : min (first + 1) 0xFFFF - first = 1 := by omega
    rw [Search.pages, hone]
    rfl
  have hjoins := hs.searchAll_joins hu (Search.pages tags first 1 limit)
  -- One request is made, so its reply alone decides on the posts.
  have hposts : (s.client.searchAll (Search.pages tags first 1 limit)).1.posts =
      (listed .posts (site 0)).map fun entries => entries.filterMap id := by
    rw [hpages] at hjoins ⊢
    cases hlisted : listed .posts (site 0) with
    | ok entries =>
      obtain ⟨hposts, -⟩ := hjoins.posts (fun _ => entries) fun i hi => by
        obtain rfl : i = 0 := by simpa using hi
        exact hlisted
      rw [hposts]
      simp [Except.map]
    | error failure =>
      have hbefore : ∀ j < 0, ∃ entries, listed .posts (site j) = .ok entries :=
        fun j hj => absurd hj (Nat.not_lt_zero j)
      rw [hjoins.failure 0 (by simp) failure hbefore hlisted]
      rfl
  rw [← hposts, search]

theorem ListsPost.check_search {text : String} {items : List Json} (h : ListsPost text items)
    (hs : s.client.Meets site) {u : Url} (hu : place s.client.config .posts = .ok u) {status : Nat}
    (hstatus : Site.Answer.isSuccess status = true) (hsite : site 0 = .received status text)
    (path : String) (tags : List String) {first : Nat} (hfirst : first < 0xFFFF) (limit : Nat) :
    let checked := s.check path (some text)
    let found := s.search tags first 1 limit
    found.2.2 = { checked.2 with client := found.2.2.client } ∧
      ((∀ item ∈ items, (Listing.post? item).isSome) →
        ∃ reports, checked.1 = .ok reports ∧ found.2.1 = .ok reports) ∧
      ((∃ item ∈ items, Listing.post? item = none) →
        checked.1 = .error (.noDump path .misshapen) ∧ found.2.1 = .error (.site .misshapen)) := by
  intro checked found
  have hfound : found.2 = _ := search_one_page hs hu tags hfirst limit
  have hchecked : checked = _ := check_eq
  rw [hsite, h.listed hstatus] at hfound
  rw [h.readDump] at hchecked
  rw [hfound, hchecked]
  cases hentries : items.mapM Listing.post? with
  | some entries =>
    refine ⟨rfl, fun _ => ⟨_, rfl, rfl⟩, fun hunreadable => ?_⟩
    rw [Json.mapM_eq_none_iff.2 hunreadable] at hentries
    cases hentries
  | none =>
    refine ⟨rfl, fun hreadable => ?_, fun _ => ⟨rfl, rfl⟩⟩
    obtain ⟨item, hitem, hnone⟩ := Json.mapM_eq_none_iff.1 hentries
    have hsome := hreadable item hitem
    rw [hnone] at hsome
    cases hsome

theorem parse?_wrapped {t : String} {v : Json}
    (h : Json.parseWithin? (Json.depthLimit - 1) t = some v) :
    Json.parse? t = some v ∧ Json.parse? (Json.inList t) = some (.array [v]) ∧
      ∀ name, Json.parse? (Json.underName name t) = some (.object [(name, v)]) :=
  ⟨Json.parseWithin?_of_le (by decide) h, Json.parseWithin?_inList h,
    fun name => Json.parseWithin?_underName name h⟩

theorem dumped_object {fields : List (String × Json)} (hposts : Json.lookup "posts" fields = none)
    (hpost : Json.lookup "post" fields = none) : dumped (.object fields) = .object fields := by
  simp only [dumped, Json.field?, hposts, hpost]

/-- A saved answer is reported, and leaves the session behind, as a search for one page that is
answered with it, apart from the client. A list of entries and a single one may be wrapped under
either name and a single one also in a list, as long as it is not nested too deep for that. -/
theorem saved_answers_report_alike (s : Session) (path : String) :
    (∀ site u status text items, s.client.Meets site → place s.client.config .posts = .ok u →
      200 ≤ status → status < 400 → site 0 = .received status text → ListsPost text items →
      ∀ tags first limit, first < 0xFFFF →
      let checked := s.check path (some text)
      let found := s.search tags first 1 limit
      found.2.2 = { checked.2 with client := found.2.2.client } ∧
        ((∀ item ∈ items, (Listing.post? item).isSome) →
          ∃ reports, checked.1 = .ok reports ∧ found.2.1 = .ok reports) ∧
        ((∃ item ∈ items, Listing.post? item = none) →
          checked.1 = .error (.noDump path .misshapen) ∧ found.2.1 = .error (.site .misshapen))) ∧
    (∀ items bare posts post, Json.parse? bare = some (.array items) →
      Json.parse? posts = some (.object [("posts", .array items)]) →
      Json.parse? post = some (.object [("post", .array items)]) →
      s.check path (some posts) = s.check path (some bare) ∧
      s.check path (some post) = s.check path (some bare)) ∧
    (∀ fields bare list posts post, Json.lookup "posts" fields = none →
      Json.lookup "post" fields = none → Json.parse? bare = some (.object fields) →
      Json.parse? list = some (.array [.object fields]) →
      Json.parse? posts = some (.object [("posts", .object fields)]) →
      Json.parse? post = some (.object [("post", .object fields)]) →
      s.check path (some list) = s.check path (some bare) ∧
      s.check path (some posts) = s.check path (some bare) ∧
        s.check path (some post) = s.check path (some bare)) ∧
    ∀ t v, Json.parseWithin? (Json.depthLimit - 1) t = some v →
      Json.parse? t = some v ∧ Json.parse? (Json.inList t) = some (.array [v]) ∧
        ∀ name, Json.parse? (Json.underName name t) = some (.object [(name, v)]) := by
  have hcheck : ∀ {a b : String}, readDump path a = readDump path b →
      s.check path (some a) = s.check path (some b) := by
    intro a b h
    rw [check_eq, check_eq, h]
  refine ⟨fun site u status text items hs hu hlow hhigh hsite h tags first limit hfirst => ?_,
    fun items bare posts post hbare hposts hpost => ⟨?_, ?_⟩,
    fun fields bare list posts post hnoPosts hnoPost hbare hlist hposts hpost => ?_,
    fun t v => parse?_wrapped⟩
  · exact h.check_search hs hu (by simp [Site.Answer.isSuccess, hlow, hhigh]) hsite path tags
      hfirst limit
  · exact hcheck (readDump_congr hposts hbare rfl)
  · exact hcheck (readDump_congr hpost hbare rfl)
  · have hsingle := dumped_object hnoPosts hnoPost
    exact ⟨hcheck (readDump_singleton hbare hlist hsingle).symm,
      hcheck (readDump_congr hposts hbare hsingle.symm),
      hcheck (readDump_congr hpost hbare hsingle.symm)⟩

def twoEntries : List Json := [.object [("id", .int 7)], .object []]

theorem saved_answers_report_alike_of_two_entries :
    let text := Json.pretty (.array twoEntries)
    ∃ s site, Session.opened {} .empty (.opened {} [⟨.received 200 text, 5⟩]) none = .ok s ∧
      s.client.Meets site ∧ site 0 = .received 200 text ∧ ListsPost text twoEntries ∧
      (∃ reports, (s.check "posts.json" (some text)).1 = .ok reports ∧
        (s.search ["solo"] 1 1 10).2.1 = .ok reports ∧ reports.map (·.post.id) = [7]) ∧
      s.check "posts.json" (some (Json.underName "posts" text)) = s.check "posts.json" (some text) ∧
      s.check "posts.json" (some (Json.underName "post" text)) = s.check "posts.json" (some text) ∧
      s.check "posts.json" (some (Json.inList (Json.pretty (.object [("id", .int 7)])))) =
        s.check "posts.json" (some (Json.pretty (.object [("id", .int 7)]))) := by
  intro text
  obtain ⟨s, u, hopen, -, -, hplace, hmeets⟩ := exists_session [⟨.received 200 text, 5⟩]
  obtain ⟨hsearch, hlist, hsingle, hwrap⟩ := saved_answers_report_alike s "posts.json"
  have htext : Json.parseWithin? (Json.depthLimit - 1) text = some (.array twoEntries) :=
    Json.parseWithin?_pretty (by simp [twoEntries, Json.depthLimit, Json.IsWord])
      (by simp [twoEntries])
  have hpost : Json.parseWithin? (Json.depthLimit - 1) (Json.pretty (.object [("id", .int 7)])) =
      some (.object [("id", .int 7)]) :=
    Json.parseWithin?_pretty (by simp [Json.depthLimit, Json.IsWord]) (by simp)
  obtain ⟨hbare, -, hnamed⟩ := hwrap text _ htext
  obtain ⟨hone, hin, hunder⟩ := hwrap _ _ hpost
  have hseven : (Listing.post? (.object [("id", .int 7)])).map (·.map (·.id)) = some (some 7) := by
    decide +kernel
  have husable : ∃ p, Listing.post? (.object [("id", .int 7)]) = some (some p) := by
    obtain ⟨entry, hentry, hid⟩ := Option.map_eq_some_iff.1 hseven
    obtain ⟨p, rfl, -⟩ := Option.map_eq_some_iff.1 hid
    exact ⟨p, hentry⟩
  have hlists : ListsPost text twoEntries :=
    ⟨⟨_, hbare, .bare twoEntries⟩, _, List.mem_cons_self, husable⟩
  obtain ⟨-, hreported, -⟩ :=
    hsearch _ u 200 text twoEntries hmeets hplace (by decide) (by decide) rfl
    hlists ["solo"] 1 10 (by decide)
  obtain ⟨reports, hchecked, hfound⟩ := hreported (by decide +kernel)
  have hids : reports.map (·.post.id) = [7] := by
    have hposts : (twoEntries.mapM Listing.post?).map (fun e => (e.filterMap id).map (·.id)) =
        some [7] := by decide +kernel
    obtain ⟨entries, hentries, hids⟩ := Option.map_eq_some_iff.1 hposts
    rw [check_eq, hlists.readDump, hentries] at hchecked
    cases hchecked
    rw [ids_ingest, hids]
  obtain ⟨hposts, hpost⟩ := hlist twoEntries text _ _ hbare (hnamed "posts") (hnamed "post")
  obtain ⟨hsame, -⟩ := hsingle _ _ _ _ _ rfl rfl hone hin (hunder "posts") (hunder "post")
  exact ⟨s, _, hopen, hmeets, rfl, hlists, ⟨reports, hchecked, hfound, hids⟩, hposts, hpost, hsame⟩

end Session

end BoardFilter
