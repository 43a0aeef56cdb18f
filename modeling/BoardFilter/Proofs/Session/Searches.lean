import BoardFilter.Proofs.Session.Connection
import BoardFilter.Proofs.Session.Exempt
import BoardFilter.Proofs.Session.Failures
import BoardFilter.Proofs.Site.Parts
import Mathlib.Data.List.Nodup

/-!
# Searches of a session

A search over several pages comes to what its pages come to together, and so do the searches for
posts by their ids. The site has 750 pages for every search; those that would lie beyond are all
asked for as the last one, so a search that reaches beyond it reports the posts of that page more
than once.
-/

namespace BoardFilter.Session

open Site (Reply)
open Site.Client (Search Parted Joins place requestAt partQuery listed idsOf lastPage)

variable {s : Session} {site : Nat → Reply}

def seven : Site.TimedReply := ⟨.received 200 "\x7b\"posts\":[\x7b\"id\":7\x7d]\x7d", 900⟩

def eight : Site.TimedReply := ⟨.received 200 "\x7b\"posts\":[\x7b\"id\":8\x7d]\x7d", 5⟩

theorem listed_seven :
    ∃ entries, listed .posts seven.reply = .ok entries ∧ idsOf entries = [7] := by
  obtain ⟨entries, hentries, hids⟩ := Site.Client.exists_listed
    (by decide +kernel : (listed .posts seven.reply).map (·.map (·.map (·.id))) = .ok [some 7])
  exact ⟨entries, hentries, Site.Client.idsOf_eq hids⟩

theorem listed_eight :
    ∃ entries, listed .posts eight.reply = .ok entries ∧ idsOf entries = [8] := by
  obtain ⟨entries, hentries, hids⟩ := Site.Client.exists_listed
    (by decide +kernel : (listed .posts eight.reply).map (·.map (·.map (·.id))) = .ok [some 8])
  exact ⟨entries, hentries, Site.Client.idsOf_eq hids⟩

theorem exists_session (replies : List Site.TimedReply) :
    ∃ s u, Session.opened {} .empty (.opened {} replies) none = .ok s ∧
      s.client = .opened {} replies ∧ place {} .posts = .ok u ∧
      place s.client.config .posts = .ok u ∧
      s.client.Meets fun k => (replies.getD k .nothing).reply := by
  obtain ⟨s, hopen, -, -, hclient, -⟩ := opened_empty {} (.opened {} replies) none
  obtain ⟨u, hu⟩ : ∃ u, place {} .posts = .ok u := Site.Client.exists_ok (by decide +kernel)
  refine ⟨s, u, hopen, hclient, hu, ?_, ?_⟩
  · rw [hclient]
    exact hu
  · rw [hclient]
    exact Site.Client.meets_opened {} replies .nothing id

theorem search_client (s : Session) (tags : List String) (first count limit : Nat) :
    (s.search tags first count limit).2.2.client =
      (s.client.searchAll (Search.pages tags first count limit)).2 := by
  rw [search, client_ingestFound]

theorem search_of_ok {tags : List String} {first count limit : Nat} {posts : List Post}
    (h : (s.search tags first count limit).1.posts = .ok posts) :
    (s.search tags first count limit).2.1 = .ok (s.ingest posts).1 := by
  rw [search_pages] at h
  simp only [search, h, ingestFound]
  rfl

theorem search_of_error {tags : List String} {first count limit : Nat} {failure : Site.Failure}
    (h : (s.search tags first count limit).1.posts = .error failure) :
    (s.search tags first count limit).2.1 = .error (.site failure) := by
  rw [search_pages] at h
  simp only [search, h, ingestFound]

/-- The searches for ids are small and cover the ids in their order. These and the pages of a search
come to what the replies say together, or to the failure of the first part that fails; when the
replies arrive does not matter. -/
theorem parts_join (hs : s.client.Meets site) :
    (∀ ids, ∃ parts, Parted ids parts ∧
      (∀ u, place s.client.config .posts = .ok u →
        s.client.Joins site
          (parts.map fun part => requestAt s.client.config u (partQuery part))
          (s.client.getPosts ids).1 (s.client.getPosts ids).2) ∧
      ∀ fault, place s.client.config .posts = .error fault → ids ≠ [] →
        s.client.getPosts ids =
          (.error (.invalidUrl (Site.Endpoint.posts.url s.client.config.baseUrl none) fault),
            s.client)) ∧
    ∀ (tags : List String) (first count limit : Nat),
      let searches := Search.pages tags first count limit
      let found := s.search tags first count limit
      (∀ u, place s.client.config .posts = .ok u →
        s.client.Joins site (searches.map fun p => requestAt s.client.config u p.query)
          found.1.posts found.2.2.client) ∧
      (∀ fault, place s.client.config .posts = .error fault → searches ≠ [] →
        found.1.posts =
          .error (.invalidUrl (Site.Endpoint.posts.url s.client.config.baseUrl none) fault) ∧
        found.2.2.client = s.client) ∧
      (∀ posts, found.1.posts = .ok posts → found.2.1 = .ok (s.ingest posts).1) ∧
      ∀ failure, found.1.posts = .error failure → found.2.1 = .error (.site failure) := by
  constructor
  · intro ids
    obtain ⟨parts, hparts, hids⟩ := Site.Client.exists_parted ids
    exact ⟨parts, hparts, fun u hu => hs.getPosts_joins hu hparts hids,
      fun fault hu hne => Site.Client.getPosts_of_fault hu hne⟩
  · intro tags first count limit
    refine ⟨fun u hu => ?_, fun fault hu hne => ?_, fun posts => search_of_ok,
      fun failure => search_of_error⟩
    · rw [search_pages, search_client]
      exact hs.searchAll_joins hu _
    · rw [search_pages, search_client, Site.Client.searchAll_of_fault hu hne]
      exact ⟨rfl, rfl⟩

theorem parts_join_of_101_ids :
    let broken : Site.TimedReply := ⟨.received 500 "", 5⟩
    ∃ s site parts, Session.opened {} .empty (.opened {} [seven, broken]) none = .ok s ∧
      s.client.Meets site ∧ Parted (List.range 101) parts ∧ parts.length = 2 ∧
      (s.client.getPosts (List.range 101)).1 = .error (.refused .posts 500 "empty response") := by
  intro broken
  obtain ⟨s, u, hopen, -, -, hplace, hmeets⟩ := exists_session [seven, broken]
  obtain ⟨e₇, h₇, -⟩ := listed_seven
  have hfail : listed .posts broken.reply = .error (.refused .posts 500 "empty response") := by
    decide +kernel
  obtain ⟨parts, hparts, hjoin, -⟩ := (parts_join hmeets).1 (List.range 101)
  have hlength : parts.length = 2 := by
    rw [hparts.length_eq, List.length_range]
    rfl
  refine ⟨s, _, parts, hopen, hmeets, hparts, hlength, (hjoin u hplace).failure 1 ?_ _ ?_ hfail⟩
  · rw [List.length_map, hlength]
    decide
  · intro j hj
    obtain rfl : j = 0 := by omega
    exact ⟨e₇, h₇⟩

def pageNumbers (first count : Nat) : List Nat :=
  (List.range count).map fun i => min (first + i) lastPage

def pageQuery (tags : List String) (limit page : Nat) : List (String × String) :=
  [("limit", toString (Search.clamp 1 Site.Client.largestLimit limit)), ("page", toString page),
    ("tags", String.intercalate " " tags)]

theorem query_pages (tags : List String) {first count : Nat} (limit : Nat) (hfirst : 1 ≤ first)
    (hend : first + count ≤ 0xFFFF) :
    (Search.pages tags first count limit).map (·.query) =
      (pageNumbers first count).map (pageQuery tags limit) := by
  have hcount : min (first + count) 0xFFFF - first = count := by omega
  have hclamp : ∀ i, Search.clamp 1 lastPage (first + i) = min (first + i) lastPage := by
    intro i
    rw [Search.clamp, lastPage]
    omega
  rw [Search.pages, hcount, List.range'_eq_map_range, pageNumbers, List.map_map, List.map_map,
    List.map_map]
  apply List.map_congr_left
  intro i _
  simp only [Function.comp_apply, Search.query, hclamp, pageQuery]

theorem mem_pageNumbers {first count p : Nat} (hfirst : 1 ≤ first)
    (hp : p ∈ pageNumbers first count) : 1 ≤ p ∧ p ≤ lastPage := by
  obtain ⟨i, -, rfl⟩ := List.mem_map.1 hp
  rw [lastPage]
  omega

theorem pageNumbers_eq_iff {first count : Nat} (hle : first ≤ lastPage) :
    pageNumbers first count = List.range' first count ↔ first + count ≤ lastPage + 1 := by
  rw [pageNumbers, List.range'_eq_map_range, List.map_inj_left]
  constructor
  · intro h
    by_contra hlt
    have hlast := h (count - 1) (List.mem_range.2 (by omega))
    omega
  · intro h i hi
    have hlt := List.mem_range.1 hi
    omega

/-- A search that reaches beyond the last page asks for that page more than once, and for no other
page. -/
theorem pairwise_pageNumbers_iff {first count : Nat} (hfirst : 1 ≤ first) (hle : first ≤ lastPage)
    {r : Nat → Nat → Prop} (hr : ∀ p q, 1 ≤ p → p < q → q ≤ lastPage → r p q) :
    (pageNumbers first count).Pairwise r ↔
      first + count ≤ lastPage + 1 ∨ r lastPage lastPage := by
  rw [pageNumbers, List.pairwise_map]
  constructor
  · intro h
    by_contra hnot
    rw [not_or, not_le] at hnot
    have htwice := List.pairwise_iff_getElem.1 h (lastPage - first) (lastPage - first + 1)
      (by rw [List.length_range]; omega) (by rw [List.length_range]; omega) (by omega)
    rw [List.getElem_range, List.getElem_range, Nat.min_eq_right (by omega),
      Nat.min_eq_right (by omega)] at htwice
    exact hnot.2 htwice
  · intro h
    refine List.pairwise_lt_range.imp_of_mem fun {i j} _ hj hlt => ?_
    have hcount := List.mem_range.1 hj
    by_cases hbeyond : lastPage ≤ first + i
    · rcases h with h | h
      · omega
      · rwa [Nat.min_eq_right hbeyond, Nat.min_eq_right (by omega)]
    · exact hr _ _ (by omega) (by omega) (by omega)

theorem nodup_pageNumbers_iff {first count : Nat} (hfirst : 1 ≤ first) (hle : first ≤ lastPage) :
    (pageNumbers first count).Nodup ↔ first + count ≤ lastPage + 1 := by
  have hne : ∀ p q, 1 ≤ p → p < q → q ≤ lastPage → p ≠ q := fun _ _ _ hlt _ => Nat.ne_of_lt hlt
  rw [List.Nodup, pairwise_pageNumbers_iff hfirst hle hne]
  simp

theorem nodup_ids_iff {first count : Nat} {listing : Nat → List (Option Post)}
    (hfirst : 1 ≤ first) (hle : first ≤ lastPage)
    (honce : ((List.range' 1 lastPage).flatMap fun p => idsOf (listing p)).Nodup) :
    ((pageNumbers first count).flatMap fun p => idsOf (listing p)).Nodup ↔
      first + count ≤ lastPage + 1 ∨ idsOf (listing lastPage) = [] := by
  obtain ⟨hpage, hapart⟩ := List.nodup_flatMap.1 honce
  have hdisjoint : ∀ p q, 1 ≤ p → p < q → q ≤ lastPage →
      (idsOf (listing p)).Disjoint (idsOf (listing q)) := by
    intro p q hp hlt hq
    have h := List.pairwise_iff_getElem.1 hapart (p - 1) (q - 1)
      (by rw [List.length_range']; omega) (by rw [List.length_range']; omega) (by omega)
    simpa [Function.onFun, Nat.add_sub_cancel' hp, Nat.add_sub_cancel' (hp.trans hlt.le)] using h
  have hpages : ∀ p ∈ pageNumbers first count, (idsOf (listing p)).Nodup := fun p hp =>
    hpage p (List.mem_range'_1.2 (by have hp := mem_pageNumbers hfirst hp; omega))
  have hself : ∀ ids : List Nat, ids.Disjoint ids ↔ ids = [] := by
    intro ids
    constructor
    · intro h
      exact List.eq_nil_iff_forall_not_mem.2 fun _ hmem => h hmem hmem
    · rintro rfl
      exact List.disjoint_nil_left []
  rw [List.nodup_flatMap, pairwise_pageNumbers_iff hfirst hle hdisjoint, and_iff_right hpages]
  exact or_congr Iff.rfl (hself _)

theorem ids_ingest (s : Session) (posts : List Post) :
    (s.ingest posts).1.map (·.post.id) = posts.map (·.id) := by
  simp [ingest, report, Favorites.id_mark, Function.comp_def]

section

variable {u : Url} {tags : List String} {first count limit : Nat}

theorem search_joins (hs : s.client.Meets site) (hu : place s.client.config .posts = .ok u)
    (tags : List String) (limit : Nat) (hfirst : 1 ≤ first) (hend : first + count ≤ 0xFFFF) :
    s.client.Joins site
      ((pageNumbers first count).map fun p =>
        requestAt s.client.config u (pageQuery tags limit p))
      (s.search tags first count limit).1.posts (s.search tags first count limit).2.2.client := by
  have hqueries : ((Search.pages tags first count limit).map fun p =>
        requestAt s.client.config u p.query) =
      (pageNumbers first count).map fun p =>
        requestAt s.client.config u (pageQuery tags limit p) := by
    have hmap := congrArg (List.map (requestAt s.client.config u))
      (query_pages tags limit hfirst hend)
    rwa [List.map_map, List.map_map] at hmap
  rw [search_pages, search_client, ← hqueries]
  exact hs.searchAll_joins hu _

theorem search_reports {listing : Nat → List (Option Post)}
    (hs : s.client.Meets site) (hu : place s.client.config .posts = .ok u) (tags : List String)
    (limit : Nat) (hfirst : 1 ≤ first) (hend : first + count ≤ 0xFFFF)
    (hlisting : ∀ i < count, listed .posts (site i) = .ok (listing (min (first + i) lastPage))) :
    ∃ reports, (s.search tags first count limit).2.1 = .ok reports ∧
      reports.map (·.post.id) =
        (pageNumbers first count).flatMap fun p => idsOf (listing p) := by
  have hlength : (pageNumbers first count).length = count := by
    rw [pageNumbers, List.length_map, List.length_range]
  obtain ⟨hposts, -⟩ := (search_joins hs hu tags limit hfirst hend).posts
    (fun i => listing (min (first + i) lastPage)) fun i hi =>
      hlisting i (by rwa [List.length_map, hlength] at hi)
  refine ⟨_, search_of_ok hposts, ?_⟩
  rw [ids_ingest, List.length_map, hlength, pageNumbers, List.flatMap_map, List.map_flatMap]
  rfl

end

/-- The pages of a search follow each other and differ just if they end at page 750 or before. On a
site that lists every post once, a search beyond that page reports a post twice unless that page is
empty. -/
theorem search_pages_distinct (hs : s.client.Meets site) (tags : List String) (limit : Nat)
    {first count : Nat} (hfirst : 1 ≤ first) (hle : first ≤ lastPage) (hpos : 1 ≤ count)
    (hcount : count ≤ 50) :
    let numbers := pageNumbers first count
    let found := s.search tags first count limit
    (∀ p ∈ numbers, 1 ≤ p ∧ p ≤ lastPage) ∧
      (numbers.Nodup ↔ first + count ≤ lastPage + 1) ∧
      (numbers = List.range' first count ↔ first + count ≤ lastPage + 1) ∧
      (∀ fault, place s.client.config .posts = .error fault → found.2.2.client = s.client) ∧
      ∀ u, place s.client.config .posts = .ok u →
        found.2.2.client.requests = s.client.requests ++
          numbers.map (fun p => requestAt s.client.config u (pageQuery tags limit p)) ∧
        ∀ listing : Nat → List (Option Post),
          (∀ i < count, listed .posts (site i) = .ok (listing (min (first + i) lastPage))) →
          ((List.range' 1 lastPage).flatMap fun p => idsOf (listing p)).Nodup →
          ∃ reports, found.2.1 = .ok reports ∧
            ((reports.map (·.post.id)).Nodup ↔
              first + count ≤ lastPage + 1 ∨ idsOf (listing lastPage) = []) := by
  have hend : first + count ≤ 0xFFFF := by
    rw [lastPage] at hle
    omega
  refine ⟨fun p => mem_pageNumbers hfirst, nodup_pageNumbers_iff hfirst hle,
    pageNumbers_eq_iff hle, fun fault hu => ?_, fun u hu =>
      ⟨(search_joins hs hu tags limit hfirst hend).asked, fun listing hlisting honce => ?_⟩⟩
  · have hne : Search.pages tags first count limit ≠ [] := by
      intro hnil
      have hlength := congrArg List.length (query_pages tags limit hfirst hend)
      simp [hnil, pageNumbers] at hlength
      omega
    rw [search_client, Site.Client.searchAll_of_fault hu hne]
  · obtain ⟨reports, hreports, hids⟩ := search_reports hs hu tags limit hfirst hend hlisting
    refine ⟨reports, hreports, ?_⟩
    rw [hids, nodup_ids_iff hfirst hle honce]

def lastPages (last : List (Option Post)) (before : List (Option Post)) (p : Nat) :
    List (Option Post) :=
  if p = lastPage then last else if p + 1 = lastPage then before else []

theorem flatMap_lastPages (last before : List (Option Post)) :
    ((List.range' 1 lastPage).flatMap fun p => idsOf (lastPages last before p)) =
      idsOf before ++ idsOf last := by
  have hsplit : List.range' 1 lastPage = List.range' 1 748 ++ [749, lastPage] := by
    rw [lastPage, List.range'_concat, List.range'_concat]
    simp
  have hfirst : ((List.range' 1 748).flatMap fun p => idsOf (lastPages last before p)) = [] := by
    apply List.flatMap_eq_nil_iff.2
    intro p hp
    have hlt := List.mem_range'_1.1 hp
    rw [lastPages, if_neg (by rw [lastPage]; omega), if_neg (by rw [lastPage]; omega)]
    rfl
  rw [hsplit, List.flatMap_append, hfirst]
  simp [lastPages, lastPage]

theorem search_pages_distinct_at_the_end :
    ∃ s site, ∃ listing : Nat → List (Option Post),
      Session.opened {} .empty (.opened {} [seven, eight]) none = .ok s ∧ s.client.Meets site ∧
      ((List.range' 1 lastPage).flatMap fun p => idsOf (listing p)) = [7, 8] ∧
      (∀ i < 2, listed .posts (site i) = .ok (listing (min (749 + i) lastPage))) ∧
      (pageNumbers 749 2).Nodup ∧ ∃ reports, (s.search ["duo"] 749 2 10).2.1 = .ok reports ∧
        (reports.map (·.post.id)).Nodup := by
  obtain ⟨s, u, hopen, -, -, hplace, hmeets⟩ := exists_session [seven, eight]
  obtain ⟨e₇, h₇, hids₇⟩ := listed_seven
  obtain ⟨e₈, h₈, hids₈⟩ := listed_eight
  have honce : ((List.range' 1 lastPage).flatMap fun p => idsOf (lastPages e₈ e₇ p)) = [7, 8] := by
    rw [flatMap_lastPages, hids₇, hids₈]
    rfl
  have hlisting : ∀ i < 2, listed .posts ([seven, eight].getD i .nothing).reply =
      .ok (lastPages e₈ e₇ (min (749 + i) lastPage)) := by
    intro i hi
    obtain rfl | rfl : i = 0 ∨ i = 1 := by omega
    · exact h₇
    · exact h₈
  obtain ⟨-, hnodup, -, -, hfound⟩ := search_pages_distinct hmeets ["duo"] 10
    (by decide : 1 ≤ 749) (by decide) (by decide : 1 ≤ 2) (by decide)
  obtain ⟨-, hreports⟩ := hfound u hplace
  obtain ⟨reports, hok, hiff⟩ := hreports (lastPages e₈ e₇) hlisting (by rw [honce]; decide)
  exact ⟨s, _, _, hopen, hmeets, honce, hlisting, hnodup.2 (by decide), reports, hok,
    hiff.2 (Or.inl (by decide))⟩

/-- Post 7 is listed on the last page only, but that page is asked for twice. -/
theorem search_repeats_last_page :
    ∃ s site u, ∃ listing : Nat → List (Option Post),
      Session.opened {} .empty (.opened {} [seven, seven]) none = .ok s ∧ s.client.Meets site ∧
      place {} .posts = .ok u ∧
      ((List.range' 1 lastPage).flatMap fun p => idsOf (listing p)) = [7] ∧
      (∀ i < 2, listed .posts (site i) = .ok (listing (min (750 + i) lastPage))) ∧
      (s.search ["duo"] 750 2 10).2.2.client.requests =
        List.replicate 2 (requestAt {} u (pageQuery ["duo"] 10 750)) ∧
      ∃ reports, (s.search ["duo"] 750 2 10).2.1 = .ok reports ∧
        reports.map (·.post.id) = [7, 7] := by
  obtain ⟨s, u, hopen, hclient, hu, hplace, hmeets⟩ := exists_session [seven, seven]
  obtain ⟨e₇, h₇, hids₇⟩ := listed_seven
  have honce : ((List.range' 1 lastPage).flatMap fun p => idsOf (lastPages e₇ [] p)) = [7] := by
    rw [flatMap_lastPages, hids₇]
    rfl
  have hlisting : ∀ i < 2, listed .posts ([seven, seven].getD i .nothing).reply =
      .ok (lastPages e₇ [] (min (750 + i) lastPage)) := by
    intro i hi
    obtain rfl | rfl : i = 0 ∨ i = 1 := by omega
    · exact h₇
    · exact h₇
  have hasked := (search_joins hmeets hplace ["duo"] 10 (by decide : 1 ≤ 750)
    (by decide : 750 + 2 ≤ 0xFFFF)).asked
  obtain ⟨reports, hok, hids⟩ := search_reports hmeets hplace ["duo"] 10 (by decide : 1 ≤ 750)
    (by decide : 750 + 2 ≤ 0xFFFF) hlisting
  refine ⟨s, _, u, _, hopen, hmeets, hu, honce, hlisting, ?_, reports, hok, ?_⟩
  · rw [hasked, hclient]
    rfl
  · have htwice : pageNumbers 750 2 = [lastPage, lastPage] := by decide
    rw [hids, htwice]
    simp [lastPages, hids₇]

end BoardFilter.Session
