import BoardFilter.Proofs.Site.Replies

/-!
# The walk over favorites

The pages of favorites are asked for one after the other, up to the first that holds too few posts.
Entries without an id count for nothing in this, so a page that the site fills with entries can end
the walk although more pages follow.
-/

namespace BoardFilter.Site

open Queue (History)

namespace Client

/-- The first of the pages 1 to 750 that is smaller than a full page, or else the last of them. The
sizes are numbered from 0. -/
def firstShort (size : Nat → Nat) : Nat :=
  (((List.range lastPage).find? fun k => size k < largestLimit).map (· + 1)).getD lastPage

def usable (entries : List (Option Post)) : Nat := (entries.filterMap id).length

def idsOn (pages : Nat → List (Option Post)) (n : Nat) : List Nat :=
  (List.range n).flatMap fun k => idsOf (pages k)

def favoritesRequests (cfg : Config) (u : Url) (user : Option Nat) (page n : Nat) : List Request :=
  (List.range' page n).map fun p => requestAt cfg u (favoritesQuery user p)

theorem firstShort_spec (size : Nat → Nat) :
    (∀ k, k + 1 < firstShort size → largestLimit ≤ size k) ∧
      (firstShort size = lastPage ∨
        ∃ k, firstShort size = k + 1 ∧ k < lastPage ∧ size k < largestLimit) := by
  rw [firstShort]
  cases hfind : (List.range lastPage).find? fun k => size k < largestLimit with
  | none =>
    refine ⟨fun k hk => ?_, Or.inl rfl⟩
    have hfull := List.find?_range_eq_none.1 hfind k (Nat.lt_of_succ_lt hk)
    simpa using hfull
  | some k =>
    obtain ⟨hshort, hmem, hfull⟩ := List.find?_range_eq_some.1 hfind
    refine ⟨fun j hj => ?_, Or.inr ⟨k, rfl, List.mem_range.1 hmem, of_decide_eq_true hshort⟩⟩
    simpa using hfull j (Nat.lt_of_succ_lt_succ hj)

theorem firstShort_le (size : Nat → Nat) : firstShort size ≤ lastPage := by
  rcases (firstShort_spec size).2 with hall | ⟨k, hk, hlt, -⟩ <;> omega

theorem firstShort_eq {size : Nat → Nat} {k : Nat} (hk : k < lastPage)
    (hshort : size k < largestLimit) (hfull : ∀ j < k, largestLimit ≤ size j) :
    firstShort size = k + 1 := by
  have hfind : (List.range lastPage).find? (fun k => size k < largestLimit) = some k := by
    apply List.find?_range_eq_some.2
    exact ⟨decide_eq_true hshort, List.mem_range.2 hk, fun j hj => by simpa using hfull j hj⟩
  rw [firstShort, hfind]
  rfl

theorem firstShort_mono {size size' : Nat → Nat} (h : ∀ k, size k ≤ size' k) :
    firstShort size ≤ firstShort size' := by
  rcases (firstShort_spec size').2 with hall | ⟨k, hk, -, hshort⟩
  · rw [hall]
    exact firstShort_le size
  · by_contra hlt
    have hfull := (firstShort_spec size).1 k (by omega)
    have hle := h k
    omega

theorem firstShort_eq_iff {size size' : Nat → Nat} (h : ∀ k, size k ≤ size' k) :
    firstShort size = firstShort size' ↔
      ∀ k, k + 1 < firstShort size' → largestLimit ≤ size k := by
  constructor
  · intro heq k hk
    exact (firstShort_spec size).1 k (by omega)
  · intro hfull
    apply Nat.le_antisymm (firstShort_mono h)
    rcases (firstShort_spec size).2 with hall | ⟨k, hk, -, hshort⟩
    · rw [hall]
      exact firstShort_le size'
    · by_contra hlt
      have hk' := hfull k (by omega)
      omega

theorem usable_le_length (entries : List (Option Post)) : usable entries ≤ entries.length :=
  List.length_filterMap_le id entries

theorem usable_replicate (n : Nat) : usable (List.replicate n none) = 0 := by
  rw [usable, List.filterMap_replicate_of_none rfl, List.length_nil]

theorem idsOf_replicate (n : Nat) : idsOf (List.replicate n none) = [] := by
  rw [idsOf, List.filterMap_replicate_of_none rfl, List.map_nil]

theorem idsOn_succ (pages : Nat → List (Option Post)) (n : Nat) :
    idsOn pages (n + 1) = idsOn pages n ++ idsOf (pages n) := by
  rw [idsOn, List.range_succ, List.flatMap_append, List.flatMap_singleton, idsOn]

theorem favoritesRequests_succ (cfg : Config) (u : Url) (user : Option Nat) (page n : Nat) :
    favoritesRequests cfg u user page (n + 1) = favoritesRequests cfg u user page n ++
      [requestAt cfg u (favoritesQuery user (page + n))] := by
  rw [favoritesRequests, List.range'_concat, Nat.one_mul, List.map_append, List.map_singleton,
    favoritesRequests]

theorem length_favoritesRequests (cfg : Config) (u : Url) (user : Option Nat) (page n : Nat) :
    (favoritesRequests cfg u user page n).length = n := by
  rw [favoritesRequests, List.length_map, List.length_range']

variable {c : Client} {cfg : Config} {script : Nat → Reply} {h : History} {u : Url}
  {site : Nat → Reply} {user : Option Nat}

theorem favoritesPage_eq (hr : Channel.Recorded script h c.channel) (hcfg : c.config = cfg)
    (hu : place cfg .favorites = .ok u) (user : Option Nat) (page : Nat) :
    c.favoritesPage user page =
        (listed .favorites (script h.asked.length)).map (fun entries => entries.filterMap id) ∧
      (c.afterFavorites user page).config = cfg ∧
      ∃ h', Channel.Recorded script h' (c.afterFavorites user page).channel ∧
        h'.asked.map (·.request) =
          h.asked.map (·.request) ++ [requestAt cfg u (favoritesQuery user page)] ∧
        h'.asked.length = h.asked.length + 1 ∧ h'.queue.entries = [] := by
  have hq : favoritesQuery user page ≠ [] := by simp [favoritesQuery]
  have hreq := request_eq hu hq
  rw [← hcfg] at hreq ⊢
  obtain ⟨hanswer, hconfig, h', hr', hasked, hentries⟩ := ask_eq hr hreq
  have hlength : h'.asked.length = h.asked.length + 1 := by
    simpa using congrArg List.length hasked
  rw [favoritesPage, hanswer, readPosts_ofReply, afterFavorites]
  exact ⟨rfl, hconfig, h', hr', hasked, hlength, hentries⟩

theorem favoritesFrom_of_full_pages {n : Nat} {pages : Nat → List (Option Post)} (user : Option Nat)
    (page : Nat) (hr : Channel.Recorded script h c.channel) (hcfg : c.config = cfg)
    (hu : place cfg .favorites = .ok u)
    (hpages : ∀ k < n, listed .favorites (script (h.asked.length + k)) = .ok (pages k))
    (hfull : ∀ k < n, largestLimit ≤ usable (pages k)) :
    ∃ (c' : Client) (h' : History), Channel.Recorded script h' c'.channel ∧ c'.config = cfg ∧
      h'.asked.map (·.request) =
        h.asked.map (·.request) ++ favoritesRequests cfg u user page n ∧
      ∀ count, c.favoritesFrom user page (n + count) =
        ((c'.favoritesFrom user (page + n) count).1.map (idsOn pages n ++ ·),
          (c'.favoritesFrom user (page + n) count).2) := by
  -- The induction takes off the last page and not the first, as the history grows at its end.
  induction n with
  | zero =>
    refine ⟨c, h, hr, hcfg, by simp [favoritesRequests], fun count => ?_⟩
    rw [Nat.zero_add, Nat.add_zero]
    cases hids : c.favoritesFrom user page count with
    | mk ids c' => cases ids <;> rfl
  | succ n ih =>
    obtain ⟨c₁, h₁, hr₁, hcfg₁, hasked₁, hwalk⟩ :=
      ih (fun k hk => hpages k (Nat.lt_succ_of_lt hk)) fun k hk => hfull k (Nat.lt_succ_of_lt hk)
    have hlength : h₁.asked.length = h.asked.length + n := by
      simpa [length_favoritesRequests] using congrArg List.length hasked₁
    obtain ⟨hpage, hcfg₂, h₂, hr₂, hasked₂, -⟩ := favoritesPage_eq hr₁ hcfg₁ hu user (page + n)
    rw [hlength, hpages n (Nat.lt_succ_self n)] at hpage
    refine ⟨_, h₂, hr₂, hcfg₂, ?_, fun count => ?_⟩
    · rw [hasked₂, hasked₁, favoritesRequests_succ, List.append_assoc]
    · have hlarge := Nat.not_lt.2 (hfull n (Nat.lt_succ_self n))
      rw [Nat.succ_add_eq_add_succ, hwalk, favoritesFrom_of_full hpage hlarge, idsOn_succ,
        ← Nat.add_assoc]
      generalize (c₁.afterFavorites user (page + n)).favoritesFrom user (page + n + 1) count = rest
      obtain ⟨ids, c'⟩ := rest
      cases ids <;> simp [Except.map, idsOf]

theorem favoritesFrom_of_last {page count : Nat} {entries : List (Option Post)}
    (hpage : c.favoritesPage user page = .ok (entries.filterMap id))
    (hlast : usable entries < largestLimit ∨ count = 0) :
    c.favoritesFrom user page (count + 1) =
      (.ok (idsOf entries), c.afterFavorites user page) := by
  by_cases hshort : usable entries < largestLimit
  · exact favoritesFrom_of_short hpage hshort count
  · obtain rfl := hlast.resolve_left hshort
    rw [favoritesFrom_of_full hpage hshort, favoritesFrom, Except.map, idsOf, List.append_nil]

/-- The walk gives the ids on the first pages, as many as said, and asks for each page once. -/
structure Walked (c : Client) (u : Url) (user : Option Nat) (pages : Nat → List (Option Post))
    (n : Nat) : Prop where
  ids : (c.favoriteIds user).1 = .ok (idsOn pages n)
  sent : (c.favoriteIds user).2.channel.sent.map (·.request) =
    c.requests ++ favoritesRequests c.config u user 1 n

theorem Walked.unique {pages : Nat → List (Option Post)} {n m : Nat}
    (h : c.Walked u user pages n) (h' : c.Walked u user pages m) : n = m := by
  have hsent := h.sent.symm.trans h'.sent
  have hlength := congrArg List.length (List.append_cancel_left hsent)
  rwa [length_favoritesRequests, length_favoritesRequests] at hlength

theorem Meets.walked {n : Nat} {pages : Nat → List (Option Post)} (hc : c.Meets site)
    (hu : place c.config .favorites = .ok u) (user : Option Nat)
    (hpages : ∀ k < n, listed .favorites (site k) = .ok (pages k))
    (hfull : ∀ k, k + 1 < n → largestLimit ≤ usable (pages k))
    (hend : n = lastPage ∨ ∃ k, n = k + 1 ∧ k < lastPage ∧ usable (pages k) < largestLimit) :
    c.Walked u user pages n := by
  obtain ⟨script, h, hr, hsite⟩ := hc.exists_recorded
  simp only [hsite] at hpages
  obtain ⟨m, rfl⟩ : ∃ m, n = m + 1 := by
    rcases hend with rfl | ⟨k, rfl, -⟩
    · exact ⟨749, rfl⟩
    · exact ⟨k, rfl⟩
  obtain ⟨count, hcount, hlast⟩ : ∃ count, lastPage = m + (count + 1) ∧
      (usable (pages m) < largestLimit ∨ count = 0) := by
    rcases hend with hall | ⟨k, hk, hlt, hshort⟩
    · exact ⟨0, hall.symm, Or.inr rfl⟩
    · obtain rfl := Nat.succ.inj hk
      exact ⟨lastPage - m - 1, by omega, Or.inl hshort⟩
  obtain ⟨c₁, h₁, hr₁, hcfg₁, hasked₁, hwalk⟩ := favoritesFrom_of_full_pages user 1 hr rfl hu
    (fun k hk => hpages k (Nat.lt_succ_of_lt hk)) fun k hk => hfull k (Nat.succ_lt_succ hk)
  have hlength : h₁.asked.length = h.asked.length + m := by
    simpa [length_favoritesRequests] using congrArg List.length hasked₁
  obtain ⟨hpage, -, h₂, hr₂, hasked₂, -, hentries⟩ := favoritesPage_eq hr₁ hcfg₁ hu user (1 + m)
  rw [hlength, hpages m (Nat.lt_succ_self m)] at hpage
  have hresult : c.favoriteIds user =
      (.ok (idsOn pages (m + 1)), c₁.afterFavorites user (1 + m)) := by
    rw [favoriteIds, hcount, hwalk, favoritesFrom_of_last hpage hlast, idsOn_succ, Except.map]
  constructor
  · rw [hresult]
  · rw [hresult, sent_eq hr₂ hentries, hasked₂, hasked₁, requests_eq hr, favoritesRequests_succ,
      List.append_assoc]

theorem Meets.favoriteIds_error_iff {n : Nat} {pages : Nat → List (Option Post)} {failure : Failure}
    (hc : c.Meets site) (hu : place c.config .favorites = .ok u) (user : Option Nat)
    (hn : n < lastPage) (hpages : ∀ k < n, listed .favorites (site k) = .ok (pages k))
    (hfail : listed .favorites (site n) = .error failure) :
    (c.favoriteIds user).1 = .error failure ↔ ∀ k < n, largestLimit ≤ usable (pages k) := by
  constructor
  · intro herror k hk
    by_contra hshort
    -- The walk already ends at the first page that is not full, and that is no later than `k`.
    obtain ⟨hfull, hend⟩ := firstShort_spec fun k => usable (pages k)
    have hle : (firstShort fun k => usable (pages k)) ≤ k + 1 := by
      by_contra hlt
      exact hshort (hfull k (by omega))
    have hwalk := hc.walked hu user (fun k hk => hpages k (by omega)) hfull hend
    rw [hwalk.ids] at herror
    cases herror
  · intro hfull
    obtain ⟨script, h, hr, hsite⟩ := hc.exists_recorded
    simp only [hsite] at hpages hfail
    obtain ⟨c₁, h₁, hr₁, hcfg₁, hasked₁, hwalk⟩ :=
      favoritesFrom_of_full_pages user 1 hr rfl hu hpages hfull
    have hlength : h₁.asked.length = h.asked.length + n := by
      simpa [length_favoritesRequests] using congrArg List.length hasked₁
    obtain ⟨hpage, -⟩ := favoritesPage_eq hr₁ hcfg₁ hu user (1 + n)
    rw [hlength, hfail] at hpage
    obtain ⟨rest, hrest⟩ : ∃ rest, lastPage = n + (rest + 1) := ⟨lastPage - n - 1, by omega⟩
    rw [favoriteIds, hrest, hwalk, favoritesFrom_of_error hpage]
    rfl

theorem favoriteIds_of_fault {fault : Url.Fault} (hu : place c.config .favorites = .error fault)
    (user : Option Nat) :
    c.favoriteIds user =
      (.error (.invalidUrl (Endpoint.favorites.url c.config.baseUrl none) fault), c) := by
  have hask : c.ask .favorites none (favoritesQuery user 1) =
      (.error (.invalidUrl (Endpoint.favorites.url c.config.baseUrl none) fault), c) := by
    rw [ask, request_of_fault hu]
  have hpage : c.favoritesPage user 1 =
      .error (.invalidUrl (Endpoint.favorites.url c.config.baseUrl none) fault) := by
    rw [favoritesPage, hask]
    rfl
  rw [favoriteIds, lastPage, favoritesFrom_of_error hpage, afterFavorites, hask]

/-- The walk goes on up to the first page with less than 320 usable entries. It covers the pages up
to the first one with less than 320 entries just if every page before that has 320 usable ones, and
a page that fails is noticed under the same condition. -/
theorem Meets.favorites_of_full_pages (hc : c.Meets site) (user : Option Nat) :
    (∀ u, place c.config .favorites = .ok u →
      (∀ pages : Nat → List (Option Post),
        (∀ k < lastPage, listed .favorites (site k) = .ok (pages k)) →
          let due := firstShort fun k => (pages k).length
          c.Walked u user pages (firstShort fun k => usable (pages k)) ∧
            (c.Walked u user pages due ↔ ∀ k, k + 1 < due → largestLimit ≤ usable (pages k))) ∧
      ∀ (n : Nat) (pages : Nat → List (Option Post)) (failure : Failure), n < lastPage →
        (∀ k < n, listed .favorites (site k) = .ok (pages k)) →
        listed .favorites (site n) = .error failure →
          ((c.favoriteIds user).1 = .error failure ↔
            ∀ k < n, largestLimit ≤ usable (pages k))) ∧
    ∀ fault, place c.config .favorites = .error fault →
      c.favoriteIds user =
        (.error (.invalidUrl (Endpoint.favorites.url c.config.baseUrl none) fault), c) := by
  refine ⟨fun u hu => ⟨fun pages hpages => ?_, fun n pages failure hn =>
    hc.favoriteIds_error_iff hu user hn⟩, fun fault hu => favoriteIds_of_fault hu user⟩
  obtain ⟨hfull, hend⟩ := firstShort_spec fun k => usable (pages k)
  have hle := firstShort_le fun k => usable (pages k)
  have hwalk := hc.walked hu user (fun k hk => hpages k (by omega)) hfull hend
  refine ⟨hwalk, ?_⟩
  rw [← firstShort_eq_iff fun k => usable_le_length (pages k)]
  constructor
  · exact hwalk.unique
  · intro heq
    rwa [← heq]

def pairReply : TimedReply :=
  ⟨.received 200 "\x7b\"posts\":[\x7b\"id\":7\x7d,\x7b\x7d]\x7d", 5⟩

theorem favorites_of_full_pages_of_pair :
    ∃ site u pages, (opened {} [pairReply]).Meets site ∧ place {} .favorites = .ok u ∧
      (∀ k < lastPage, listed .favorites (site k) = .ok (pages k)) ∧ (pages 0).length = 2 ∧
      idsOn pages 1 = [7] ∧ (opened {} [pairReply]).Walked u (some 3) pages 1 := by
  obtain ⟨entries, hentries, hids⟩ : ∃ entries, listed .favorites pairReply.reply = .ok entries ∧
      entries.map (·.map (·.id)) = [some 7, none] := exists_listed (by decide +kernel)
  have hlength : entries.length = 2 := by simpa using congrArg List.length hids
  obtain ⟨u, hu⟩ : ∃ u, place {} .favorites = .ok u := exists_ok (by decide +kernel)
  have hmeets := meets_opened {} [pairReply] .nothing id
  have hpages : ∀ k, listed .favorites ([pairReply].getD k .nothing).reply =
      .ok ([entries].getD k []) := listed_getD (by simp [hentries])
  obtain ⟨hwalk, -⟩ := ((Meets.favorites_of_full_pages hmeets (some 3)).1 u hu).1 _
    fun k _ => hpages k
  have hshort : usable entries < largestLimit :=
    Nat.lt_of_le_of_lt (usable_le_length entries) (by rw [hlength]; decide)
  rw [firstShort_eq (k := 0) (by decide) hshort (by simp)] at hwalk
  have hon : idsOn (fun k => [entries].getD k []) 1 = [7] := by
    rw [idsOn_succ, List.getD_cons_zero, idsOf_eq hids]
    rfl
  exact ⟨_, u, _, hmeets, hu, fun k _ => hpages k, hlength, hon, hwalk⟩

def isBare : Json → Bool
  | .object [] => true
  | _ => false

theorem eq_of_isBare {v : Json} (h : isBare v = true) : v = .object [] := by
  unfold isBare at h
  split at h
  · rfl
  · cases h

def isBarePage (n : Nat) : Option (Json × List Char) → Bool
  | some (.object [(name, .array items)], []) =>
    name = "posts" && items.length = n && items.all isBare
  | _ => false

theorem eq_of_isBarePage {n : Nat} {read : Option (Json × List Char)}
    (h : isBarePage n read = true) :
    read = some (.object [("posts", .array (List.replicate n (.object [])))], []) := by
  unfold isBarePage at h
  split at h
  · simp only [Bool.and_eq_true, decide_eq_true_eq, List.all_eq_true] at h
    obtain ⟨⟨rfl, hlength⟩, hitems⟩ := h
    rw [List.eq_replicate_iff.2 ⟨hlength, fun v hv => eq_of_isBare (hitems v hv)⟩]
  · cases h

def barePage : List Char :=
  ['\x7b', '"', 'p', 'o', 's', 't', 's', '"', ':', '['] ++
    (List.replicate 319 ['\x7b', '\x7d', ',']).flatten ++ ['\x7b', '\x7d', ']', '\x7d']

theorem parse?_barePage :
    Json.parse? (String.ofList barePage) =
      some (.object [("posts", .array (List.replicate largestLimit (.object [])))]) := by
  have hread : isBarePage largestLimit (Json.readValue? Json.depthLimit (Json.skipGap barePage)) =
      true := by decide +kernel
  rw [Json.parse?, Json.parseWithin?, String.toList_ofList, eq_of_isBarePage hread]
  simp [Json.skipGap]

theorem read_barePage :
    Answer.read .favorites (String.ofList barePage) =
      .ok (.array (List.replicate largestLimit (.object []))) := by
  have hblank : barePage.all Text.isBlank = false := by decide +kernel
  rw [Answer.read, Text.isBlankText, String.toList_ofList, hblank, parse?_barePage]
  rfl

theorem listed_barePage :
    listed .favorites (.received 200 (String.ofList barePage)) =
      .ok (List.replicate largestLimit none) := by
  have hentries : Json.asList? Listing.post? (.array (List.replicate largestLimit (.object []))) =
      some (List.replicate largestLimit none) := by
    apply Json.asList?_eq_some_iff.2
    have hbare : Listing.post? (.object []) = some none := rfl
    exact ⟨_, rfl, by rw [List.map_replicate, List.map_replicate, hbare]⟩
  have hsuccess : Answer.isSuccess 200 = true := rfl
  rw [listed, Answer.ofReply, if_pos hsuccess, read_barePage]
  simp only [Except.map, Except.bind, hentries]

def sparseReplies : List TimedReply :=
  [⟨.received 200 (String.ofList barePage), 0⟩,
    ⟨.received 200 "\x7b\"posts\":[\x7b\"id\":7\x7d]\x7d", 0⟩]

/-- Two pages should be walked, and post 7 is on the second; but only one page is asked for. -/
theorem favorites_end_at_nameless_page :
    ∃ site u pages, (opened {} sparseReplies).Meets site ∧ place {} .favorites = .ok u ∧
      (∀ k, listed .favorites (site k) = .ok (pages k)) ∧
      (firstShort fun k => (pages k).length) = 2 ∧ idsOn pages 2 = [7] ∧
      ((opened {} sparseReplies).favoriteIds none).1 = .ok [] ∧
      ¬ (opened {} sparseReplies).Walked u none pages 2 := by
  obtain ⟨entries, hentries, hids⟩ : ∃ entries,
      listed .favorites (.received 200 "\x7b\"posts\":[\x7b\"id\":7\x7d]\x7d") = .ok entries ∧
        entries.map (·.map (·.id)) = [some 7] := exists_listed (by decide +kernel)
  have hlength : entries.length = 1 := by simpa using congrArg List.length hids
  obtain ⟨u, hu⟩ : ∃ u, place {} .favorites = .ok u := exists_ok (by decide +kernel)
  have hmeets := meets_opened {} sparseReplies .nothing id
  have hpages : ∀ k, listed .favorites (sparseReplies.getD k .nothing).reply =
      .ok ([List.replicate largestLimit none, entries].getD k []) :=
    listed_getD (by simp [sparseReplies, hentries, listed_barePage])
  have hwalk : (opened {} sparseReplies).Walked u none
      (fun k => [List.replicate largestLimit none, entries].getD k []) 1 := by
    apply hmeets.walked hu none (fun k _ => hpages k) (by omega)
    refine Or.inr ⟨0, rfl, by decide, ?_⟩
    rw [List.getD_cons_zero, usable_replicate]
    decide
  have hdue : (firstShort fun k =>
      ([List.replicate largestLimit none, entries].getD k []).length) = 2 := by
    apply firstShort_eq (by decide)
    · rw [List.getD_cons_succ, List.getD_cons_zero, hlength]
      decide
    · intro j hj
      obtain rfl : j = 0 := by omega
      exact Nat.le_of_eq List.length_replicate.symm
  have hone : idsOn (fun k => [List.replicate largestLimit none, entries].getD k []) 1 = [] := by
    rw [idsOn_succ, List.getD_cons_zero, idsOf_replicate]
    rfl
  refine ⟨_, u, _, hmeets, hu, hpages, hdue, ?_, ?_, ?_⟩
  · rw [idsOn_succ, hone, List.getD_cons_succ, List.getD_cons_zero, idsOf_eq hids]
    rfl
  · rw [hwalk.ids, hone]
  · intro hboth
    exact absurd (hwalk.unique hboth) (by decide)

end Client

end BoardFilter.Site
