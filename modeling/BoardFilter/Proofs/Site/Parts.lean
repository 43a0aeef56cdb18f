import BoardFilter.Proofs.Site.Replies

/-!
# Questions in parts

Searches are sent together and awaited in turn. Together they come to what the sequence of replies
says, whenever the replies arrive: all posts of all parts in the order of the requests, or the
failure of the first part that fails.
-/

namespace BoardFilter.Site

open Queue (History)

namespace Client

variable {c : Client} {script : Nat → Reply} {h : History} {u : Url} {site : Nat → Reply}

/-- The call is a request to the endpoint, and its caller has not given it up. -/
def Open (h : History) (endpoint : Endpoint) (call : Nat) : Prop :=
  ∃ e ∈ h.asked, e.index = call ∧ e.endpoint = endpoint ∧ call ∈ h.queue.callers

theorem Open.mono {h h' : History} {endpoint : Endpoint} {call : Nat} (ho : Open h endpoint call)
    (hasked : ∀ e ∈ h.asked, e ∈ h'.asked)
    (hcallers : call ∈ h.queue.callers → call ∈ h'.queue.callers) : Open h' endpoint call := by
  obtain ⟨e, he, hindex, hendpoint, hheld⟩ := ho
  exact ⟨e, hasked e he, hindex, hendpoint, hcallers hheld⟩

theorem recorded_sendAll (hr : Channel.Recorded script h c.channel) (endpoint : Endpoint)
    (requests : List Request) :
    (c.sendAll endpoint requests).1 = List.range' h.asked.length requests.length ∧
      (c.sendAll endpoint requests).2.config = c.config ∧
      ∃ h', Channel.Recorded script h' (c.sendAll endpoint requests).2.channel ∧
        h'.asked.map (·.request) = h.asked.map (·.request) ++ requests ∧
        (∀ call, Open h endpoint call → Open h' endpoint call) ∧
        ∀ call ∈ List.range' h.asked.length requests.length, Open h' endpoint call := by
  induction requests generalizing c h with
  | nil => exact ⟨rfl, rfl, h, hr, by simp, fun _ ho => ho, by simp⟩
  | cons request rest ih =>
    obtain ⟨hcall, h₁, e, hr₁, hasked, hcallers, hindex, hrequest, hendpoint⟩ :=
      recorded_send hr request endpoint
    obtain ⟨hcalls, hconfig, h₂, hr₂, hasked₂, hkeep, hopen⟩ := ih hr₁
    have hlength : h₁.asked.length = h.asked.length + 1 := by simp [hasked]
    have hfirst : Open h₁ endpoint h.asked.length :=
      ⟨e, by simp [hasked], hindex, hendpoint, by simp [hcallers]⟩
    rw [hlength] at hcalls hopen
    refine ⟨?_, hconfig, h₂, hr₂, ?_, fun call ho => hkeep call (ho.mono ?_ ?_), ?_⟩
    · rw [List.length_cons, List.range'_succ, ← hcalls, ← hcall]
      rfl
    · rw [hasked₂, hasked, List.map_append, List.map_singleton, hrequest, List.append_assoc]
      rfl
    · simp +contextual [hasked]
    · simp +contextual [hcallers]
    · intro call hmem
      rw [List.length_cons, List.range'_succ, List.mem_cons] at hmem
      rcases hmem with rfl | hmem
      · exact hkeep _ hfirst
      · exact hopen call hmem

theorem page_eq (hr : Channel.Recorded script h c.channel) {call : Nat} (ho : Open h .posts call) :
    c.page call = (listed .posts (script call)).map (fun entries => entries.filterMap id) ∧
      ∃ h', Channel.Recorded script h' (c.await call).2.channel ∧ h'.asked = h.asked ∧
        (∀ other, other ≠ call → Open h .posts other → Open h' .posts other) ∧
        call ∉ h'.queue.waiters := by
  obtain ⟨e, he, rfl, hendpoint, hheld⟩ := ho
  obtain ⟨hanswer, h', hr', hasked, hcallers, hwait⟩ := hr.await he hheld
  refine ⟨?_, h', hr', hasked, fun other hne ho => ho.mono (by simp [hasked]) ?_, hwait⟩
  · rw [← readPosts_ofReply, ← hendpoint, ← hanswer]
    rfl
  · intro hmem
    rw [hcallers]
    simp [hmem, hne]

theorem Reads.snoc {calls : List Nat} {pages : List (List Post)} {c' : Client}
    (hreads : Reads c calls pages c') {call : Nat} {posts : List Post}
    (hpage : c'.page call = .ok posts) :
    Reads c (calls ++ [call]) (pages ++ [posts]) (c'.await call).2 := by
  induction hreads with
  | nil => exact .cons hpage (.nil _)
  | cons h rest ih => exact .cons h (ih hpage)

theorem reads_of_open {first n : Nat} {lists : Nat → List (Option Post)}
    (hr : Channel.Recorded script h c.channel) (ho : ∀ i < n, Open h .posts (first + i))
    (hlists : ∀ i < n, listed .posts (script (first + i)) = .ok (lists i)) :
    ∃ c' h', Reads c (List.range' first n) ((List.range n).map fun i => (lists i).filterMap id) c' ∧
      Channel.Recorded script h' c'.channel ∧ h'.asked = h.asked ∧
      (∀ i, n ≤ i → Open h .posts (first + i) → Open h' .posts (first + i)) ∧
      ∀ i, n = i + 1 → first + i ∉ h'.queue.waiters := by
  induction n with
  | zero => exact ⟨c, h, .nil c, hr, rfl, fun _ _ ho => ho, fun i hi => by cases hi⟩
  | succ n ih =>
    obtain ⟨c₁, h₁, hreads, hr₁, hasked₁, hkeep₁, -⟩ :=
      ih (fun i hi => ho i (Nat.lt_succ_of_lt hi)) fun i hi => hlists i (Nat.lt_succ_of_lt hi)
    have hlast := hkeep₁ n (Nat.le_refl n) (ho n (Nat.lt_succ_self n))
    obtain ⟨hpage, h₂, hr₂, hasked₂, hkeep₂, hwait⟩ := page_eq hr₁ hlast
    rw [hlists n (Nat.lt_succ_self n)] at hpage
    refine ⟨_, h₂, ?_, hr₂, hasked₂.trans hasked₁, fun i hi hopen => ?_, fun i hi => ?_⟩
    · rw [List.range'_concat, Nat.one_mul, List.range_succ, List.map_append, List.map_singleton]
      exact hreads.snoc hpage
    · exact hkeep₂ _ (by omega) (hkeep₁ i (by omega) hopen)
    · obtain rfl := Nat.succ.inj hi
      exact hwait

theorem Reads.collect_eq {calls : List Nat} {pages : List (List Post)} {c' : Client}
    (hreads : Reads c calls pages c') : c.collect calls = (⟨pages, none⟩, c') := by
  induction hreads with
  | nil => rfl
  | cons hpage rest ih =>
    rw [page] at hpage
    simp only [Client.collect, hpage, ih]

theorem recorded_dropAll (hr : Channel.Recorded script h c.channel) (calls : List Nat) :
    ∃ h', Channel.Recorded script h' (c.dropAll calls).channel ∧ h'.asked = h.asked := by
  induction calls generalizing c h with
  | nil => exact ⟨h, hr, rfl⟩
  | cons call rest ih =>
    have hdrop : Channel.Recorded script (h.next (.drop call))
        ({ c with channel := c.channel.drop call } : Client).channel := hr.drop call
    obtain ⟨h', hr', hasked⟩ := ih hdrop
    exact ⟨h', hr', hasked⟩

theorem recorded_collect (hr : Channel.Recorded script h c.channel) (calls : List Nat) :
    ∃ h', Channel.Recorded script h' (c.collect calls).2.channel ∧ h'.asked = h.asked := by
  induction calls generalizing c h with
  | nil => exact ⟨h, hr, rfl⟩
  | cons call rest ih =>
    obtain ⟨h₁, hr₁, hasked₁⟩ := hr.exists_await call
    have hawait : Channel.Recorded script h₁ (c.await call).2.channel := hr₁
    rw [← hasked₁]
    cases hpage : c.page call with
    | error failure =>
      rw [page] at hpage
      simp only [collect, hpage]
      exact recorded_dropAll hawait rest
    | ok posts =>
      rw [page] at hpage
      simp only [collect, hpage]
      exact ih hawait

/-- The requests were made, and together they come to what the replies to them list. -/
structure Joins (c : Client) (site : Nat → Reply) (requests : List Request)
    (outcome : Except Failure (List Post)) (c' : Client) : Prop where
  asked : c'.requests = c.requests ++ requests
  posts : ∀ lists : Nat → List (Option Post),
    (∀ i < requests.length, listed .posts (site i) = .ok (lists i)) →
      outcome = .ok ((List.range requests.length).flatMap fun i => (lists i).filterMap id) ∧
        (requests ≠ [] → c'.channel.sent.map (·.request) = c'.requests)
  failure : ∀ i < requests.length, ∀ failure,
    (∀ j < i, ∃ entries, listed .posts (site j) = .ok entries) →
      listed .posts (site i) = .error failure → outcome = .error failure

theorem mapM_request (hu : place c.config .posts = .ok u) (searches : List Search) :
    searches.mapM (Search.request c.config) =
      .ok (searches.map fun s => requestAt c.config u s.query) := by
  induction searches with
  | nil => rfl
  | cons s rest ih =>
    have hreq : Search.request c.config s = .ok (requestAt c.config u s.query) :=
      request_eq hu (by simp [Search.query])
    rw [List.mapM_cons, hreq, ih]
    rfl

theorem Meets.searchAll_joins (hc : c.Meets site) (hu : place c.config .posts = .ok u)
    (searches : List Search) :
    c.Joins site (searches.map fun s => requestAt c.config u s.query)
      (c.searchAll searches).1.posts (c.searchAll searches).2 := by
  obtain ⟨script, h, hr, hsite⟩ := hc.exists_recorded
  rw [searchAll, mapM_request hu]
  generalize (searches.map fun s => requestAt c.config u s.query) = requests
  obtain ⟨hcalls, -, h₁, hr₁, hasked, -, hopen⟩ := recorded_sendAll hr .posts requests
  simp only [hcalls]
  generalize (c.sendAll .posts requests).2 = c₁ at hr₁
  have hlength : h₁.asked.length = h.asked.length + requests.length := by
    simpa using congrArg List.length hasked
  have ho : ∀ i < requests.length, Open h₁ .posts (h.asked.length + i) := fun i hi =>
    hopen _ (List.mem_range'_1.2 (by omega))
  refine ⟨?_, fun lists hlists => ?_, fun i hi failure hbefore hfail => ?_⟩
  · obtain ⟨h₂, hr₂, hasked₂⟩ :=
      recorded_collect hr₁ (List.range' h.asked.length requests.length)
    rw [requests_eq hr₂, hasked₂, hasked, requests_eq hr]
  · obtain ⟨c₂, h₂, hreads, hr₂, hasked₂, -, hlast⟩ := reads_of_open hr₁ ho
      fun i hi => by rw [← hsite]; exact hlists i hi
    rw [hreads.collect_eq]
    refine ⟨by rw [Pages.posts, List.flatMap_def], fun hne => ?_⟩
    have hpos : 0 < requests.length := List.length_pos_iff.2 hne
    have hwait := hlast (requests.length - 1) (by omega)
    have hempty := hr₂.sound.entries_eq_nil hwait (by
      rw [← hr₂.sound.length_asked, hasked₂, hlength]
      omega)
    rw [sent_eq hr₂ hempty, requests_eq hr₂]
  · -- The parts before the one that fails are read, and those after it are given up.
    obtain ⟨lists, hlists⟩ : ∃ lists : Nat → List (Option Post),
        ∀ j < i, listed .posts (site j) = .ok (lists j) := by
      refine ⟨fun j => (listed .posts (site j)).toOption.getD [], fun j hj => ?_⟩
      obtain ⟨entries, hentries⟩ := hbefore j hj
      simp only [hentries, Except.toOption, Option.getD_some]
    obtain ⟨c₂, h₂, hreads, hr₂, -, hkeep, -⟩ := reads_of_open hr₁
      (fun j hj => ho j (hj.trans hi)) fun j hj => by rw [← hsite]; exact hlists j hj
    obtain ⟨hpage, -⟩ := page_eq hr₂ (hkeep i (Nat.le_refl i) (ho i hi))
    rw [← hsite, hfail] at hpage
    obtain ⟨later, hlater⟩ : ∃ later, requests.length = i + (later + 1) :=
      ⟨requests.length - i - 1, by omega⟩
    have hcut : List.range' h.asked.length requests.length =
        List.range' h.asked.length i ++
          (h.asked.length + i) :: List.range' (h.asked.length + i + 1) later := by
      rw [hlater, ← List.range'_append_1, List.range'_succ]
    have hstop := collect_eq_iff.2 ⟨_, _, _, c₂, hcut, hreads, hpage⟩
    rw [hstop]
    rfl

theorem searchAll_of_fault {fault : Url.Fault} (hu : place c.config .posts = .error fault)
    {searches : List Search} (hne : searches ≠ []) :
    c.searchAll searches =
      ({ failure := some (.invalidUrl (Endpoint.posts.url c.config.baseUrl none) fault) }, c) := by
  obtain ⟨s, rest, rfl⟩ := List.exists_cons_of_ne_nil hne
  have hreq : Search.request c.config s =
      .error (.invalidUrl (Endpoint.posts.url c.config.baseUrl none) fault) :=
    request_of_fault hu s.query
  rw [searchAll, List.mapM_cons, hreq]
  rfl

/-- The ids in parts of a hundred, of which only the last may be smaller. -/
structure Parted (ids : List Nat) (parts : List (List Nat)) : Prop where
  flatten : parts.flatten = ids
  nonempty : ∀ part ∈ parts, part ≠ []
  small : ∀ part ∈ parts, part.length ≤ idsPerSearch
  full : ∀ part ∈ parts.dropLast, part.length = idsPerSearch

def Search.ofPart (part : List Nat) : Search :=
  ⟨"id:" ++ String.intercalate "," (part.map toString), 1, part.length⟩

theorem Parted.cons {ids : List Nat} {parts : List (List Nat)} (hne : ids ≠ [])
    (hparts : Parted (ids.drop idsPerSearch) parts) :
    Parted ids (ids.take idsPerSearch :: parts) := by
  have hlength : (ids.take idsPerSearch).length = min idsPerSearch ids.length := List.length_take
  have hpos : 0 < ids.length := List.length_pos_iff.2 hne
  refine ⟨?_, ?_, ?_, ?_⟩
  · rw [List.flatten_cons, hparts.flatten, List.take_append_drop]
  · refine List.forall_mem_cons.2 ⟨List.length_pos_iff.1 ?_, hparts.nonempty⟩
    rw [hlength, idsPerSearch]
    omega
  · exact List.forall_mem_cons.2 ⟨by omega, hparts.small⟩
  · -- A part that another one follows leaves ids for it, so it is full itself.
    cases parts with
    | nil => simp
    | cons next parts =>
      rw [List.dropLast_cons_cons]
      refine List.forall_mem_cons.2 ⟨?_, hparts.full⟩
      have hnext := List.length_pos_iff.2 (hparts.nonempty next List.mem_cons_self)
      have hrest := congrArg List.length hparts.flatten
      rw [List.flatten_cons, List.length_append, List.length_drop] at hrest
      omega

theorem exists_parted (ids : List Nat) :
    ∃ parts, Parted ids parts ∧ Search.ofIds ids = parts.map Search.ofPart := by
  fun_induction Search.ofIds ids with
  | case1 => exact ⟨[], ⟨rfl, by simp, by simp, by simp⟩, rfl⟩
  | case2 id ids part ih =>
    obtain ⟨parts, hparts, heq⟩ := ih
    exact ⟨part :: parts, hparts.cons (List.cons_ne_nil id ids), by rw [heq]; rfl⟩

theorem Parted.tail {ids part : List Nat} {parts : List (List Nat)}
    (h : Parted ids (part :: parts)) : Parted parts.flatten parts where
  flatten := rfl
  nonempty p hp := h.nonempty p (List.mem_cons_of_mem part hp)
  small p hp := h.small p (List.mem_cons_of_mem part hp)
  full p hp := by
    cases parts with
    | nil => cases hp
    | cons next parts =>
      apply h.full
      rw [List.dropLast_cons_cons]
      exact List.mem_cons_of_mem part hp

theorem Parted.length_eq {ids : List Nat} {parts : List (List Nat)} (h : Parted ids parts) :
    parts.length = (ids.length + idsPerSearch - 1) / idsPerSearch := by
  rw [idsPerSearch]
  induction parts generalizing ids with
  | nil =>
    obtain rfl := h.flatten
    rfl
  | cons part parts ih =>
    have hids := congrArg List.length h.flatten
    rw [List.flatten_cons, List.length_append] at hids
    have hrest := ih h.tail
    have hpos := List.length_pos_iff.2 (h.nonempty part List.mem_cons_self)
    have hsmall := h.small part List.mem_cons_self
    rw [idsPerSearch] at hsmall
    rw [List.length_cons]
    cases parts with
    | nil =>
      rw [List.flatten_nil, List.length_nil] at hids
      rw [List.length_nil]
      omega
    | cons next parts =>
      have hfull := h.full part (by rw [List.dropLast_cons_cons]; exact List.mem_cons_self)
      rw [idsPerSearch] at hfull
      omega

def partQuery (part : List Nat) : List (String × String) :=
  [("limit", toString part.length), ("page", "1"),
    ("tags", "id:" ++ String.intercalate "," (part.map toString))]

theorem query_ofPart {part : List Nat} (hne : part ≠ []) (hsmall : part.length ≤ idsPerSearch) :
    (Search.ofPart part).query = partQuery part := by
  have hpos : 0 < part.length := List.length_pos_iff.2 hne
  have hclamp : Search.clamp 1 largestLimit part.length = part.length := by
    simp only [Search.clamp, largestLimit]
    simp only [idsPerSearch] at hsmall
    omega
  simp only [Search.query, Search.ofPart, hclamp, partQuery]
  rfl

theorem Meets.getPosts_joins (hc : c.Meets site) (hu : place c.config .posts = .ok u)
    {ids : List Nat} {parts : List (List Nat)} (hparts : Parted ids parts)
    (hids : Search.ofIds ids = parts.map Search.ofPart) :
    c.Joins site (parts.map fun part => requestAt c.config u (partQuery part)) (c.getPosts ids).1
      (c.getPosts ids).2 := by
  have hqueries : ((Search.ofIds ids).map fun s => requestAt c.config u s.query) =
      parts.map fun part => requestAt c.config u (partQuery part) := by
    rw [hids, List.map_map]
    apply List.map_congr_left
    intro part hpart
    rw [Function.comp_apply, query_ofPart (hparts.nonempty part hpart) (hparts.small part hpart)]
  rw [← hqueries]
  exact hc.searchAll_joins hu (Search.ofIds ids)

theorem getPosts_of_fault {fault : Url.Fault} (hu : place c.config .posts = .error fault)
    {ids : List Nat} (hne : ids ≠ []) :
    c.getPosts ids =
      (.error (.invalidUrl (Endpoint.posts.url c.config.baseUrl none) fault), c) := by
  have hsome : Search.ofIds ids ≠ [] := by
    obtain ⟨id, rest, rfl⟩ := List.exists_cons_of_ne_nil hne
    rw [Search.ofIds]
    exact List.cons_ne_nil _ _
  rw [getPosts, searchAll_of_fault hu hsome]
  rfl

end Client

end BoardFilter.Site
