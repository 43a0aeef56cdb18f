import BoardFilter.Proofs.Site.Parts
import BoardFilter.Proofs.Url.Forms

/-!
# The URLs of searches

A search asks for one page with one request, whose URL ends in a form of three pairs. What the tags
are made of makes no difference to the form, so a tag is never taken for a parameter.
-/

namespace BoardFilter.Site.Client

variable {c : Client} {site : Nat → Reply} {base u : Url}

/-- A search for posts sends everything that was asked before it and then the request. -/
def Sends (c : Client) (tags : List String) (page limit : Nat) (request : Request) : Prop :=
  (c.findPosts tags page limit).2.channel.sent.map (·.request) = c.requests ++ [request]

theorem Sends.unique {tags : List String} {page limit : Nat} {r r' : Request}
    (h : c.Sends tags page limit r) (h' : c.Sends tags page limit r') : r = r' :=
  List.singleton_inj.1 (List.append_cancel_left (h.symm.trans h'))

theorem Search.query_ne_nil (s : Search) : s.query ≠ [] := List.cons_ne_nil _ _

theorem findPosts_channel (hu : place c.config .posts = .ok u) (tags : List String)
    (page limit : Nat) :
    (c.findPosts tags page limit).2 =
      (c.ask .posts none (Search.query ⟨String.intercalate " " tags, page, limit⟩)).2 := by
  generalize hs : (⟨String.intercalate " " tags, page, limit⟩ : Search) = s
  have hreq := request_eq hu s.query_ne_nil
  rw [findPosts, hs, searchAll, mapM_request hu, ask, hreq]
  simp only [List.map_singleton, sendAll, collect]
  split <;> rfl

theorem Meets.sends (hc : c.Meets site) (hu : place c.config .posts = .ok u) (tags : List String)
    (page limit : Nat) :
    c.Sends tags page limit
      (requestAt c.config u (Search.query ⟨String.intercalate " " tags, page, limit⟩)) := by
  obtain ⟨script, h, hr, -⟩ := hc.exists_recorded
  obtain ⟨-, -, h', hr', hasked, hempty⟩ := ask_eq hr (request_eq hu
    (Search.query_ne_nil ⟨String.intercalate " " tags, page, limit⟩))
  rw [Sends, findPosts_channel hu, sent_eq hr' hempty, hasked, requests_eq hr]

theorem place_unmarked (hbase : Url.parse c.config.baseUrl = .ok base) (hquery : base.query = none)
    (hfragment : base.fragment = none) (hu : place c.config .posts = .ok u) :
    u.query = none ∧ u.fragment = none := by
  have hmarks := (Url.unmarked_iff hbase).1 ⟨hquery, hfragment⟩
  refine (Url.unmarked_iff hu).2 fun d hd => ?_
  rw [Endpoint.url, String.toList_append, String.toList_ofList, List.mem_append,
    Text.dropEndWhile_eq_rdropWhile] at hd
  rcases hd with hd | hd
  · exact hmarks d ((List.rdropWhile_prefix _ _).subset hd)
  · have hpath : ∀ d ∈ Endpoint.posts.path.toList, Url.endsPath d = false :=
      List.all_iff_forall_prop.1 (by decide)
    exact hpath d hd

/-- A search at a site whose place has neither a query nor a fragment sends one request. The form in
its URL holds the limit and the page, within their bounds, and the tags as they were given, so
searches with the same URL are for the same tags. Nothing is sent if the place of the posts is no
URL. -/
theorem Meets.search_urls_spell_tags (hc : c.Meets site)
    (hbase : Url.parse c.config.baseUrl = .ok base) (hquery : base.query = none)
    (hfragment : base.fragment = none) (tags : List String) (page limit : Nat) :
    (∀ u, place c.config .posts = .ok u →
      ∃ request, c.Sends tags page limit request ∧
        Url.form? request.url =
          some [("limit", toString (max 1 (min limit 320))),
            ("page", toString (max 1 (min page 750))), ("tags", String.intercalate " " tags)] ∧
        ∀ tags' page' limit' request', c.Sends tags' page' limit' request' →
          request'.url = request.url →
            String.intercalate " " tags' = String.intercalate " " tags) ∧
    ∀ fault, place c.config .posts = .error fault →
      c.findPosts tags page limit =
        (.error (.invalidUrl (Endpoint.posts.url c.config.baseUrl none) fault), c) := by
  constructor
  · intro u hu
    obtain ⟨hnone, hnone'⟩ := place_unmarked hbase hquery hfragment hu
    have hform : ∀ s : Search, Url.form? (requestAt c.config u s.query).url = some s.query :=
      fun s => Url.form?_addPairs hu hnone hnone' s.query_ne_nil
    refine ⟨_, hc.sends hu tags page limit, hform _, ?_⟩
    -- The form can be read off the URL, so one URL has the tags of one search.
    intro tags' page' limit' request' hsends hurl
    rw [hsends.unique (hc.sends hu tags' page' limit')] at hurl
    have hsame := (hform _).symm.trans ((congrArg Url.form? hurl).trans (hform _))
    simp only [Search.query, Option.some.injEq, List.cons.injEq, Prod.mk.injEq] at hsame
    exact hsame.2.2.1.2
  · intro fault hu
    rw [findPosts, searchAll_of_fault hu (List.cons_ne_nil _ _)]
    rfl

def mirror : Config := { baseUrl := "https://e926.net/mirror/" }

theorem search_urls_spell_tags_of_marks :
    ∃ site base u request, (opened mirror []).Meets site ∧
      Url.parse mirror.baseUrl = .ok base ∧ base.query = none ∧ base.fragment = none ∧
      place mirror .posts = .ok u ∧
      (opened mirror []).Sends ["a&b=c", "100%+", "#\u00e9?"] 0 1000 request ∧
      Url.form? request.url =
        some [("limit", "320"), ("page", "1"), ("tags", "a&b=c 100%+ #\u00e9?")] := by
  have hmeets := meets_opened mirror [] .nothing id
  obtain ⟨base, hbase⟩ : ∃ base, Url.parse mirror.baseUrl = .ok base :=
    exists_ok (by decide +kernel)
  obtain ⟨hquery, hfragment⟩ := (Url.unmarked_iff hbase).2 (List.all_iff_forall_prop.1 (by decide))
  obtain ⟨u, hu⟩ : ∃ u, place mirror .posts = .ok u := exists_ok (by decide +kernel)
  obtain ⟨request, hsends, hform, -⟩ := (Meets.search_urls_spell_tags hmeets hbase hquery hfragment
    ["a&b=c", "100%+", "#\u00e9?"] 0 1000).1 u hu
  exact ⟨_, base, u, request, hmeets, hbase, hquery, hfragment, hu, hsends, hform⟩

end BoardFilter.Site.Client
