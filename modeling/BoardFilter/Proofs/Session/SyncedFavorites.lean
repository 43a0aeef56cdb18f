import BoardFilter.Proofs.Blacklist.Batches
import BoardFilter.Proofs.Session.Outcome

/-!
# Favorites taken over from the site

A session that has taken its favorites over knows them, has them stored for the next one and has
its marks and its matches made anew from them. Nothing else of it has changed.
-/

namespace BoardFilter

namespace Session

variable {s : Session}

def HasLines (settings : Settings) : Prop :=
  ∃ lines, settings.read? Blacklist.key (Json.asList? Blacklist.entry?) = .ok (some lines)

theorem hasLines_save (b : Blacklist) (settings : Settings) : HasLines (b.save settings) := by
  refine ⟨b.content, ?_⟩
  rw [Settings.read?, Blacklist.save, Settings.get?_set_self, Blacklist.map_entry]
  simp only [Blacklist.asList?_stored]

theorem get?_save_favorites (favorites : IdSet) (settings : Settings) :
    (Favorites.save favorites settings).get? Blacklist.key = settings.get? Blacklist.key := by
  have hne : Blacklist.key ≠ Favorites.key := by decide
  rw [Favorites.save, Settings.get?_set_of_ne hne]

theorem HasLines.save_favorites {settings : Settings} (h : HasLines settings) (favorites : IdSet) :
    HasLines (Favorites.save favorites settings) := by
  obtain ⟨lines, hlines⟩ := h
  rw [Settings.read?, ← get?_save_favorites favorites] at hlines
  exact ⟨lines, hlines⟩

theorem hasLines_of_restore {b c : Blacklist} {settings : Settings} {ex : Exemptions}
    (h : b.restore settings ex = .ok (c, true)) : HasLines settings := by
  unfold Blacklist.restore at h
  cases hread : settings.read? Blacklist.key (Json.asList? Blacklist.entry?) with
  | error state => simp [hread, Except.map] at h
  | ok stored =>
    cases stored with
    | none => simp [hread, Except.map] at h
    | some lines => exact ⟨lines, hread⟩

theorem hasLines_opened {config : Configuration.Blacklist} {settings : Settings}
    {client : Site.Client} {user : Option Site.Profile}
    (h : Session.opened config settings client user = .ok s) : HasLines s.settings := by
  unfold Session.opened at h
  simp only at h
  split at h
  · cases h
  · next restored found hr =>
    split at h
    · cases h
    split at h
    · cases h
    · cases h
      cases found with
      | true => exact hasLines_of_restore hr
      | false => exact hasLines_save _ _

theorem settings_apply (s : Session) (op : Operation) :
    (s.apply op).settings = s.settings ∨
      (∃ b : Blacklist, (s.apply op).settings = b.save s.settings) ∨
      ∃ favorites, (s.apply op).settings = Favorites.save favorites s.settings := by
  have hfound : ∀ client found, (s.ingestFound client found).2.settings = s.settings := by
    intro client found
    cases found <;> rfl
  cases op with
  | ingest posts => exact Or.inl rfl
  | search tags first count limit => exact Or.inl (hfound _ _)
  | fetch ids =>
    refine Or.inl ?_
    simp only [apply, fetch]
    split
    · rfl
    · exact hfound _ _
  | check content =>
    refine Or.inl ?_
    simp only [apply, check]
    split
    · rfl
    split <;> rfl
  | addLine text =>
    simp only [apply, addLine]
    split
    · exact Or.inr (Or.inl ⟨_, rfl⟩)
    · exact Or.inl rfl
  | removeLine text =>
    simp only [apply, removeLine]
    split
    · exact Or.inr (Or.inl ⟨_, rfl⟩)
    · exact Or.inl rfl
  | toggleLine text =>
    simp only [apply, toggleLine]
    split
    · exact Or.inr (Or.inl ⟨_, rfl⟩)
    · exact Or.inl rfl
  | setAll enabled => exact Or.inr (Or.inl ⟨_, rfl⟩)
  | syncFavorites =>
    simp only [apply, syncFavorites]
    split
    · exact Or.inl rfl
    split
    · exact Or.inl rfl
    split <;> exact Or.inr (Or.inr ⟨_, rfl⟩)
  | reindex => exact Or.inl rfl

theorem Reachable.hasLines (h : s.Reachable) : HasLines s.settings := by
  -- An opened session has lines, and no operation takes them out of the settings again.
  induction h with
  | opened h => exact hasLines_opened h
  | connected h => exact hasLines_opened h
  | @next s _ op ih =>
    rcases s.settings_apply op with hsame | ⟨b, hb⟩ | ⟨favorites, hf⟩
    · rwa [hsame]
    · rw [hb]
      exact hasLines_save b s.settings
    · rw [hf]
      exact ih.save_favorites favorites

theorem HasLines.opens {settings : Settings} (h : HasLines settings) {favorites : IdSet}
    (hf : Favorites.load settings = .ok favorites) (o : Opening) :
    ∃ t, o.session settings = .ok t ∧ t.favorites = favorites := by
  obtain ⟨lines, hlines⟩ := h
  obtain ⟨client, ho⟩ := o.session_eq settings
  have hrestore : ∀ ex, ∃ b, Blacklist.empty.restore settings ex = .ok (b, true) := by
    intro ex
    rw [Blacklist.restore, hlines]
    exact ⟨_, rfl⟩
  obtain ⟨b, hb⟩ := hrestore (o.config.exemptions (o.user.map (·.id)))
  rw [ho, Session.opened]
  simp only [hb, hf, ↓reduceIte, Bool.not_true, Bool.false_and, Bool.false_eq_true]
  exact ⟨_, rfl, rfl⟩

theorem syncFavorites_of_ok {user : Site.Profile} {ids : List Nat} (huser : s.user = some user)
    (hids : (s.client.favoriteIds (some user.id)).1 = .ok ids) (hw : s.settings.fails = false) :
    s.syncFavorites = (.ok (IdSet.ofList ids).size,
      reindex { s with
        client := (s.client.favoriteIds (some user.id)).2
        favorites := .ofList ids
        settings := Favorites.save (.ofList ids) s.settings }) := by
  have hwritten : written s.settings = .ok () := by
    rw [written, hw]
    rfl
  rw [syncFavorites, huser]
  simp only [hids, hwritten]

theorem syncFavorites_ok_iff {n : Nat} :
    s.syncFavorites.1 = .ok n ↔
      ∃ user ids, s.user = some user ∧ (s.client.favoriteIds (some user.id)).1 = .ok ids ∧
        s.settings.fails = false ∧ n = (IdSet.ofList ids).size := by
  constructor
  · intro hn
    cases huser : s.user with
    | none =>
      rw [syncFavorites, huser] at hn
      cases hn
    | some user =>
      cases hids : (s.client.favoriteIds (some user.id)).1 with
      | error failure =>
        rw [syncFavorites, huser] at hn
        simp only [hids] at hn
        cases hn
      | ok ids =>
        cases hw : s.settings.fails with
        | true =>
          rw [syncFavorites, huser] at hn
          simp only [hids, written, hw, ↓reduceIte] at hn
          cases hn
        | false =>
          rw [syncFavorites_of_ok huser hids hw] at hn
          exact ⟨user, ids, rfl, hids, rfl, (Except.ok.inj hn).symm⟩
  · rintro ⟨user, ids, huser, hids, hw, rfl⟩
    rw [syncFavorites_of_ok huser hids hw]

/-- The session `t` is what `s` becomes when its favorites are the posts with these ids, `n` of
them. -/
structure Synced (s : Session) (ids : List Nat) (n : Nat) (t : Session) : Prop where
  favorites : ∀ i, i ∈ t.favorites ↔ i ∈ ids
  size : n = t.favorites.size
  stored : ∃ kept : List Nat, kept.Pairwise (· < ·) ∧ (∀ i, i ∈ kept ↔ i ∈ ids) ∧
    t.settings.get? Favorites.key = some (.array (kept.map Json.nat))
  reopened : ∀ o : Opening, ∃ next, o.session t.settings = .ok next ∧ next.favorites = t.favorites
  known : t.known.posts = s.known.posts.map fun p => { p with isFavorited := decide (p.id ∈ ids) }
  matched : ∀ l ∈ t.blacklist.lines, ∀ id,
    id ∈ l.matched ↔ ∃ p ∈ t.known.posts, p.id = id ∧ l.evaluate p = true
  anew : ∀ (b : Blacklist) (f : IdSet), b.clear = s.blacklist.clear →
    (syncFavorites { s with blacklist := b, favorites := f }).2.blacklist = t.blacklist
  lines : t.blacklist.clear = s.blacklist.clear
  blacklist : t.settings.get? Blacklist.key = s.settings.get? Blacklist.key

theorem Reachable.synced {user : Site.Profile} {ids : List Nat} (h : s.Reachable)
    (huser : s.user = some user) (hids : (s.client.favoriteIds (some user.id)).1 = .ok ids)
    (hw : s.settings.fails = false) :
    s.Synced ids (IdSet.ofList ids).size s.syncFavorites.2 := by
  have hcoherent : s.syncFavorites.2.Coherent := (h.next .syncFavorites).coherent
  have hlines : HasLines s.syncFavorites.2.settings := (h.next .syncFavorites).hasLines
  have hstorable : Storable (IdSet.ofList ids).toList := fun i hi =>
    Site.Client.storable_favoritesFrom hids i (IdSet.mem_ofList.1 hi)
  have hload := Favorites.load_save hstorable s.settings
  have hsync := syncFavorites_of_ok huser hids hw
  -- The favorites are replaced before the lines are shown anything, so only the rules count.
  have hanew : ∀ (b : Blacklist) (f : IdSet), b.clear = s.blacklist.clear →
      (syncFavorites { s with blacklist := b, favorites := f }).2.blacklist =
        s.syncFavorites.2.blacklist := by
    intro b f hb
    rw [syncFavorites_of_ok (s := { s with blacklist := b, favorites := f }) huser hids hw, hsync]
    exact congrArg Prod.fst (Blacklist.reindex_congr hb _)
  rw [hsync] at hcoherent hlines hanew ⊢
  exact {
    favorites := fun i => IdSet.mem_ofList
    size := rfl
    stored := ⟨_, (IdSet.ofList ids).ascending, fun i => IdSet.mem_ofList,
      Settings.get?_set_self _ _ _⟩
    reopened := hlines.opens hload
    known := by simp [reindex, Gallery.remark]
    matched := hcoherent
    anew := hanew
    lines := Blacklist.clear_reindex _ _
    blacklist := get?_save_favorites _ _ }

/-- A session that says that it took its favorites over has done so, with the ids that the site
gave. -/
theorem Reachable.sync_takes_favorites_over (h : s.Reachable) {n : Nat}
    (hn : s.syncFavorites.1 = .ok n) :
    ∃ user ids, s.user = some user ∧ (s.client.favoriteIds (some user.id)).1 = .ok ids ∧
      s.Synced ids n s.syncFavorites.2 := by
  obtain ⟨user, ids, huser, hids, hw, rfl⟩ := syncFavorites_ok_iff.1 hn
  exact ⟨user, ids, huser, hids, h.synced huser hids hw⟩

def collector : Site.Client :=
  .opened { username := some "mine", apiKey := some "key" }
    [⟨.received 200 "\x7b\"id\": 3, \"name\": \"mine\"\x7d", 0⟩,
      ⟨.received 200 "\x7b\"posts\":[\x7b\"id\":7\x7d,\x7b\x7d,\x7b\"id\":5\x7d]\x7d", 40⟩]

/-- Post 8 comes with a mark that the favorites do not bear out. -/
theorem sync_takes_two_favorites_over :
    let seen : List Post := [{ id := 7 }, { id := 8, isFavorited := true }]
    ∃ s, Session.connected { lines := ["fav:true", "id:8"] } .empty collector = .ok s ∧
      let t := s.apply (.ingest seen)
      t.Reachable ∧ t.syncFavorites.1 = .ok 2 ∧ t.Synced [7, 5] 2 t.syncFavorites.2 := by
  intro seen
  obtain ⟨s, hs, -, huser, hclient, -⟩ := opened_empty { lines := ["fav:true", "id:8"] }
    collector.authenticate.2 (collector.authenticate.1.toOption.bind id)
  have hlogin : collector.authenticate.1.toOption.bind id = some ⟨3, "mine", []⟩ := by
    decide +kernel
  have hpage : (collector.authenticate.2.favoriteIds (some 3)).1 = .ok [7, 5] := by
    decide +kernel
  rw [hlogin] at huser
  rw [← hclient] at hpage
  rw [← connected_eq_opened] at hs
  have hsession : Opening.session ⟨{ lines := ["fav:true", "id:8"] }, collector, true⟩ .empty =
      .ok s := by
    rw [Opening.session, if_pos rfl]
    exact hs
  have ht := (Undisturbed.opened writable_empty hsession).next (.ingest seen)
  have hsize : IdSet.ofList [7, 5] = ⟨[5, 7], by decide⟩ := by
    apply IdSet.ext
    intro i
    rw [IdSet.mem_ofList, IdSet.mem_iff]
    simp [or_comm]
  have hn : (s.apply (.ingest seen)).syncFavorites.1 = .ok 2 :=
    syncFavorites_ok_iff.2 ⟨_, _, huser, hpage, ht.writable.fails, by rw [hsize]; rfl⟩
  obtain ⟨user, ids, hsome, hids, hsynced⟩ :=
    Reachable.sync_takes_favorites_over ht.reachable hn
  obtain rfl : ⟨3, "mine", []⟩ = user := Option.some.inj (huser.symm.trans hsome)
  obtain rfl : [7, 5] = ids := Except.ok.inj (hpage.symm.trans hids)
  exact ⟨s, hs, ht.reachable, hn, hsynced⟩

end Session

end BoardFilter
