import BoardFilter.Proofs.Blacklist.Content
import BoardFilter.Proofs.Session.Coherence
import BoardFilter.Proofs.Session.StoredFavorites

/-!
# Lines outlive a session

Over any number of sessions that are opened on one another's settings, the lines and their states
are one plain map: the one that the first session begins with, changed by the operations on lines
and by nothing else.
-/

namespace BoardFilter

open Line (normalize)

def Settings.Writable (settings : Settings) : Prop := ∀ f ∈ settings.faults, f = false

theorem Settings.Writable.fails {settings : Settings} (h : settings.Writable) :
    settings.fails = false := by
  unfold Writable Settings.fails at *
  cases hf : settings.faults with
  | nil => rfl
  | cons f rest => exact h f (by simp [hf])

theorem Settings.Writable.set {settings : Settings} (h : settings.Writable) (key : String)
    (value : Json) : (settings.set key value).Writable :=
  fun f hf => h f (List.mem_of_mem_tail hf)

namespace Session

structure Opening where
  config : Configuration.Blacklist
  client : Site.Client
  login : Bool

namespace Opening

def session (o : Opening) (settings : Settings) : Except Unopened Session :=
  if o.login then connected o.config settings o.client
  else opened o.config settings o.client none

def user (o : Opening) : Option Site.Profile :=
  if o.login then o.client.authenticate.1.toOption.bind id else none

def lines (o : Opening) : LineMap :=
  LineMap.empty.addAll (o.config.lines ++ (o.user.map (·.blacklist)).getD []) o.config.enabled

theorem session_eq (o : Opening) (settings : Settings) :
    ∃ client, o.session settings = opened o.config settings client o.user := by
  unfold session user
  cases o.login with
  | true => exact ⟨_, rfl⟩
  | false => exact ⟨_, rfl⟩

end Opening

/-- One turn of a run: something is done in the session, or another one is opened on the settings
that it leaves. -/
inductive Turn where
  | act (op : Operation)
  | reopen (o : Opening)

def answer (s : Session) : Operation → Except Failure (Option Bool)
  | .addLine text => (s.addLine text).1.map some
  | .removeLine text => (s.removeLine text).1.map some
  | .toggleLine text => (s.toggleLine text).1
  | .setAll enabled => (s.setAll enabled).1.map fun _ => none
  | _ => .ok none

def turn (s : Session) : Turn → Except Failure (Option Bool × Session)
  | .act op => (s.answer op).map fun a => (a, s.apply op)
  | .reopen o =>
    match o.session s.settings with
    | .error unopened => .error unopened.failure
    | .ok s => .ok (none, s)

def run (s : Session) : List Turn → Except Failure (List (Option Bool) × Session)
  | [] => .ok ([], s)
  | t :: ts =>
    match s.turn t with
    | .error failure => .error failure
    | .ok (a, s) => (s.run ts).map fun r => (a :: r.1, r.2)

/-- What a run comes to: the lines, and the state in which the session at hand adds them. -/
structure Ledger where
  lines : LineMap
  initial : Bool

namespace Ledger

def act (g : Ledger) : Operation → Option Bool × LineMap
  | .addLine text => (some (g.lines.admits text), g.lines.add text g.initial)
  | .removeLine text => (some (g.lines (normalize text)).isSome, g.lines.remove text)
  | .toggleLine text => ((g.lines (normalize text)).map (!·), g.lines.toggle text)
  | .setAll enabled => (none, g.lines.setAll enabled)
  | _ => (none, g.lines)

def turn (g : Ledger) : Turn → Option Bool × Ledger
  | .act op => ((g.act op).1, { g with lines := (g.act op).2 })
  | .reopen o => (none, { g with initial := o.config.enabled })

def run (g : Ledger) : List Turn → List (Option Bool) × Ledger
  | [] => ([], g)
  | t :: ts =>
    let (a, g) := g.turn t
    let (as, g) := g.run ts
    (a :: as, g)

end Ledger

structure Settled (settings : Settings) (content : List (String × Bool)) : Prop where
  lines : settings.get? Blacklist.key = some (.array (content.map Blacklist.stored))
  favorites : ∃ ids, Favorites.load settings = .ok ids
  writable : settings.Writable

theorem load_save_blacklist (b : Blacklist) (settings : Settings) :
    Favorites.load (b.save settings) = Favorites.load settings := by
  have hne : Favorites.key ≠ Blacklist.key := by decide
  rw [Favorites.load, Settings.read?, Blacklist.save, Settings.get?_set_of_ne hne]
  rfl

theorem opened_first_iff {config : Configuration.Blacklist} {settings : Settings}
    (hnew : settings.get? Blacklist.key = none) {client : Site.Client}
    {user : Option Site.Profile} {s : Session} :
    opened config settings client user = .ok s ↔
      settings.fails = false ∧ ∃ ids, Favorites.load settings = .ok ids ∧
        s = { config, user, blacklist := seed config user, favorites := ids,
              settings := (seed config user).save settings, client, known := .empty } := by
  have hrestore : Blacklist.empty.restore settings (config.exemptions (user.map (·.id))) =
      .ok (.empty, false) := Blacklist.empty.restore_of_none hnew _
  rw [opened]
  simp only [hrestore, Bool.false_eq_true, ↓reduceIte, Bool.not_false, Bool.true_and,
    load_save_blacklist]
  cases hfails : settings.fails with
  | true => simp
  | false =>
    cases hload : Favorites.load settings with
    | error state => simp
    | ok ids => simp [eq_comm]

theorem settled_save {settings : Settings} (hw : settings.Writable)
    (hf : ∃ ids, Favorites.load settings = .ok ids) (b : Blacklist) :
    Settled (b.save settings) b.content where
  lines := by rw [Blacklist.save, Settings.get?_set_self, Blacklist.map_entry]
  favorites := by rwa [load_save_blacklist]
  writable := hw.set _ _

theorem Settled.save_favorites {settings : Settings} {content : List (String × Bool)}
    (h : Settled settings content) {favorites : IdSet} (hs : Storable favorites.toList) :
    Settled (Favorites.save favorites settings) content where
  lines := by
    have hne : Blacklist.key ≠ Favorites.key := by decide
    rw [Favorites.save, Settings.get?_set_of_ne hne, h.lines]
  favorites := ⟨favorites, Favorites.load_save hs settings⟩
  writable := h.writable.set _ _

structure Keeps (s : Session) (g : Ledger) : Prop where
  holds : s.blacklist.Holds g.lines
  normal : g.lines.Normal
  settled : Settled s.settings s.blacklist.content
  initial : s.config.enabled = g.initial

variable {s : Session} {g : Ledger}

theorem Keeps.of_content (h : s.Keeps g) {t : Session} (hc : t.config = s.config)
    (hb : t.blacklist.content = s.blacklist.content) (hs : t.settings = s.settings) :
    t.Keeps g where
  holds := by
    rw [Blacklist.Holds, hb]
    exact h.holds
  normal := h.normal
  settled := by
    rw [hs, hb]
    exact h.settled
  initial := by rw [hc, h.initial]

theorem Keeps.written (h : s.Keeps g) : written s.settings = .ok () := by
  rw [Session.written, h.settled.writable.fails]
  rfl

theorem Keeps.save (h : s.Keeps g) {b : Blacklist} {m : LineMap} (hb : b.Holds m)
    (hm : m.Normal) : Keeps (save { s with blacklist := b }).2 { g with lines := m } where
  holds := hb
  normal := hm
  settled := settled_save h.settled.writable h.settled.favorites b
  initial := h.initial

theorem Keeps.save_fst (h : s.Keeps g) (b : Blacklist) :
    (Session.save { s with blacklist := b }).1 = .ok () := h.written

theorem Keeps.addLine (h : s.Keeps g) (text : String) :
    (s.addLine text).1 = .ok (g.lines.admits text) ∧
      Keeps (s.addLine text).2 { g with lines := g.lines.add text g.initial } := by
  have hsnd := h.holds.create_snd text s.config.enabled s.exemptions
  have hfst := h.holds.create text s.config.enabled s.exemptions
  rw [h.initial] at hfst hsnd
  unfold Session.addLine
  rw [h.initial]
  cases hnew : g.lines.admits text with
  | true =>
    rw [hnew] at hsnd
    have hb : ((s.blacklist.create text g.initial s.exemptions).1.update text s.known.posts
        false).Holds (g.lines.add text g.initial) := by
      rw [Blacklist.Holds, Blacklist.content_update]
      exact hfst
    simp only [hsnd, ↓reduceIte]
    exact ⟨by rw [h.save_fst]; rfl, h.save hb (h.normal.add text g.initial)⟩
  | false =>
    rw [hnew] at hsnd
    simp only [hsnd, Bool.false_eq_true, ↓reduceIte, true_and]
    rw [LineMap.add, hnew]
    exact h

theorem Keeps.removeLine (h : s.Keeps g) (text : String) :
    (s.removeLine text).1 = .ok (g.lines (normalize text)).isSome ∧
      Keeps (s.removeLine text).2 { g with lines := g.lines.remove text } := by
  have hsnd := h.holds.delete_snd text
  unfold Session.removeLine
  cases hold : g.lines (normalize text) with
  | some e =>
    rw [hold] at hsnd
    simp only [hsnd, Option.isSome_some, ↓reduceIte]
    exact ⟨by rw [h.save_fst]; rfl, h.save (h.holds.delete text) (h.normal.remove text)⟩
  | none =>
    rw [hold] at hsnd
    simp only [hsnd, Option.isSome_none, Bool.false_eq_true, ↓reduceIte, true_and]
    rw [LineMap.remove_of_none hold]
    exact h

theorem Keeps.toggleLine (h : s.Keeps g) (text : String) :
    (s.toggleLine text).1 = .ok ((g.lines (normalize text)).map (!·)) ∧
      Keeps (s.toggleLine text).2 { g with lines := g.lines.toggle text } := by
  have hsnd := h.holds.toggle_snd text
  unfold Session.toggleLine
  cases hold : g.lines (normalize text) with
  | some e =>
    rw [hold] at hsnd
    simp only [hsnd, Option.map_some, Option.isSome_some, ↓reduceIte]
    exact ⟨by rw [h.save_fst]; rfl, h.save (h.holds.toggle text) (h.normal.toggle text)⟩
  | none =>
    rw [hold] at hsnd
    simp only [hsnd, Option.map_none, Option.isSome_none, Bool.false_eq_true, ↓reduceIte, true_and]
    rw [LineMap.toggle_of_none hold]
    exact h

theorem Keeps.setAll (h : s.Keeps g) (enabled : Bool) :
    (s.setAll enabled).1 = .ok () ∧
      Keeps (s.setAll enabled).2 { g with lines := g.lines.setAll enabled } :=
  ⟨h.save_fst _, h.save (h.holds.setAll enabled) (h.normal.setAll enabled)⟩

theorem Keeps.ingest (h : s.Keeps g) (posts : List Post) : Keeps (s.ingest posts).2 g :=
  h.of_content rfl (Blacklist.content_add _ _) rfl

theorem Keeps.ingestFound (h : s.Keeps g) (client : Site.Client)
    (found : Except Site.Failure (List Post)) : Keeps (s.ingestFound client found).2 g := by
  have hc : Keeps { s with client } g := h.of_content rfl rfl rfl
  cases found with
  | error failure => exact hc
  | ok posts => exact hc.ingest posts

theorem Keeps.fetch (h : s.Keeps g) (ids : List Nat) : Keeps (s.fetch ids).2 g := by
  unfold Session.fetch
  split
  · exact h
  · exact h.ingestFound _ _

theorem Keeps.check (h : s.Keeps g) (path : String) (content : Option String) :
    Keeps (s.check path content).2 g := by
  unfold Session.check
  split
  · exact h
  split
  · exact h
  · exact h.ingest _

theorem Keeps.reindex (h : s.Keeps g) : s.reindex.Keeps g :=
  h.of_content rfl (Blacklist.content_reindex _ _) rfl

theorem Keeps.syncFavorites (h : s.Keeps g) : Keeps s.syncFavorites.2 g := by
  unfold Session.syncFavorites
  cases s.user with
  | none => exact h
  | some user =>
    simp only
    cases hids : (s.client.favoriteIds (some user.id)).1 with
    | error failure => exact h.of_content rfl rfl rfl
    | ok ids =>
      have hs : Storable (IdSet.ofList ids).toList := fun i hi =>
        Site.Client.storable_favoritesFrom hids i (IdSet.mem_ofList.1 hi)
      simp only [h.written]
      apply Keeps.reindex
      exact ⟨h.holds, h.normal, h.settled.save_favorites hs, h.initial⟩

theorem Keeps.act (h : s.Keeps g) (op : Operation) :
    s.answer op = .ok (g.act op).1 ∧ (s.apply op).Keeps { g with lines := (g.act op).2 } := by
  cases op with
  | ingest posts => exact ⟨rfl, h.ingest posts⟩
  | search tags first count limit => exact ⟨rfl, h.ingestFound _ _⟩
  | fetch ids => exact ⟨rfl, h.fetch ids⟩
  | check path content => exact ⟨rfl, h.check path content⟩
  | addLine text =>
    obtain ⟨hanswer, hkeeps⟩ := h.addLine text
    simp only [answer, apply, Ledger.act, hanswer]
    exact ⟨rfl, hkeeps⟩
  | removeLine text =>
    obtain ⟨hanswer, hkeeps⟩ := h.removeLine text
    simp only [answer, apply, Ledger.act, hanswer]
    exact ⟨rfl, hkeeps⟩
  | toggleLine text =>
    simp only [answer, apply, Ledger.act]
    exact h.toggleLine text
  | setAll enabled =>
    obtain ⟨hanswer, hkeeps⟩ := h.setAll enabled
    simp only [answer, apply, Ledger.act, hanswer]
    exact ⟨rfl, hkeeps⟩
  | syncFavorites => exact ⟨rfl, h.syncFavorites⟩
  | reindex => exact ⟨rfl, h.reindex⟩

theorem Keeps.reopen (h : s.Keeps g) (o : Opening) :
    ∃ t, o.session s.settings = .ok t ∧ t.Keeps { g with initial := o.config.enabled } := by
  obtain ⟨client, ho⟩ := o.session_eq s.settings
  obtain ⟨c, hc, hholds⟩ :=
    h.holds.restore h.normal h.settled.lines (o.config.exemptions (o.user.map (·.id)))
  obtain ⟨ids, hids⟩ := h.settled.favorites
  have hcontent : c.content = s.blacklist.content := LineMap.Lists.unique hholds h.holds
  let t : Session :=
    { config := o.config, user := o.user, blacklist := c, favorites := ids,
      settings := s.settings, client, known := .empty }
  refine ⟨t, ?_, hholds, h.normal, ?_, rfl⟩
  · rw [ho, opened]
    simp only [hc, hids, ↓reduceIte, Bool.not_true, Bool.false_and, Bool.false_eq_true, t]
  · rw [hcontent]
    exact h.settled

theorem Keeps.turn (h : s.Keeps g) (t : Turn) :
    ∃ s', s.turn t = .ok ((g.turn t).1, s') ∧ s'.Keeps (g.turn t).2 := by
  cases t with
  | act op =>
    obtain ⟨hanswer, hkeeps⟩ := h.act op
    exact ⟨_, by rw [Session.turn, hanswer]; rfl, hkeeps⟩
  | reopen o =>
    obtain ⟨s', hs', hkeeps⟩ := h.reopen o
    exact ⟨s', by rw [Session.turn, hs']; rfl, hkeeps⟩

theorem Keeps.run (h : s.Keeps g) (turns : List Turn) :
    ∃ s', s.run turns = .ok ((g.run turns).1, s') ∧ s'.Keeps (g.run turns).2 := by
  induction turns generalizing s g with
  | nil => exact ⟨s, rfl, h⟩
  | cons t rest ih =>
    obtain ⟨s₁, hturn, h₁⟩ := h.turn t
    obtain ⟨s₂, hrun, h₂⟩ := ih h₁
    exact ⟨s₂, by rw [Session.run, hturn]; simp only [hrun]; rfl, h₂⟩

theorem keeps_first {settings : Settings} (hnew : settings.get? Blacklist.key = none)
    (hw : settings.Writable) {o : Opening} (hs : o.session settings = .ok s) :
    s.Keeps ⟨o.lines, o.config.enabled⟩ := by
  obtain ⟨client, ho⟩ := o.session_eq settings
  rw [ho] at hs
  obtain ⟨-, ids, hids, rfl⟩ := (opened_first_iff hnew).1 hs
  exact ⟨Blacklist.holds_empty.load _ _ _, LineMap.normal_empty.addAll _ _,
    settled_save hw ⟨ids, hids⟩ _, rfl⟩

/-- In any run that starts on settings without lines, every later session can be opened, every
operation on lines answers what the map answers, and the lines are those of the map. -/
theorem Opening.lines_are_map {settings : Settings} (hnew : settings.get? Blacklist.key = none)
    (hw : settings.Writable) {o : Opening} {s : Session} (hs : o.session settings = .ok s)
    (turns : List Turn) :
    ∃ s', s.run turns = .ok ((Ledger.run ⟨o.lines, o.config.enabled⟩ turns).1, s') ∧
      (Ledger.run ⟨o.lines, o.config.enabled⟩ turns).2.lines.Lists
        (s'.lines.map fun l => (l.text, l.enabled)) := by
  obtain ⟨s', hrun, hkeeps⟩ := (keeps_first hnew hw hs).run turns
  refine ⟨s', hrun, ?_⟩
  rw [Session.lines, List.map_map]
  exact hkeeps.holds

theorem lines_are_map_over_two_sessions :
    let first : Opening := ⟨{ lines := ["solo", "duo"] }, default, false⟩
    let second : Opening := ⟨{ lines := ["gore"], enabled := false }, default, true⟩
    let turns : List Turn := [.act (.addLine " Solo"), .act (.toggleLine "duo"), .reopen second,
      .act .syncFavorites, .act (.addLine "gore")]
    ∃ s s', first.session .empty = .ok s ∧
      s.run turns = .ok ((Ledger.run ⟨first.lines, true⟩ turns).1, s') ∧
      (Ledger.run ⟨first.lines, true⟩ turns).2.lines.Lists
        (s'.lines.map fun l => (l.text, l.enabled)) := by
  intro first second turns
  have hopen : ∃ s, first.session .empty = .ok s := ⟨_, rfl⟩
  obtain ⟨s, hs⟩ := hopen
  have hw : Settings.empty.Writable := by
    intro f hf
    cases hf
  obtain ⟨s', hrun, hlists⟩ := Opening.lines_are_map rfl hw hs turns
  exact ⟨s, s', hs, hrun, hlists⟩

end Session

end BoardFilter
