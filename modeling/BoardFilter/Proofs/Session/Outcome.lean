import BoardFilter.Proofs.Blacklist.Keys
import BoardFilter.Proofs.Session.Restarts

/-!
# What an operation comes to

As long as the settings can be written, an operation either fails with nothing done but an exchange
with the site, or it does all that it is for: it ingests posts, changes lines and stores them, takes
favorites over and marks the known posts anew.
-/

namespace BoardFilter.Session

open Blacklist (Change)

/-- The sessions that can come about on settings whose writes succeed. -/
inductive Undisturbed : Session → Prop where
  | opened {o : Opening} {settings : Settings} {s : Session} (hw : settings.Writable)
      (h : o.session settings = .ok s) : Undisturbed s
  | next {s : Session} (h : Undisturbed s) (op : Operation) : Undisturbed (s.apply op)

def failureOf {α : Type} : Except Failure α → Option Failure
  | .ok _ => none
  | .error failure => some failure

@[simp] theorem failureOf_map {α β : Type} (r : Except Failure α) (f : α → β) :
    failureOf (r.map f) = failureOf r := by
  cases r <;> rfl

theorem failureOf_eq_some_iff {α : Type} {r : Except Failure α} {failure : Failure} :
    failureOf r = some failure ↔ r = .error failure := by
  cases r <;> simp [failureOf]

def failure? (s : Session) : Operation → Option Failure
  | .ingest _ | .reindex => none
  | .search tags first count limit => failureOf (s.search tags first count limit).2.1
  | .fetch ids => failureOf (s.fetch ids).1
  | .check path content => failureOf (s.check path content).1
  | .addLine text => failureOf (s.addLine text).1
  | .removeLine text => failureOf (s.removeLine text).1
  | .toggleLine text => failureOf (s.toggleLine text).1
  | .setAll enabled => failureOf (s.setAll enabled).1
  | .syncFavorites => failureOf s.syncFavorites.1

/-- What an operation can make of a session, by how it fails. -/
inductive Effect (s : Session) : Option Failure → Session → Prop where
  | failed (failure : Failure) (client : Site.Client) : Effect s (some failure) { s with client }
  | ingested (client : Site.Client) (posts : List Post) :
      Effect s none (ingest { s with client } posts).2
  | kept : Effect s none s
  | edited (changes : List Change) (h : ∀ c ∈ changes, c.Under (· = s.exemptions)) :
      Effect s none (save { s with blacklist := s.blacklist.applyAll changes }).2
  | synced (client : Site.Client) (favorites : IdSet) :
      Effect s none
        (reindex { s with client, favorites, settings := Favorites.save favorites s.settings })
  | reindexed : Effect s none s.reindex

variable {s : Session}

theorem effect_ingestFound (client : Site.Client) (found : Except Site.Failure (List Post)) :
    s.Effect (failureOf (s.ingestFound client found).1) (s.ingestFound client found).2 := by
  cases found with
  | error failure => exact .failed _ client
  | ok posts => exact .ingested client posts

theorem effect_fetch (ids : List Nat) :
    s.Effect (failureOf (s.fetch ids).1) (s.fetch ids).2 := by
  unfold fetch
  split
  · exact .failed .noPosts s.client
  · exact effect_ingestFound _ _

theorem effect_check (path : String) (content : Option String) :
    s.Effect (failureOf (s.check path content).1) (s.check path content).2 := by
  unfold check
  cases content with
  | none => exact .failed .noFile s.client
  | some content =>
    cases hread : readDump path content with
    | error failure =>
      simp only [hread]
      exact .failed failure s.client
    | ok posts =>
      simp only [hread]
      exact .ingested s.client posts

section

variable (hw : s.settings.Writable)

include hw

theorem written_of_writable : written s.settings = .ok () := by
  rw [written, hw.fails]
  rfl

theorem effect_save {b : Blacklist} (changes : List Change)
    (hb : b = s.blacklist.applyAll changes) (h : ∀ c ∈ changes, c.Under (· = s.exemptions)) :
    failureOf (save { s with blacklist := b }).1 = none ∧
      s.Effect none (save { s with blacklist := b }).2 := by
  have hfst : (save { s with blacklist := b }).1 = .ok () := written_of_writable hw
  rw [hfst, hb]
  exact ⟨rfl, .edited changes h⟩

theorem effect_change {b : Blacklist} (c : Change) (hb : b = s.blacklist.apply c)
    (h : c.Under (· = s.exemptions)) :
    failureOf (save { s with blacklist := b }).1 = none ∧
      s.Effect none (save { s with blacklist := b }).2 := by
  apply effect_save hw [c] hb
  intro d hd
  rwa [List.mem_singleton.1 hd]

theorem effect_addLine (text : String) :
    failureOf (s.addLine text).1 = none ∧ s.Effect none (s.addLine text).2 := by
  unfold addLine
  cases hnew : (s.blacklist.create text s.config.enabled s.exemptions).2 with
  | true =>
    simp only [hnew, ↓reduceIte, failureOf_map]
    apply effect_save hw [.create text s.config.enabled s.exemptions,
      .update text s.known.posts false]
    · simp only [Blacklist.applyAll, List.foldl_cons, List.foldl_nil, Blacklist.apply]
    · simp [Change.Under]
  | false =>
    simp only [hnew, Bool.false_eq_true, ↓reduceIte]
    exact ⟨rfl, .kept⟩

theorem effect_removeLine (text : String) :
    failureOf (s.removeLine text).1 = none ∧ s.Effect none (s.removeLine text).2 := by
  unfold removeLine
  cases hgone : (s.blacklist.delete text).2 with
  | true =>
    simp only [hgone, ↓reduceIte, failureOf_map]
    exact effect_change hw (.delete text) rfl trivial
  | false =>
    simp only [hgone, Bool.false_eq_true, ↓reduceIte]
    exact ⟨rfl, .kept⟩

theorem effect_toggleLine (text : String) :
    failureOf (s.toggleLine text).1 = none ∧ s.Effect none (s.toggleLine text).2 := by
  unfold toggleLine
  cases hstate : (s.blacklist.toggle text).2 with
  | some state =>
    simp only [hstate, Option.isSome_some, ↓reduceIte, failureOf_map]
    exact effect_change hw (.toggle text) rfl trivial
  | none =>
    simp only [hstate, Option.isSome_none, Bool.false_eq_true, ↓reduceIte]
    exact ⟨rfl, .kept⟩

theorem effect_setAll (enabled : Bool) :
    failureOf (s.setAll enabled).1 = none ∧ s.Effect none (s.setAll enabled).2 :=
  effect_change hw (.setAll enabled) rfl trivial

theorem effect_syncFavorites : s.Effect (failureOf s.syncFavorites.1) s.syncFavorites.2 := by
  unfold syncFavorites
  split
  · exact .failed .notLoggedIn s.client
  · next user huser =>
    simp only
    generalize s.client.favoriteIds (some user.id) = found
    obtain ⟨ids, client⟩ := found
    cases ids with
    | error failure => exact .failed _ client
    | ok ids =>
      simp only [written_of_writable hw]
      exact .synced client (IdSet.ofList ids)

theorem effect_apply (op : Operation) : s.Effect (s.failure? op) (s.apply op) := by
  cases op with
  | ingest posts => exact .ingested s.client posts
  | search tags first count limit => exact effect_ingestFound _ _
  | fetch ids => exact effect_fetch ids
  | check path content => exact effect_check path content
  | addLine text =>
    rw [failure?, (effect_addLine hw text).1]
    exact (effect_addLine hw text).2
  | removeLine text =>
    rw [failure?, (effect_removeLine hw text).1]
    exact (effect_removeLine hw text).2
  | toggleLine text =>
    rw [failure?, (effect_toggleLine hw text).1]
    exact (effect_toggleLine hw text).2
  | setAll enabled =>
    rw [failure?, (effect_setAll hw enabled).1]
    exact (effect_setAll hw enabled).2
  | syncFavorites => exact effect_syncFavorites hw
  | reindex => exact .reindexed

end

theorem Effect.writable {t : Session} {failure : Option Failure} (h : s.Effect failure t)
    (hw : s.settings.Writable) : t.settings.Writable := by
  cases h with
  | failed | ingested | kept | reindexed => exact hw
  | edited changes h => exact hw.set _ _
  | synced client favorites => exact hw.set _ _

structure Begins (s : Session) : Prop where
  known : s.known = .empty
  writable : s.settings.Writable
  lines : ∃ c : Change, c.Under (· = s.exemptions) ∧ s.blacklist = Blacklist.empty.apply c

theorem begins_opened {config : Configuration.Blacklist} {settings : Settings}
    {client : Site.Client} {user : Option Site.Profile} (hw : settings.Writable)
    (h : Session.opened config settings client user = .ok s) : s.Begins := by
  unfold Session.opened at h
  simp only at h
  split at h
  · cases h
  · next restored found hr =>
    split at h
    · cases h
    split at h
    · cases h
    · cases h
      cases found with
      | true =>
        refine ⟨rfl, hw, .restore settings _, rfl, ?_⟩
        rw [Blacklist.apply, exemptions, hr]
        rfl
      | false => exact ⟨rfl, hw.set _ _, .load _ _ _, rfl, rfl⟩

theorem Opening.begins {o : Opening} {settings : Settings} (hw : settings.Writable)
    (h : o.session settings = .ok s) : s.Begins := by
  obtain ⟨client, ho⟩ := o.session_eq settings
  rw [ho] at h
  exact begins_opened hw h

theorem connected_eq_opened (config : Configuration.Blacklist) (settings : Settings)
    (client : Site.Client) :
    Session.connected config settings client =
      Session.opened config settings client.authenticate.2
        (client.authenticate.1.toOption.bind id) := rfl

theorem writable_empty : Settings.empty.Writable := by
  intro f hf
  cases hf

theorem opened_empty (config : Configuration.Blacklist) (client : Site.Client)
    (user : Option Site.Profile) :
    ∃ s, Session.opened config .empty client user = .ok s ∧ s.config = config ∧ s.user = user ∧
      s.client = client ∧ s.known = .empty ∧ s.favorites = .ofList [] :=
  ⟨_, rfl, rfl, rfl, rfl, rfl, rfl⟩

theorem Undisturbed.writable (h : s.Undisturbed) : s.settings.Writable := by
  induction h with
  | opened hw h => exact (Opening.begins hw h).writable
  | next h op ih => exact (effect_apply ih op).writable ih

theorem Undisturbed.effect (h : s.Undisturbed) (op : Operation) :
    s.Effect (s.failure? op) (s.apply op) := effect_apply h.writable op

theorem Undisturbed.reachable (h : s.Undisturbed) : s.Reachable := by
  induction h with
  | @opened o settings s hw h =>
    unfold Opening.session at h
    split at h
    · exact .connected h
    · exact .opened h
  | next h op ih => exact ih.next op

end BoardFilter.Session
