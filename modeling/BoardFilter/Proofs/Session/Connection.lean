import BoardFilter.Proofs.Session.Coherence
import BoardFilter.Proofs.Site.Replies

/-!
# Sessions stay in touch with their site

Whatever is done in a session, and whatever of it fails, the site goes on to reply to the requests
of its client in turn. So what is known of a client that the site replies to holds in every session
that comes about on such a client.
-/

namespace BoardFilter.Session

open Site.Client (Reaches)

theorem client_opened {config : Configuration.Blacklist} {settings : Settings}
    {client : Site.Client} {user : Option Site.Profile} {s : Session}
    (h : opened config settings client user = .ok s) : s.client = client := by
  unfold opened at h
  simp only at h
  split at h
  · cases h
  split at h
  · cases h
  split at h
  · cases h
  · cases h
    rfl

theorem reaches_connected {config : Configuration.Blacklist} {settings : Settings}
    {client : Site.Client} {s : Session} (h : connected config settings client = .ok s) :
    client.Reaches s.client := by
  rw [client_opened h]
  exact .authenticate client

theorem client_ingestFound (s : Session) (client : Site.Client)
    (found : Except Site.Failure (List Post)) : (s.ingestFound client found).2.client = client := by
  cases found <;> rfl

theorem client_addLine (s : Session) (text : String) : (s.addLine text).2.client = s.client := by
  unfold addLine
  split
  split <;> simp only [save]

theorem client_removeLine (s : Session) (text : String) :
    (s.removeLine text).2.client = s.client := by
  unfold removeLine
  split
  split <;> simp only [save]

theorem client_toggleLine (s : Session) (text : String) :
    (s.toggleLine text).2.client = s.client := by
  unfold toggleLine
  split
  split <;> simp only [save]

theorem reaches_check (s : Session) (path : String) (content : Option String) :
    s.client.Reaches (s.check path content).2.client := by
  unfold check
  split
  · exact .refl _
  · split <;> exact .refl _

theorem reaches_syncFavorites (s : Session) : s.client.Reaches s.syncFavorites.2.client := by
  unfold syncFavorites
  split
  · exact .refl _
  · next user huser =>
    have hreaches : s.client.Reaches (s.client.favoriteIds (some user.id)).2 :=
      .favoritesFrom _ _ _ _
    generalize s.client.favoriteIds (some user.id) = found at hreaches
    obtain ⟨ids, client⟩ := found
    cases ids with
    | error failure => exact hreaches
    | ok ids =>
      simp only
      split <;> exact hreaches

theorem reaches_apply (s : Session) (op : Operation) : s.client.Reaches (s.apply op).client := by
  cases op with
  | ingest posts => exact .refl _
  | search tags first count limit =>
    rw [apply, search, client_ingestFound]
    exact .searchAll _ _
  | fetch ids =>
    rw [apply, fetch]
    split
    · exact .refl _
    · rw [client_ingestFound]
      exact .searchAll _ _
  | check path content => exact reaches_check s path content
  | addLine text =>
    rw [apply, client_addLine]
    exact .refl _
  | removeLine text =>
    rw [apply, client_removeLine]
    exact .refl _
  | toggleLine text =>
    rw [apply, client_toggleLine]
    exact .refl _
  | setAll enabled => exact .refl _
  | syncFavorites => exact reaches_syncFavorites s
  | reindex => exact .refl _

/-- The sessions that can come about on a client, on any settings. -/
inductive ReachableOn (client : Site.Client) : Session → Prop where
  | opened {config : Configuration.Blacklist} {settings : Settings} {s : Session}
      (h : Session.opened config settings client none = .ok s) : ReachableOn client s
  | connected {config : Configuration.Blacklist} {settings : Settings} {s : Session}
      (h : Session.connected config settings client = .ok s) : ReachableOn client s
  | next {s : Session} (h : ReachableOn client s) (op : Operation) : ReachableOn client (s.apply op)

theorem reachable_iff {s : Session} : s.Reachable ↔ ∃ client, s.ReachableOn client := by
  constructor
  · intro h
    induction h with
    | @opened config settings client s h => exact ⟨client, .opened h⟩
    | @connected config settings client s h => exact ⟨client, .connected h⟩
    | next h op ih =>
      obtain ⟨client, hs⟩ := ih
      exact ⟨client, hs.next op⟩
  · rintro ⟨client, h⟩
    induction h with
    | opened h => exact .opened h
    | connected h => exact .connected h
    | next h op ih => exact ih.next op

theorem ReachableOn.reaches {client : Site.Client} {s : Session} (h : ReachableOn client s) :
    client.Reaches s.client := by
  induction h with
  | opened h =>
    rw [client_opened h]
    exact .refl client
  | connected h => exact reaches_connected h
  | next h op ih => exact ih.trans (reaches_apply _ op)

/-- The site that the client meets goes on to reply, from some request on. -/
theorem ReachableOn.meets {client : Site.Client} {s : Session} (h : ReachableOn client s)
    {site : Nat → Site.Reply} (hc : client.Meets site) :
    ∃ n, s.client.Meets fun k => site (n + k) := h.reaches.meets hc

theorem ReachableOn.meets_opened {config : Site.Config} {replies : List Site.TimedReply}
    {spare : Site.TimedReply} {wait : Nat → Nat} {s : Session}
    (h : ReachableOn (.opened config replies spare wait) s) :
    ∃ n, s.client.Meets fun k => (replies.getD (n + k) spare).reply :=
  h.meets (Site.Client.meets_opened config replies spare wait)

end BoardFilter.Session
