import BoardFilter.Proofs.Session.Outcome
import BoardFilter.Proofs.Site.Answers
import BoardFilter.Proofs.Site.Replies

/-!
# A login that fails

A login gives the account only if the reply to it tells of success and holds a profile with an id
that the site does not deny. At whatever stage it fails, the session is the one without an account,
and without a name and a key nothing is asked at all.
-/

namespace BoardFilter

namespace Site

namespace Config

variable {cfg : Config}

theorem login?_eq_some_iff {user key : String} :
    cfg.login? = some (user, key) ↔
      cfg.username = some user ∧ cfg.apiKey = some key ∧ user ≠ "" ∧ key ≠ "" := by
  rw [login?]
  cases cfg.username with
  | none => simp
  | some user' =>
    cases cfg.apiKey with
    | none => simp
    | some key' =>
      simp only [Option.ite_none_left_eq_some, Bool.or_eq_true, String.isEmpty_iff, not_or,
        Option.some.injEq, Prod.mk.injEq]
      constructor
      · rintro ⟨⟨hu, hk⟩, rfl, rfl⟩
        exact ⟨rfl, rfl, hu, hk⟩
      · rintro ⟨rfl, rfl, hu, hk⟩
        exact ⟨⟨hu, hk⟩, rfl, rfl⟩

theorem login?_eq_none_iff :
    cfg.login? = none ↔ ∀ user key, cfg.username = some user → cfg.apiKey = some key →
      user = "" ∨ key = "" := by
  rw [Option.eq_none_iff_forall_ne_some]
  constructor
  · intro h user key huser hkey
    by_contra hnot
    rw [not_or] at hnot
    exact h (user, key) (login?_eq_some_iff.2 ⟨huser, hkey, hnot.1, hnot.2⟩)
  · rintro h ⟨user, key⟩ hlogin
    obtain ⟨huser, hkey, hu, hk⟩ := login?_eq_some_iff.1 hlogin
    exact (h user key huser hkey).elim hu hk

end Config

def profilePlace (cfg : Config) (user : String) : Except Url.Fault Url :=
  Url.parse (Endpoint.users.url cfg.baseUrl (some user))

/-- The reply gives a profile with an id, and the site does not deny the login. -/
inductive Grants (reply : Reply) (profile : Profile) : Prop
  | profile {status : Nat} {v : Json} {success : Option Bool} (h : Tells reply status v)
      (hread : Profile.read? v = some (success, some profile)) (hnot : success ≠ some false) :
      Grants reply profile

/-- The ways in which a reply to a login gives no profile. -/
inductive Refuses : Reply → Failure → Prop
  | disconnected (why : Disconnect) : Refuses (.none why) (.refused .users 0 why.message)
  | broken : Refuses .broken (.refused .users 0 "transport panicked while sending the request")
  | status {status : Nat} (hstatus : status < 200 ∨ 400 ≤ status) (body : String) :
      Refuses (.received status body) (.refused .users status (Answer.reasonOf body))
  | malformed {status : Nat} {body : String} (hstatus : 200 ≤ status ∧ status < 400)
      (h : Text.isBlankText body = false) (hv : Json.parse? body = none) :
      Refuses (.received status body) (.malformed .users)
  | misshapen {reply : Reply} {status : Nat} {v : Json} (h : Tells reply status v)
      (hread : Profile.read? v = none) : Refuses reply .misshapen
  | denied {reply : Reply} {status : Nat} {v : Json} {profile : Option Profile}
      (h : Tells reply status v) (hread : Profile.read? v = some (some false, profile)) :
      Refuses reply (.refused .users status "Invalid username or API key")
  | nameless {reply : Reply} {status : Nat} {v : Json} {success : Option Bool}
      (h : Tells reply status v) (hread : Profile.read? v = some (success, none))
      (hnot : success ≠ some false) : Refuses reply .missingId

theorem Tells.ofReply_users {reply : Reply} {status : Nat} {v : Json} (h : Tells reply status v) :
    Answer.ofReply .users reply = .ok ⟨v, status, .users⟩ :=
  ofReply_eq_iff.2 (.answer h (.whole (.inl rfl)))

theorem tells_or_refuses (reply : Reply) :
    (∃ status v, Tells reply status v) ∨
      ∃ failure, Refuses reply failure ∧ Answer.ofReply .users reply = .error failure := by
  obtain ⟨result, h⟩ := exists_comesTo .users reply
  have hreply := h.ofReply_eq
  cases h with
  | answer h _ => exact .inl ⟨_, _, h⟩
  | missing h _ => exact .inl ⟨_, _, h⟩
  | malformed hstatus h hv => exact .inr ⟨_, .malformed hstatus h hv, hreply⟩
  | @refused status body reason hstatus h =>
    rw [h.eq_reasonOf] at hreply
    exact .inr ⟨_, .status hstatus body, hreply⟩
  | disconnected why => exact .inr ⟨_, .disconnected why, hreply⟩
  | broken => exact .inr ⟨_, .broken, hreply⟩

namespace Client

theorem readProfile_of_grants {reply : Reply} {profile : Profile} (h : Grants reply profile) :
    (Answer.ofReply .users reply).bind readProfile = .ok profile := by
  obtain ⟨h, hread, hnot⟩ := h
  rw [h.ofReply_users]
  simp only [Except.bind, readProfile, hread]

theorem readProfile_of_not_grants {reply : Reply} (h : ¬ ∃ profile, Grants reply profile) :
    ∃ failure, Refuses reply failure ∧
      (Answer.ofReply .users reply).bind readProfile = .error failure := by
  rcases tells_or_refuses reply with ⟨status, v, hv⟩ | ⟨failure, hrefuses, hanswer⟩
  · rw [hv.ofReply_users]
    simp only [Except.bind, readProfile]
    split
    · next hread => exact ⟨_, .misshapen hv hread, rfl⟩
    · next hread => exact ⟨_, .denied hv hread, rfl⟩
    · next success hnot hread => exact ⟨_, .nameless hv hread hnot, rfl⟩
    · next success profile hnot hread =>
      exact absurd ⟨profile, .profile hv hread hnot⟩ h
  · exact ⟨failure, hrefuses, by rw [hanswer]; rfl⟩

variable {c : Client} {site : Nat → Reply} {user key : String}

theorem authenticate_of_no_login (h : c.config.login? = none) : c.authenticate = (.ok none, c) := by
  rw [authenticate, h]

theorem authenticate_of_fault (hlogin : c.config.login? = some (user, key)) {fault : Url.Fault}
    (hu : profilePlace c.config user = .error fault) :
    c.authenticate =
      (.error (.invalidUrl (Endpoint.users.url c.config.baseUrl (some user)) fault), c) := by
  rw [profilePlace] at hu
  simp only [authenticate, hlogin, ask, request, hu]
  rfl

theorem Meets.authenticate_eq (hc : c.Meets site) (hlogin : c.config.login? = some (user, key))
    {u : Url} (hu : profilePlace c.config user = .ok u) :
    c.authenticate.1 = ((Answer.ofReply .users (site 0)).bind readProfile).map some := by
  obtain ⟨script, h, hr, hsite⟩ := hc.exists_recorded
  rw [profilePlace] at hu
  have hrequest : request c.config .users (some user) [] =
      .ok { url := u.toText, headers := [("Accept", "application/json")],
            login := c.config.login? } := by
    rw [request, hu]
    rfl
  obtain ⟨hanswer, -⟩ := ask_eq hr hrequest
  rw [hsite, Nat.add_zero, ← hanswer]
  simp only [authenticate, hlogin]

end Client

end Site

namespace Session

variable {config : Configuration.Blacklist} {settings : Settings} {c : Site.Client}

def leftWith (client : Site.Client) : Except Unopened Session → Except Unopened Session
  | .ok s => .ok { s with client }
  | .error e => .error { e with client }

theorem opened_eq_leftWith (config : Configuration.Blacklist) (settings : Settings)
    (client client' : Site.Client) (user : Option Site.Profile) :
    opened config settings client' user =
      leftWith client' (opened config settings client user) := by
  unfold opened
  simp only
  split
  · rfl
  · split
    · rfl
    · split <;> rfl

open Site (Grants Refuses profilePlace)

/-- A session that is opened with a login other than one that is granted is the session without an
account, or fails as that one does. Without a name and a key that hold something no request is made
for it, and whoever is granted the login is the account of the session. -/
theorem failed_login_opens_without_account {site : Nat → Site.Reply} (hc : c.Meets site)
    (config : Configuration.Blacklist) (settings : Settings) :
    ((∀ user key, c.config.username = some user → c.config.apiKey = some key →
        user = "" ∨ key = "") →
      connected config settings c = opened config settings c none) ∧
    ∀ user key, c.config.username = some user → c.config.apiKey = some key →
      user ≠ "" → key ≠ "" →
      (∀ fault, profilePlace c.config user = .error fault →
        connected config settings c = opened config settings c none) ∧
      ∀ u, profilePlace c.config user = .ok u →
        ((¬ ∃ profile, Grants (site 0) profile) →
          (∃ failure, Refuses (site 0) failure ∧ c.authenticate.1 = .error failure) ∧
          connected config settings c =
            leftWith c.authenticate.2 (opened config settings c none)) ∧
        ∀ profile, Grants (site 0) profile →
          connected config settings c =
            leftWith c.authenticate.2 (opened config settings c (some profile)) := by
  refine ⟨fun hnone => ?_, fun user key huser hkey hu hk => ?_⟩
  · rw [connected_eq_opened,
      Site.Client.authenticate_of_no_login (Site.Config.login?_eq_none_iff.2 hnone)]
    rfl
  have hlogin := Site.Config.login?_eq_some_iff.2 ⟨huser, hkey, hu, hk⟩
  refine ⟨fun fault hfault => ?_, fun u hplace => ?_⟩
  · rw [connected_eq_opened, Site.Client.authenticate_of_fault hlogin hfault]
    rfl
  have hresult := hc.authenticate_eq hlogin hplace
  rw [connected_eq_opened, hresult]
  refine ⟨fun hnot => ?_, fun profile hgrants => ?_⟩
  · obtain ⟨failure, hrefuses, hread⟩ := Site.Client.readProfile_of_not_grants hnot
    rw [hread]
    exact ⟨⟨failure, hrefuses, rfl⟩, opened_eq_leftWith config settings c c.authenticate.2 none⟩
  · rw [Site.Client.readProfile_of_grants hgrants]
    exact opened_eq_leftWith config settings c c.authenticate.2 (some profile)

/-- An empty body stands for an empty list and not for a profile, as there is no id in it. -/
theorem failed_login_opens_without_account_of_empty_body :
    let c : Site.Client :=
      .opened { username := some "me", apiKey := some "key" } [⟨.received 200 "", 5⟩]
    ∃ site, c.Meets site ∧ site 0 = .received 200 "" ∧ (¬ ∃ profile, Grants (site 0) profile) ∧
      (∃ failure, Refuses (site 0) failure ∧ c.authenticate.1 = .error failure) ∧
      ∃ s, connected { lines := ["solo"], exemptUploads := true } .empty c = .ok s ∧
        s.user = none ∧ s.exemptions = {} ∧ s.lines = [⟨"solo", true, 0⟩] := by
  intro c
  have hmeets : c.Meets _ := Site.Client.meets_opened _ _ .nothing id
  have hread : (Site.Answer.ofReply .users (.received 200 "")).bind Site.Client.readProfile =
      .error .missingId := by decide +kernel
  have hnot : ¬ ∃ profile, Grants (.received 200 "") profile := by
    rintro ⟨profile, hgrants⟩
    rw [Site.Client.readProfile_of_grants hgrants] at hread
    cases hread
  obtain ⟨u, hu⟩ : ∃ u, profilePlace c.config "me" = .ok u :=
    Site.Client.exists_ok (by decide +kernel)
  obtain ⟨-, hlogin⟩ := failed_login_opens_without_account hmeets
    { lines := ["solo"], exemptUploads := true } .empty
  obtain ⟨-, hfail⟩ := hlogin "me" "key" rfl rfl (by decide) (by decide)
  obtain ⟨hrefused, hsame⟩ := (hfail u hu).1 hnot
  exact ⟨_, hmeets, rfl, hnot, hrefused, _, hsame, rfl, rfl, by decide +kernel⟩

end Session

end BoardFilter
