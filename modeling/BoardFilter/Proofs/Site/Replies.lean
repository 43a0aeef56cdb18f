import BoardFilter.Proofs.Site.Await
import BoardFilter.Proofs.Site.Paging

/-!
# What replies come to

The replies of a site answer the questions of a client in the order in which they were asked, also
if other questions of the client are still open. What a reply to a request for posts comes to is the
list of its entries, of which those without an id stand for no post.
-/

namespace BoardFilter.Site

open Queue (History)

namespace Client

variable {c : Client} {script : Nat → Reply} {h : History}

/-- Whatever was asked, awaited or given up before, the site is going to reply to the next requests
with `site 0`, `site 1` and so on. -/
def Meets (c : Client) (site : Nat → Reply) : Prop :=
  ∃ (delay : Nat) (replies : List TimedReply) (spare : TimedReply) (wait : Nat → Nat)
    (acts : List Channel.Act),
      c.channel = acts.foldl Channel.act (.opened delay replies spare wait) ∧
      ∀ k, site k = (replies.getD (c.channel.queue.nextIndex + k) spare).reply

def requests (c : Client) : List Request :=
  c.channel.sent.map (·.request) ++ c.channel.queue.entries.map (·.request)

def place (cfg : Config) (endpoint : Endpoint) : Except Url.Fault Url :=
  Url.parse (endpoint.url cfg.baseUrl none)

def requestAt (cfg : Config) (u : Url) (query : List (String × String)) : Request where
  url := (u.addPairs query).toText
  headers := [("Accept", "application/json")]
  login := cfg.login?

def listed (endpoint : Endpoint) (reply : Reply) : Except Failure (List (Option Post)) :=
  (Answer.ofReply endpoint reply).bind fun answer =>
    match Json.asList? Listing.post? answer.payload with
    | some entries => .ok entries
    | none => .error .misshapen

def idsOf (entries : List (Option Post)) : List Nat := (entries.filterMap id).map (·.id)

theorem readPosts_ofReply (endpoint : Endpoint) (reply : Reply) :
    (Answer.ofReply endpoint reply).bind readPosts =
      (listed endpoint reply).map fun entries => entries.filterMap id := by
  rw [listed]
  cases Answer.ofReply endpoint reply with
  | error failure => rfl
  | ok answer =>
    simp only [Except.bind, readPosts, Listing.posts?]
    cases Json.asList? Listing.post? answer.payload <;> rfl

theorem exists_ok {ε α : Type} {x : Except ε α} (h : x.isOk = true) : ∃ a, x = .ok a := by
  cases x with
  | error e => cases h
  | ok a => exact ⟨a, rfl⟩

theorem exists_listed {endpoint : Endpoint} {reply : Reply} {ids : List (Option Nat)}
    (h : (listed endpoint reply).map (·.map (·.map (·.id))) = .ok ids) :
    ∃ entries, listed endpoint reply = .ok entries ∧ entries.map (·.map (·.id)) = ids := by
  cases hlisted : listed endpoint reply with
  | error failure =>
    rw [hlisted] at h
    cases h
  | ok entries =>
    rw [hlisted] at h
    exact ⟨entries, rfl, Except.ok.inj h⟩

theorem idsOf_eq {entries : List (Option Post)} {ids : List (Option Nat)}
    (h : entries.map (·.map (·.id)) = ids) : idsOf entries = ids.filterMap id := by
  rw [← h, List.filterMap_map]
  simp [idsOf, List.map_filterMap]

theorem listed_nothing (endpoint : Endpoint) :
    listed endpoint TimedReply.nothing.reply = .ok [] := by
  cases endpoint <;> decide +kernel

theorem listed_getD {endpoint : Endpoint} {replies : List TimedReply}
    {pages : List (List (Option Post))}
    (h : replies.map (fun r => listed endpoint r.reply) = pages.map .ok) (k : Nat) :
    listed endpoint (replies.getD k .nothing).reply = .ok (pages.getD k []) := by
  induction replies generalizing pages k with
  | nil =>
    obtain rfl : pages = [] := by simpa using h.symm
    exact listed_nothing endpoint
  | cons r replies ih =>
    cases pages with
    | nil => cases h
    | cons page pages =>
      rw [List.map_cons, List.map_cons, List.cons.injEq] at h
      cases k with
      | zero => exact h.1
      | succ k => exact ih h.2 k

theorem request_eq {cfg : Config} {endpoint : Endpoint} {u : Url} (hu : place cfg endpoint = .ok u)
    {query : List (String × String)} (hq : query ≠ []) :
    request cfg endpoint none query = .ok (requestAt cfg u query) := by
  have hempty : query.isEmpty = false := by simpa using hq
  rw [place] at hu
  simp only [request, hu, hempty, Bool.false_eq_true, ↓reduceIte, requestAt]

theorem request_of_fault {cfg : Config} {endpoint : Endpoint} {fault : Url.Fault}
    (hu : place cfg endpoint = .error fault) (query : List (String × String)) :
    request cfg endpoint none query =
      .error (.invalidUrl (endpoint.url cfg.baseUrl none) fault) := by
  rw [place] at hu
  simp only [request, hu]

theorem meets_opened (config : Config) (replies : List TimedReply) (spare : TimedReply)
    (wait : Nat → Nat) :
    (Client.opened config replies spare wait).Meets fun k => (replies.getD k spare).reply :=
  ⟨config.delay, replies, spare, wait, [], rfl, fun k => by
    simp [Client.opened, Channel.opened]⟩

theorem Meets.exists_recorded {site : Nat → Reply} (hc : c.Meets site) :
    ∃ script h, Channel.Recorded script h c.channel ∧
      ∀ k, site k = script (h.asked.length + k) := by
  obtain ⟨delay, replies, spare, wait, acts, hchannel, hsite⟩ := hc
  obtain ⟨h, hr⟩ := (Channel.recorded_opened delay replies spare wait).foldl_act acts
  rw [← hchannel] at hr
  refine ⟨_, h, hr, fun k => ?_⟩
  rw [hsite, ← hr.queue, hr.sound.length_asked]

/-- One client becomes another while its channel acts. -/
def Reaches (c c' : Client) : Prop :=
  c'.config = c.config ∧ ∃ acts : List Channel.Act, c'.channel = acts.foldl Channel.act c.channel

namespace Reaches

theorem refl (c : Client) : c.Reaches c := ⟨rfl, [], rfl⟩

theorem trans {c c' c'' : Client} (h : c.Reaches c') (h' : c'.Reaches c'') : c.Reaches c'' := by
  obtain ⟨hcfg, acts, hacts⟩ := h
  obtain ⟨hcfg', acts', hacts'⟩ := h'
  exact ⟨hcfg'.trans hcfg, acts ++ acts', by rw [List.foldl_append, ← hacts, hacts']⟩

theorem meets {c c' : Client} {site : Nat → Reply} (h : c.Reaches c') (hc : c.Meets site) :
    ∃ n, c'.Meets fun k => site (n + k) := by
  obtain ⟨delay, replies, spare, wait, acts, hchannel, hsite⟩ := hc
  obtain ⟨-, later, hlater⟩ := h
  have hle := Channel.nextIndex_le_foldl_act c.channel later
  rw [← hlater] at hle
  refine ⟨c'.channel.queue.nextIndex - c.channel.queue.nextIndex, delay, replies, spare, wait,
    acts ++ later, by rw [List.foldl_append, ← hchannel, hlater], fun k => ?_⟩
  have hindex : c.channel.queue.nextIndex +
      (c'.channel.queue.nextIndex - c.channel.queue.nextIndex + k) =
        c'.channel.queue.nextIndex + k := by omega
  simp only [hsite, hindex]

theorem send (c : Client) (request : Request) (endpoint : Endpoint) :
    c.Reaches (c.send request endpoint).2 :=
  ⟨rfl, [.enqueue request endpoint none], rfl⟩

theorem await (c : Client) (call : Nat) : c.Reaches (c.await call).2 := by
  obtain ⟨acts, hacts⟩ := c.channel.await?_eq_foldl call
  exact ⟨rfl, acts, hacts⟩

theorem sleep (c : Client) (time : Nat) : c.Reaches { c with channel := c.channel.sleep time } := by
  obtain ⟨acts, hacts⟩ := c.channel.sleep_eq_foldl time
  exact ⟨rfl, acts, hacts⟩

theorem ask (c : Client) (endpoint : Endpoint) (id : Option String)
    (query : List (String × String)) : c.Reaches (c.ask endpoint id query).2 := by
  unfold Client.ask
  split
  · exact refl c
  · next request _ => exact (send c request endpoint).trans (await _ _)

theorem sendAll (c : Client) (endpoint : Endpoint) (requests : List Request) :
    c.Reaches (c.sendAll endpoint requests).2 := by
  induction requests generalizing c with
  | nil => exact refl c
  | cons request rest ih => exact (send c request endpoint).trans (ih _)

theorem dropAll (c : Client) (calls : List Nat) : c.Reaches (c.dropAll calls) := by
  induction calls generalizing c with
  | nil => exact refl c
  | cons call rest ih =>
    have hdrop : c.Reaches { c with channel := c.channel.drop call } := ⟨rfl, [.drop call], rfl⟩
    exact hdrop.trans (ih _)

theorem collect (c : Client) (calls : List Nat) : c.Reaches (c.collect calls).2 := by
  induction calls generalizing c with
  | nil => exact refl c
  | cons call rest ih =>
    rw [Client.collect]
    cases h : (c.await call).1.bind readPosts with
    | error failure =>
      simp only [h]
      exact (await c call).trans (dropAll _ rest)
    | ok posts =>
      simp only [h]
      exact (await c call).trans (ih _)

theorem searchAll (c : Client) (searches : List Search) : c.Reaches (c.searchAll searches).2 := by
  unfold Client.searchAll
  split
  · exact refl c
  · next requests _ => exact (sendAll c .posts requests).trans (collect _ _)

theorem favoritesFrom (c : Client) (user : Option Nat) (page count : Nat) :
    c.Reaches (c.favoritesFrom user page count).2 := by
  induction count generalizing c page with
  | zero => exact refl c
  | succ count ih =>
    have hask : c.Reaches (c.afterFavorites user page) := ask c .favorites none _
    cases h : c.favoritesPage user page with
    | error failure => simpa only [favoritesFrom_of_error h] using hask
    | ok posts =>
      by_cases hshort : posts.length < largestLimit
      · simpa only [favoritesFrom_of_short h hshort] using hask
      · simpa only [favoritesFrom_of_full h hshort] using hask.trans (ih _ _)

theorem authenticate (c : Client) : c.Reaches c.authenticate.2 := by
  cases hlogin : c.config.login? with
  | none =>
    simp only [Client.authenticate, hlogin]
    exact refl c
  | some login =>
    simp only [Client.authenticate, hlogin]
    exact ask c .users (some login.1) []

end Reaches

theorem requests_eq (hr : Channel.Recorded script h c.channel) :
    c.requests = h.asked.map (·.request) := by
  rw [requests, ← hr.sent, ← hr.queue, ← List.map_append, hr.sound.sent]

theorem sent_eq (hr : Channel.Recorded script h c.channel) (he : h.queue.entries = []) :
    c.channel.sent.map (·.request) = h.asked.map (·.request) := by
  rw [← hr.sent, ← hr.sound.sent, he, List.append_nil]

theorem recorded_send (hr : Channel.Recorded script h c.channel) (request : Request)
    (endpoint : Endpoint) :
    (c.send request endpoint).1 = h.asked.length ∧
      ∃ h' e, Channel.Recorded script h' (c.send request endpoint).2.channel ∧
        h'.asked = h.asked ++ [e] ∧ h'.queue.callers = h.queue.callers ++ [h.asked.length] ∧
        e.index = h.asked.length ∧ e.request = request ∧ e.endpoint = endpoint := by
  refine ⟨?_, _, _, hr.enqueue request endpoint none, rfl, ?_, ?_, rfl, rfl⟩
  · rw [hr.sound.length_asked, hr.queue]
    rfl
  · rw [hr.sound.length_asked]
    rfl
  · exact hr.sound.length_asked.symm

theorem ask_eq (hr : Channel.Recorded script h c.channel) {endpoint : Endpoint} {id : Option String}
    {query : List (String × String)} {r : Request}
    (hreq : request c.config endpoint id query = .ok r) :
    (c.ask endpoint id query).1 = Answer.ofReply endpoint (script h.asked.length) ∧
      (c.ask endpoint id query).2.config = c.config ∧
      ∃ h', Channel.Recorded script h' (c.ask endpoint id query).2.channel ∧
        h'.asked.map (·.request) = h.asked.map (·.request) ++ [r] ∧ h'.queue.entries = [] := by
  obtain ⟨hcall, h₁, e, hsend, hasked, hcallers, hindex, hrequest, hendpoint⟩ :=
    recorded_send hr r endpoint
  have he : e ∈ h₁.asked := by simp [hasked]
  have hheld : e.index ∈ h₁.queue.callers := by simp [hcallers, hindex]
  obtain ⟨hanswer, h₂, hawait, hasked₂, -, hwait⟩ := hsend.await he hheld
  rw [hendpoint, hindex] at hanswer
  rw [hindex] at hawait
  rw [← hcall] at hanswer hawait
  have hlast : e.index + 1 = h₂.queue.nextIndex := by
    rw [← hawait.sound.length_asked, hasked₂, hasked, hindex]
    simp
  rw [ask, hreq]
  refine ⟨?_, rfl, h₂, hawait, ?_, hawait.sound.entries_eq_nil hwait hlast⟩
  · rw [← hcall]
    exact hanswer
  · rw [hasked₂, hasked, List.map_append, List.map_singleton, hrequest]

end Client

end BoardFilter.Site
