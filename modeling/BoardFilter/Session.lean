import BoardFilter.Blacklist
import BoardFilter.Configuration.Basic
import BoardFilter.Favorites
import BoardFilter.Gallery

/-!
# Sessions

A session holds the blacklist, the favorites and every post that it has seen, and keeps the first
two in the settings. What fails, fails before anything is changed; only a failing write comes after
the change that it was to keep.
-/

namespace BoardFilter

structure Session where
  config : Configuration.Blacklist
  user : Option Site.Profile
  blacklist : Blacklist
  favorites : IdSet
  settings : Settings
  client : Site.Client
  known : Gallery
deriving Inhabited

structure Report where
  post : Post
  state : MatchState
  lines : List String
deriving DecidableEq, Inhabited

structure LineSummary where
  text : String
  enabled : Bool
  matchCount : Nat
deriving DecidableEq, Repr, Inhabited

namespace Session

inductive Failure where
  | site (failure : Site.Failure)
  | notLoggedIn
  | noPosts
  | noFile
  | noDump (path : String) (fault : Json.Fault)
  | unreadable (state : UnreadableState)
  | notStored
deriving DecidableEq, Repr, Inhabited

def Failure.message (w : Wording) : Failure → String
  | site failure => "API request failed: " ++ failure.message w.json
  | notLoggedIn => "Favorites can only be synced while logged in"
  | noPosts => "No posts given"
  | noFile => "Failed to access file: " ++ w.system
  | noDump path fault => "File " ++ path ++ " is not a post dump: " ++ w.json fault
  | unreadable state => "Failed to persist blacklist: " ++ state.message w
  | notStored =>
    "Failed to persist blacklist: Failed to access the settings store: " ++
      Settings.inaccessibleMessage w

structure Unopened where
  failure : Failure
  settings : Settings
  client : Site.Client

/-- The lines of a first session: those of the configuration, then those of the account. -/
def seed (config : Configuration.Blacklist) (user : Option Site.Profile) : Blacklist :=
  let exemptions := config.exemptions (user.map (·.id))
  let lines := config.lines ++ (user.map (·.blacklist)).getD []
  Blacklist.empty.load lines config.enabled exemptions

/-- Opens a session on what an earlier one left; without a stored blacklist it is the first. -/
def opened (config : Configuration.Blacklist) (settings : Settings) (client : Site.Client)
    (user : Option Site.Profile) : Except Unopened Session :=
  let exemptions := config.exemptions (user.map (·.id))
  match Blacklist.empty.restore settings exemptions with
  | .error state => .error ⟨.unreadable state, settings, client⟩
  | .ok (restored, found) =>
    let blacklist := if found then restored else seed config user
    let kept := if found then settings else blacklist.save settings
    if !found && settings.fails then .error ⟨.notStored, kept, client⟩
    else
      match Favorites.load kept with
      | .error state => .error ⟨.unreadable state, kept, client⟩
      | .ok favorites =>
        .ok { config, user, blacklist, favorites, settings := kept, client, known := .empty }

def connected (config : Configuration.Blacklist) (settings : Settings) (client : Site.Client) :
    Except Unopened Session :=
  let (user, client) := client.authenticate
  opened config settings client (user.toOption.bind id)

def exemptions (s : Session) : Exemptions := s.config.exemptions (s.user.map (·.id))

def report (s : Session) (post : Post) : Report where
  post
  state := s.blacklist.state post.id
  lines := (s.blacklist.lines.filter fun l => post.id ∈ l.matched).map (·.text)

def ingest (s : Session) (posts : List Post) : List Report × Session :=
  let posts := posts.map (Favorites.mark s.favorites)
  let s := { s with blacklist := (s.blacklist.add posts).1, known := s.known.insertAll posts }
  (posts.map s.report, s)

def ingestFound (s : Session) (client : Site.Client) (found : Except Site.Failure (List Post)) :
    Except Failure (List Report) × Session :=
  let s := { s with client }
  match found with
  | .error failure => (.error (.site failure), s)
  | .ok posts =>
    let (reports, s) := s.ingest posts
    (.ok reports, s)

/-- Searches consecutive pages; how far the search came is given as well. -/
def search (s : Session) (tags : List String) (first count limit : Nat) :
    Site.Client.Pages × Except Failure (List Report) × Session :=
  let (pages, client) := s.client.searchAll (Site.Client.Search.pages tags first count limit)
  (pages, s.ingestFound client pages.posts)

def fetch (s : Session) (ids : List Nat) : Except Failure (List Report) × Session :=
  if ids.isEmpty then (.error .noPosts, s)
  else
    let (found, client) := s.client.getPosts ids
    s.ingestFound client found

/-- The part of a saved answer that holds the posts. -/
def dumped (v : Json) : Json :=
  match v.field? "posts", v.field? "post" with
  | some posts, _ => posts
  | none, some post => post
  | none, none => v

def readDump (path content : String) : Except Failure (List Post) :=
  match Json.parse? content with
  | none => .error (.noDump path .malformed)
  | some v =>
    let posts :=
      match dumped v with
      | .array items => Site.Listing.posts? (.array items)
      | single => (Site.Listing.post? single).map Option.toList
    match posts with
    | none => .error (.noDump path .misshapen)
    | some [] => .error .noPosts
    | some posts => .ok posts

/-- Ingests the posts of a saved answer, given the content of the file if it can be read. -/
def check (s : Session) (path : String) (content : Option String) :
    Except Failure (List Report) × Session :=
  match content with
  | none => (.error .noFile, s)
  | some content =>
    match readDump path content with
    | .error failure => (.error failure, s)
    | .ok posts =>
      let (reports, s) := s.ingest posts
      (.ok reports, s)

def lines (s : Session) : List LineSummary :=
  s.blacklist.lines.map fun l => ⟨l.text, l.enabled, l.matched.size⟩

def written (settings : Settings) : Except Failure Unit :=
  if settings.fails then .error .notStored else .ok ()

def save (s : Session) : Except Failure Unit × Session :=
  (written s.settings, { s with settings := s.blacklist.save s.settings })

def addLine (s : Session) (text : String) : Except Failure Bool × Session :=
  let (blacklist, created) := s.blacklist.create text s.config.enabled s.exemptions
  if created then
    let blacklist := blacklist.update text s.known.posts false
    let (stored, s) := save { s with blacklist }
    (stored.map fun _ => true, s)
  else (.ok false, s)

def removeLine (s : Session) (text : String) : Except Failure Bool × Session :=
  let (blacklist, removed) := s.blacklist.delete text
  if removed then
    let (stored, s) := save { s with blacklist }
    (stored.map fun _ => true, s)
  else (.ok false, s)

def toggleLine (s : Session) (text : String) : Except Failure (Option Bool) × Session :=
  let (blacklist, state) := s.blacklist.toggle text
  if state.isSome then
    let (stored, s) := save { s with blacklist }
    (stored.map fun _ => state, s)
  else (.ok none, s)

def setAll (s : Session) (enabled : Bool) : Except Failure Unit × Session :=
  save { s with blacklist := s.blacklist.setAll enabled }

def reindex (s : Session) : Session :=
  let known := s.known.remark fun id => id ∈ s.favorites
  { s with known, blacklist := (s.blacklist.reindex known.posts).1 }

def syncFavorites (s : Session) : Except Failure Nat × Session :=
  match s.user with
  | none => (.error .notLoggedIn, s)
  | some user =>
    let (ids, client) := s.client.favoriteIds (some user.id)
    let s := { s with client }
    match ids with
    | .error failure => (.error (.site failure), s)
    | .ok ids =>
      let favorites := IdSet.ofList ids
      let stored := written s.settings
      let s := { s with favorites, settings := Favorites.save favorites s.settings }
      match stored with
      | .error failure => (.error failure, s)
      | .ok _ => (.ok favorites.size, reindex s)

end Session

end BoardFilter
