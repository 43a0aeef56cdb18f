import BoardFilter.Site.Channel
import BoardFilter.Url.Query
import BoardFilter.Url.Reader

/-!
# Asking the site

A client turns questions into requests, sends them through its channel and reads the answers. A
question that takes several requests sends what it can at once and fails with the first request
that fails.
-/

namespace BoardFilter.Site

structure Config where
  baseUrl : String := "https://e621.net"
  userAgent : String := "e6filter/0.3.0"
  delay : Nat := Queue.usualDelay
  username : Option String := none
  apiKey : Option String := none
deriving DecidableEq, Repr, Inhabited

namespace Config

def login? (cfg : Config) : Option (String × String) :=
  match cfg.username, cfg.apiKey with
  | some user, some key => if user.isEmpty || key.isEmpty then none else some (user, key)
  | _, _ => none

def spacing (cfg : Config) : Nat := max cfg.delay Queue.leastDelay

end Config

structure Client where
  config : Config
  channel : Channel
deriving Inhabited

namespace Client

def largestLimit : Nat := 320

def lastPage : Nat := 750

def idsPerSearch : Nat := 100

def opened (config : Config) (replies : List TimedReply) (spare : TimedReply := .nothing)
    (wait : Nat → Nat := id) : Client :=
  ⟨config, .opened config.delay replies spare wait⟩

def request (cfg : Config) (endpoint : Endpoint) (id : Option String)
    (query : List (String × String)) : Except Failure Request :=
  let url := endpoint.url cfg.baseUrl id
  match Url.parse url with
  | .error fault => .error (.invalidUrl url fault)
  | .ok u =>
    let u := if query.isEmpty then u else u.addPairs query
    .ok { url := u.toText, headers := [("Accept", "application/json")], login := cfg.login? }

def send (c : Client) (request : Request) (endpoint : Endpoint) : Nat × Client :=
  let (call, channel) := c.channel.enqueue request endpoint none
  (call, { c with channel })

def await (c : Client) (call : Nat) : Except Failure Answer × Client :=
  let (answer, channel) := c.channel.await call
  (answer, { c with channel })

def ask (c : Client) (endpoint : Endpoint) (id : Option String) (query : List (String × String)) :
    Except Failure Answer × Client :=
  match request c.config endpoint id query with
  | .error failure => (.error failure, c)
  | .ok request =>
    let (call, c) := c.send request endpoint
    c.await call

def readPosts (answer : Answer) : Except Failure (List Post) :=
  match Listing.posts? answer.payload with
  | some posts => .ok posts
  | none => .error .misshapen

structure Search where
  tags : String
  page : Nat
  limit : Nat
deriving DecidableEq, Repr, Inhabited

namespace Search

def clamp (low high n : Nat) : Nat := max low (min n high)

def query (s : Search) : List (String × String) :=
  [("limit", toString (clamp 1 largestLimit s.limit)), ("page", toString (clamp 1 lastPage s.page)),
    ("tags", s.tags)]

def request (cfg : Config) (s : Search) : Except Failure Request :=
  Client.request cfg .posts none s.query

def ofIds : List Nat → List Search
  | [] => []
  | id :: ids =>
    let part := (id :: ids).take idsPerSearch
    ⟨"id:" ++ String.intercalate "," (part.map toString), 1, part.length⟩ ::
      ofIds ((id :: ids).drop idsPerSearch)
termination_by ids => ids.length
decreasing_by simp only [idsPerSearch, List.length_drop, List.length_cons]; omega

/-- Consecutive pages of a search, from the first one on. Page numbers have sixteen bits, and the
greatest of them ends every search. -/
def pages (tags : List String) (first count limit : Nat) : List Search :=
  (List.range' first (min (first + count) 0xFFFF - first)).map fun page =>
    ⟨String.intercalate " " tags, page, limit⟩

end Search

/-- How far a number of searches came: the posts of the pages that were read before the first
failure, and the failure. -/
structure Pages where
  read : List (List Post) := []
  failure : Option Failure := none
deriving Inhabited

namespace Pages

def posts (p : Pages) : Except Failure (List Post) :=
  match p.failure with
  | none => .ok p.read.flatten
  | some failure => .error failure

end Pages

def sendAll (c : Client) (endpoint : Endpoint) : List Request → List Nat × Client
  | [] => ([], c)
  | request :: rest =>
    let (call, c) := c.send request endpoint
    let (calls, c) := c.sendAll endpoint rest
    (call :: calls, c)

def dropAll (c : Client) (calls : List Nat) : Client :=
  calls.foldl (fun c call => { c with channel := c.channel.drop call }) c

/-- Waits for calls in turn up to the first that fails; nobody waits for those after it. -/
def collect (c : Client) : List Nat → Pages × Client
  | [] => ({}, c)
  | call :: rest =>
    let (answer, c) := c.await call
    match answer.bind readPosts with
    | .error failure => ({ failure := some failure }, c.dropAll rest)
    | .ok posts =>
      let (pages, c) := c.collect rest
      ({ pages with read := posts :: pages.read }, c)

def searchAll (c : Client) (searches : List Search) : Pages × Client :=
  match searches.mapM (Search.request c.config) with
  | .error failure => ({ failure := some failure }, c)
  | .ok requests =>
    let (calls, c) := c.sendAll .posts requests
    c.collect calls

def findPosts (c : Client) (tags : List String) (page limit : Nat) :
    Except Failure (List Post) × Client :=
  let (pages, c) := c.searchAll [⟨String.intercalate " " tags, page, limit⟩]
  (pages.posts, c)

def getPost (c : Client) (id : Nat) : Except Failure Post × Client :=
  let (answer, c) := c.ask .post (some (toString id)) []
  let post := answer.bind fun answer =>
    match Listing.post? answer.payload with
    | none => .error .misshapen
    | some none => .error .missingId
    | some (some post) => .ok post
  (post, c)

def getPosts (c : Client) (ids : List Nat) : Except Failure (List Post) × Client :=
  let (pages, c) := c.searchAll (Search.ofIds ids)
  (pages.posts, c)

def favoritesQuery (user : Option Nat) (page : Nat) : List (String × String) :=
  [("limit", toString largestLimit), ("page", toString page)] ++
    (user.map fun id => ("user_id", toString id)).toList

/-- The ids on `count` pages of favorites from `page` on, up to a page that is not full. -/
def favoritesFrom (c : Client) (user : Option Nat) (page : Nat) :
    Nat → Except Failure (List Nat) × Client
  | 0 => (.ok [], c)
  | count + 1 =>
    let (answer, c) := c.ask .favorites none (favoritesQuery user page)
    match answer.bind readPosts with
    | .error failure => (.error failure, c)
    | .ok posts =>
      let ids := posts.map (·.id)
      if posts.length < largestLimit then (.ok ids, c)
      else
        let (rest, c) := c.favoritesFrom user (page + 1) count
        (rest.map (ids ++ ·), c)

def favoriteIds (c : Client) (user : Option Nat) : Except Failure (List Nat) × Client :=
  c.favoritesFrom user 1 lastPage

def readProfile (answer : Answer) : Except Failure Profile :=
  match Profile.read? answer.payload with
  | none => .error .misshapen
  | some (some false, _) =>
    .error (.refused .users answer.status "Invalid username or API key")
  | some (_, none) => .error .missingId
  | some (_, some profile) => .ok profile

def authenticate (c : Client) : Except Failure (Option Profile) × Client :=
  match c.config.login? with
  | none => (.ok none, c)
  | some (user, _) =>
    let (answer, c) := c.ask .users (some user) []
    ((answer.bind readProfile).map some, c)

end Client

end BoardFilter.Site
