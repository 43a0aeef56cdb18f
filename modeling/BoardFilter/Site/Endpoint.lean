import BoardFilter.Text.Blank

/-!
# Endpoints

The places of the site that are asked for posts and accounts. Some have a place for an id in their
path, and some wrap what they send in an object with one field.
-/

namespace BoardFilter.Site

inductive Endpoint where
  | posts
  | post
  | favorites
  | pools
  | postSets
  | tags
  | users
deriving DecidableEq, Repr, Inhabited

namespace Endpoint

def all : List Endpoint := [posts, post, favorites, pools, postSets, tags, users]

def name : Endpoint → String
  | posts => "posts"
  | post => "post"
  | favorites => "favorites"
  | pools => "pools"
  | postSets => "post_sets"
  | tags => "tags"
  | users => "users"

def parts : Endpoint → String × Option String
  | posts => ("/posts.json", none)
  | post => ("/posts/", some ".json")
  | favorites => ("/favorites.json", none)
  | pools => ("/pools.json", none)
  | postSets => ("/post_sets.json", none)
  | tags => ("/tags.json", none)
  | users => ("/users/", some ".json")

def pathWith (e : Endpoint) (id : String) : String :=
  match e.parts with
  | (lead, some tail) => lead ++ id ++ tail
  | (lead, none) => lead

def slot : String := "\x7b\x7d"

def path (e : Endpoint) : String := e.pathWith slot

def node? : Endpoint → Option String
  | posts | favorites => some "posts"
  | post => some "post"
  | pools | postSets | tags | users => none

def url (e : Endpoint) (base : String) (id : Option String) : String :=
  String.ofList (Text.dropEndWhile (· == '/') base.toList) ++ e.pathWith (id.getD slot)

end Endpoint

end BoardFilter.Site
