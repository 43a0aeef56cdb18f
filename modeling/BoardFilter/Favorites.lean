import BoardFilter.IdSet
import BoardFilter.Json.Decode
import BoardFilter.Post.Basic
import BoardFilter.Settings

/-!
# Favorites

The ids of the posts that an account is known to have among its favorites. Posts that come without
a login do not carry the mark, so it is put on them from here.
-/

namespace BoardFilter.Favorites

def key : String := "favorites"

def load (settings : Settings) : Except UnreadableState IdSet :=
  (settings.read? key (Json.asList? Json.asWord?)).map fun ids =>
    .ofList ((ids.getD []).map (·.val))

def save (favorites : IdSet) (settings : Settings) : Settings :=
  settings.set key (.array (favorites.toList.map Json.nat))

/-- Marks a post that is among the favorites; a mark from the site stays. -/
def mark (favorites : IdSet) (post : Post) : Post :=
  if post.id ∈ favorites then { post with isFavorited := true } else post

end BoardFilter.Favorites
