import BoardFilter.Json.Decode
import BoardFilter.Post.Basic

/-!
# What the site sends

Posts and profiles as the site lists them. Every field may be left out and then has a default, but
a field of the wrong type makes the whole entry unreadable. An entry without an id is readable and
stands for no post.
-/

namespace BoardFilter.Site

def missingIdMessage : String := "Post is missing an essential field id"

namespace Listing

open Json

def optional? {α : Type} (read : Json → Option α) : Option Json → Option (Option α) :=
  withDefault? none (asNullable? read)

def texts? : Option Json → Option (List String) := withDefault? [] (asList? asText?)

def word? : Option Json → Option Word := withDefault? 0 asWord?

def halfWord? : Option Json → Option HalfWord := withDefault? 0 asHalfWord?

def signed? : Option Json → Option SignedWord := withDefault? SignedWord.zero asSigned?

def flag? : Option Json → Option Bool := withDefault? false asBool?

def file? (v : Json) : Option MediaFile :=
  match slots? ["width", "height", "ext", "size", "md5", "url"] v with
  | some [width, height, ext, size, md5, url] => do
    let width ← halfWord? width
    let height ← halfWord? height
    let ext ← optional? asText? ext
    let size ← word? size
    let _ ← optional? asText? md5
    let _ ← optional? asText? url
    return { extension := .ofText (ext.getD ""), width, height, size, width_lt := width.lt,
             height_lt := height.lt, size_lt := size.lt }
  | _ => none

def score? (v : Json) : Option SignedWord :=
  match slots? ["up", "down", "total"] v with
  | some [up, down, total] => do
    let _ ← signed? up
    let _ ← signed? down
    signed? total
  | _ => none

def tags? (v : Json) : Option Tags :=
  let names := ["general", "species", "character", "copyright", "artist", "invalid", "lore", "meta"]
  match slots? names v with
  | some [general, species, character, copyright, artist, invalid, lore, metadata] => do
    let general ← texts? general
    let species ← texts? species
    let character ← texts? character
    let copyright ← texts? copyright
    let artist ← texts? artist
    let invalid ← texts? invalid
    let lore ← texts? lore
    let metadata ← texts? metadata
    return .ofGroups
      [(.artist, artist), (.copyright, copyright), (.species, species), (.character, character),
        (.general, general), (.invalid, invalid), (.metadata, metadata), (.lore, lore)]
  | _ => none

def flags? (v : Json) : Option Flags :=
  let names := ["pending", "flagged", "note_locked", "status_locked", "rating_locked", "deleted"]
  match slots? names v with
  | some [pending, flagged, noteLocked, statusLocked, ratingLocked, deleted] => do
    let pending ← flag? pending
    let flagged ← flag? flagged
    let noteLocked ← flag? noteLocked
    let statusLocked ← flag? statusLocked
    let ratingLocked ← flag? ratingLocked
    let deleted ← flag? deleted
    return ((((((Flags.none.add .pending pending).add .flagged flagged).add .deleted deleted).add
      .noteLocked noteLocked).add .statusLocked statusLocked).add .ratingLocked ratingLocked)
  | _ => none

def relations? (v : Json) : Option (Bool × Bool) :=
  match slots? ["parent_id", "has_children", "has_active_children", "children"] v with
  | some [parent, hasChildren, hasActiveChildren, children] => do
    let parent ← optional? asWord? parent
    let hasChildren ← flag? hasChildren
    let _ ← flag? hasActiveChildren
    let _ ← withDefault? [] (asList? asWord?) children
    return (parent.isSome, hasChildren)
  | _ => none

def postFields : List String :=
  ["id", "file", "score", "tags", "flags", "rating", "fav_count", "is_favorited", "uploader_id",
    "uploader_name", "approver_id", "relationships", "duration"]

/-- Reads an entry of a list of posts: nothing if it is unreadable, no post if it has no id. -/
def post? (v : Json) : Option (Option Post) :=
  match slots? postFields v with
  | some [id, file, score, tags, flags, rating, favorites, isFavorited, uploader, uploaderName,
      approver, relations, duration] => do
    let id ← optional? asWord? id
    let file ← withDefault? default file? file
    let score ← withDefault? SignedWord.zero score? score
    let tags ← withDefault? (.empty true) tags? tags
    let flags ← withDefault? .none flags? flags
    let rating ← withDefault? "" asText? rating
    let favorites ← word? favorites
    let isFavorited ← flag? isFavorited
    let uploader ← word? uploader
    let uploaderName ← optional? asText? uploaderName
    let approver ← optional? asWord? approver
    let (hasParent, hasChildren) ← withDefault? (false, false) relations? relations
    let duration ← optional? asFloat? duration
    return id.map fun (id : Word) =>
      { id, rating := .ofText rating, score, favorites, isFavorited, tags, flags, uploader,
        uploaderName, approver := approver.map (·.val), file := { file with duration },
        hasChildren, hasParent, id_lt := id.lt, score_bounds := score.bounds,
        favorites_lt := favorites.lt, uploader_lt := uploader.lt,
        approver_lt := Word.lt_of_mem approver }
  | _ => none

def posts? (v : Json) : Option (List Post) :=
  (asList? post? v).map fun entries => entries.filterMap id

end Listing

structure Profile where
  id : Nat
  name : String
  blacklist : List String
deriving DecidableEq, Repr, Inhabited

namespace Profile

/-- The lines of a blacklist text: those that hold something and are no comment. -/
def blacklistLines (s : String) : List String :=
  (Text.trimmedLines s).filter fun l =>
    !l.isEmpty && (Text.dropLead? "//" l.toList).isNone

def read? (v : Json) : Option (Option Bool × Option Profile) :=
  match Json.slots? ["success", "id", "name", "blacklisted_tags"] v with
  | some [success, id, name, blacklist] => do
    let success ← Listing.optional? Json.asBool? success
    let id ← Listing.optional? Json.asWord? id
    let name ← Listing.optional? Json.asText? name
    let blacklist ← Listing.optional? Json.asText? blacklist
    return (success, id.map fun id => ⟨id.val, name.getD "", blacklistLines (blacklist.getD "")⟩)
  | _ => none

end Profile

end BoardFilter.Site
