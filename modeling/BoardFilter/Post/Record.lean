import BoardFilter.Json.Decode
import BoardFilter.Post.Basic

/-!
# Stored posts

The JSON form in which a post is kept: a record with every field of the post by name. Reading asks
for every field but those that may be absent from a post.
-/

namespace BoardFilter

namespace Json

def ofOption {α : Type} (value : α → Json) : Option α → Json
  | some a => value a
  | none => null

/-- A number, with null for infinity and NaN, which cannot be written. -/
def ofFloat : Binary64 → Json
  | .finite negative m => float (.finite negative m)
  | _ => null

end Json

namespace Tags

def toRecord (tags : Tags) : Json :=
  .ofFields
    [("categories", .array (tags.byCategory.toList.map Json.texts)),
      ("all", .texts tags.all),
      ("resolved", .bool tags.resolved)]

def readCategories? (v : Json) : Option (Vector (List String) 8) :=
  (Json.asList? (Json.asList? Json.asText?) v).bind fun lists =>
    if h : lists.length = 8 then some ⟨lists.toArray, by simpa using h⟩ else none

def ofRecord? (v : Json) : Option Tags :=
  match Json.fullSlots? ["categories", "all", "resolved"] v with
  | some [categories, all, resolved] => do
    let byCategory ← Json.required? readCategories? categories
    let all ← Json.required? (Json.asList? Json.asText?) all
    let resolved ← Json.required? Json.asBool? resolved
    return ⟨byCategory, all.eraseDups, resolved⟩
  | _ => none

end Tags

namespace MediaFile

def toRecord (file : MediaFile) : Json :=
  .ofFields
    [("extension", .text file.extension.label),
      ("width", .nat file.width),
      ("height", .nat file.height),
      ("size", .nat file.size),
      ("duration", .ofOption .ofFloat file.duration)]

def ofRecord? (v : Json) : Option MediaFile :=
  match Json.fullSlots? ["extension", "width", "height", "size", "duration"] v with
  | some [extension, width, height, size, duration] => do
    let label ← Json.required? Json.asChoice? extension
    let extension ← Extension.ofLabel? label
    let width ← Json.required? Json.asHalfWord? width
    let height ← Json.required? Json.asHalfWord? height
    let size ← Json.required? Json.asWord? size
    let duration ← Json.withDefault? none (Json.asNullable? Json.asFloat?) duration
    return { extension, width, height, size, duration, width_lt := width.lt,
             height_lt := height.lt, size_lt := size.lt }
  | _ => none

end MediaFile

namespace Post

def fieldNames : List String :=
  ["id", "rating", "score", "favorites", "is_favorited", "tags", "flags", "uploader",
    "uploader_name", "approver", "file", "has_children", "has_parent"]

def toRecord (post : Post) : Json :=
  .ofFields
    [("id", .nat post.id),
      ("rating", .text post.rating.label),
      ("score", .int post.score),
      ("favorites", .nat post.favorites),
      ("is_favorited", .bool post.isFavorited),
      ("tags", post.tags.toRecord),
      ("flags", .text post.flags.toText),
      ("uploader", .nat post.uploader),
      ("uploader_name", .ofOption .text post.uploaderName),
      ("approver", .ofOption .nat post.approver),
      ("file", post.file.toRecord),
      ("has_children", .bool post.hasChildren),
      ("has_parent", .bool post.hasParent)]

def ofRecord? (v : Json) : Option Post :=
  match Json.fullSlots? fieldNames v with
  | some [id, rating, score, favorites, isFavorited, tags, flags, uploader, uploaderName, approver,
      file, hasChildren, hasParent] => do
    let id ← Json.required? Json.asWord? id
    let label ← Json.required? Json.asChoice? rating
    let rating ← Rating.ofLabel? label
    let score ← Json.required? Json.asSigned? score
    let favorites ← Json.required? Json.asWord? favorites
    let isFavorited ← Json.required? Json.asBool? isFavorited
    let tags ← Json.required? Tags.ofRecord? tags
    let names ← Json.required? Json.asText? flags
    let flags ← Flags.ofText? names
    let uploader ← Json.required? Json.asWord? uploader
    let uploaderName ← Json.withDefault? none (Json.asNullable? Json.asText?) uploaderName
    let approver ← Json.withDefault? none (Json.asNullable? Json.asWord?) approver
    let file ← Json.required? MediaFile.ofRecord? file
    let hasChildren ← Json.required? Json.asBool? hasChildren
    let hasParent ← Json.required? Json.asBool? hasParent
    return { id, rating, score, favorites, isFavorited, tags, flags, uploader, uploaderName,
             approver := approver.map (·.val), file, hasChildren, hasParent, id_lt := id.lt,
             score_bounds := score.bounds, favorites_lt := favorites.lt,
             uploader_lt := uploader.lt, approver_lt := Json.Word.lt_of_mem approver }
  | _ => none

end Post

end BoardFilter
