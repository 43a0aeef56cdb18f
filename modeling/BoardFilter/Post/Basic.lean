import BoardFilter.Number.Shortest
import BoardFilter.Post.Extension
import BoardFilter.Post.Flags
import BoardFilter.Post.Rating
import BoardFilter.Post.Tags
import BoardFilter.Text.Invisible

/-!
# Posts

A post is a snapshot of everything that a line of a blacklist can ask about.
-/

namespace BoardFilter

/-- The file of a post: its size in bytes, and how long it plays in seconds. -/
structure MediaFile where
  extension : Extension := .unknown
  width : Nat := 0
  height : Nat := 0
  size : Nat := 0
  duration : Option Binary64 := none
  width_lt : width < 0x100000000 := by decide
  height_lt : height < 0x100000000 := by decide
  size_lt : size < 0x10000000000000000 := by decide
deriving DecidableEq

instance : Inhabited MediaFile := ⟨{}⟩

def MediaFile.ratio? (file : MediaFile) : Option Binary64 :=
  if 0 < file.height then some ((Binary64.ofNat file.width).div (.ofNat file.height)) else none

structure Post where
  id : Nat := 0
  rating : Rating := .unknown
  score : Int := 0
  favorites : Nat := 0
  isFavorited : Bool := false
  tags : Tags := .empty false
  flags : Flags := .none
  uploader : Nat := 0
  uploaderName : Option String := none
  approver : Option Nat := none
  file : MediaFile := {}
  hasChildren : Bool := false
  hasParent : Bool := false
  id_lt : id < 0x10000000000000000 := by decide
  score_bounds : -0x8000000000000000 ≤ score ∧ score < 0x8000000000000000 := by decide
  favorites_lt : favorites < 0x10000000000000000 := by decide
  uploader_lt : uploader < 0x10000000000000000 := by decide
  approver_lt : ∀ n ∈ approver, n < 0x10000000000000000 := by decide
deriving DecidableEq

instance : Inhabited Post := ⟨{}⟩

namespace Post

def sortById (posts : List Post) : List Post := posts.mergeSort fun a b => a.id ≤ b.id

def describe (post : Post) : String :=
  let file := post.file
  let duration := match file.duration with
    | some d => "Some(" ++ NumeralStyle.detailed.write d ++ ")"
    | none => "None"
  let flags := if post.flags.parts.isEmpty then "0x0" else post.flags.toText
  String.join
    ["PostData \x7b Post ID: ", toString post.id, ", Rating: ", post.rating.label, ", Score: ",
      toString post.score, ", Favorites: ", toString post.favorites, ", Flags: PostFlags(", flags,
      "), Uploader: ", toString post.uploader, ", File: FileInfo \x7b extension: ",
      file.extension.label, ", width: ", toString file.width, ", height: ", toString file.height,
      ", size: ", toString file.size, ", duration: ", duration, " \x7d, Tag List: ",
      Text.inspected post.tags.joined, " \x7d"]

end Post

end BoardFilter
