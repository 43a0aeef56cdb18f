import BoardFilter.Text.Lowercase

/-!
# File types

The type of the file of a post, told from the extension of its name in any case.
-/

namespace BoardFilter

inductive Extension where
  | jpg
  | png
  | webp
  | gif
  | webm
  | mp4
  | swf
  | unknown
deriving DecidableEq, Repr, Inhabited

namespace Extension

def all : List Extension := [jpg, png, webp, gif, webm, mp4, swf, unknown]

def ofText? (s : String) : Option Extension :=
  match Text.lowercase (Text.trim s) with
  | "jpg" | "jpeg" | "jfif" => some jpg
  | "png" | "apng" => some png
  | "webp" => some webp
  | "gif" => some gif
  | "webm" => some webm
  | "mp4" => some mp4
  | "swf" => some swf
  | _ => none

def ofText (s : String) : Extension := (ofText? s).getD unknown

def unknownMessage (s : String) : String := "Unknown file extension: " ++ s

def isVideo : Extension → Bool
  | webm | mp4 | swf => true
  | _ => false

def suffix : Extension → String
  | jpg => "jpg"
  | png => "png"
  | webp => "webp"
  | gif => "gif"
  | webm => "webm"
  | mp4 => "mp4"
  | swf => "swf"
  | unknown => "bin"

def label : Extension → String
  | jpg => "JPG"
  | png => "PNG"
  | webp => "WEBP"
  | gif => "GIF"
  | webm => "WEBM"
  | mp4 => "MP4"
  | swf => "SWF"
  | unknown => "Unknown"

def ofLabel? (s : String) : Option Extension := all.find? fun e => e.label = s

theorem ofLabel?_label (e : Extension) : ofLabel? e.label = some e := by cases e <;> rfl

end Extension

end BoardFilter
