import BoardFilter.Text.Lowercase

/-!
# Ratings

How suggestive a post is. A rating is written as a letter or as a word, in any case.
-/

namespace BoardFilter

inductive Rating where
  | safe
  | questionable
  | explicit
  | unknown
deriving DecidableEq, Repr, Inhabited

namespace Rating

def all : List Rating := [safe, questionable, explicit, unknown]

def ofText (s : String) : Rating :=
  match Text.lowercase (Text.trim s) with
  | "s" | "safe" => safe
  | "q" | "questionable" => questionable
  | "e" | "explicit" => explicit
  | _ => unknown

def label : Rating → String
  | safe => "Safe"
  | questionable => "Questionable"
  | explicit => "Explicit"
  | unknown => "Unknown"

def letter : Rating → String
  | safe => "s"
  | questionable => "q"
  | explicit => "e"
  | unknown => ""

def ofLabel? (s : String) : Option Rating := all.find? fun r => r.label = s

theorem ofLabel?_label (r : Rating) : ofLabel? r.label = some r := by cases r <;> rfl

end Rating

end BoardFilter
