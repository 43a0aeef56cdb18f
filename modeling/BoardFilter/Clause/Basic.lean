import BoardFilter.Post.Basic

/-!
# Clauses

A clause is one token of a line: marks for optional and inverted, the attribute of a post that it
asks about, a comparison, and the value to compare with.
-/

namespace BoardFilter

inductive Field where
  | tag
  | id
  | score
  | favorited
  | favCount
  | rating
  | status
  | uploader
  | approver
  | height
  | width
  | fileSize
  | fileType
  | duration
  | aspectRatio
  | tagCount
  | categoryCount (category : Category)
  | hasParent
  | hasChild
deriving DecidableEq, Repr, Inhabited

namespace Field

/-- The spellings that lead to a field, the usual one of a field before its others. No spelling
begins another one. -/
def spellings : List (String × Field) :=
  [("id:", id), ("score:", score), ("fav:", favorited), ("isfav:", favorited),
    ("favcount:", favCount), ("rating:", rating), ("status:", status), ("user:", uploader),
    ("userid:", uploader), ("uploader:", uploader), ("approver:", approver), ("height:", height),
    ("width:", width), ("filesize:", fileSize), ("type:", fileType), ("filetype:", fileType),
    ("duration:", duration), ("ratio:", aspectRatio), ("tagcount:", tagCount),
    ("arttags:", categoryCount .artist), ("copytags:", categoryCount .copyright),
    ("spectags:", categoryCount .species), ("chartags:", categoryCount .character),
    ("gentags:", categoryCount .general), ("invtags:", categoryCount .invalid),
    ("metatags:", categoryCount .metadata), ("lortags:", categoryCount .lore),
    ("ischild:", hasParent), ("isparent:", hasChild)]

def spelling (f : Field) : String := ((spellings.find? fun s => s.2 = f).map (·.1)).getD ""

def ofLead? (token : List Char) : Option (Field × List Char) :=
  spellings.findSome? fun s => (Text.dropLead? s.1 token).map (s.2, ·)

end Field

inductive Comparison where
  | equals
  | less
  | lessOrEqual
  | greater
  | greaterOrEqual
  | range
deriving DecidableEq, Repr, Inhabited

namespace Comparison

def operators : List (String × Comparison) :=
  [("<=", lessOrEqual), (">=", greaterOrEqual), ("<", less), (">", greater), ("=", equals)]

def symbol : Comparison → String
  | equals | range => ""
  | less => "<"
  | lessOrEqual => "<="
  | greater => ">"
  | greaterOrEqual => ">="

end Comparison

inductive Operand where
  | tag (name : String)
  | pattern (pattern : List Char)
  | number (x : Binary64)
  | range (low high : Binary64)
  | truth (b : Bool)
  | rating (r : Rating)
  | fileType (e : Extension)
  | word (s : String)
  | unusable
deriving DecidableEq, Inhabited

structure Clause where
  field : Field
  comparison : Comparison
  raw : String
  operand : Operand
  inverted : Bool
  optional : Bool
deriving DecidableEq, Inhabited

namespace Clause

def toText (c : Clause) : String :=
  String.join
    [if c.optional then "~" else "", if c.inverted then "-" else "", c.field.spelling,
      c.comparison.symbol, c.raw]

end Clause

end BoardFilter
