import BoardFilter.Text.Lowercase

/-!
# Tags of a post

Every tag stands in one of eight categories, and all of them together form a set. Tags that come as
plain words have no category yet: they are kept as general ones and marked as unresolved, and no
category is counted then.
-/

namespace BoardFilter

inductive Category where
  | artist
  | copyright
  | species
  | character
  | general
  | invalid
  | metadata
  | lore
deriving DecidableEq, Repr, Inhabited

namespace Category

def all : List Category := [artist, copyright, species, character, general, invalid, metadata, lore]

def index : Category → Fin 8
  | artist => 0
  | copyright => 1
  | species => 2
  | character => 3
  | general => 4
  | invalid => 5
  | metadata => 6
  | lore => 7

def label : Category → String
  | artist => "artist"
  | copyright => "copyright"
  | species => "species"
  | character => "character"
  | general => "general"
  | invalid => "invalid"
  | metadata => "meta"
  | lore => "lore"

def ofLabel? (s : String) : Option Category := all.find? fun c => c.label = s

end Category

structure Tags where
  byCategory : Vector (List String) 8
  all : List String
  resolved : Bool
deriving DecidableEq

namespace Tags

def empty (resolved : Bool) : Tags := ⟨Vector.replicate 8 [], [], resolved⟩

instance : Inhabited Tags := ⟨empty false⟩

def contains (tags : Tags) (tag : String) : Bool := tags.all.contains tag

def size (tags : Tags) : Nat := tags.all.length

def category (tags : Tags) (c : Category) : List String := tags.byCategory[c.index]

/-- Adds a tag to a category; a tag that is there already stays where it is. -/
def push (tags : Tags) (c : Category) (tag : String) : Tags :=
  if tags.contains tag then tags
  else
    { tags with
      byCategory := tags.byCategory.set c.index (tags.category c ++ [tag])
      all := tags.all ++ [tag] }

def ofGroups (groups : List (Category × List String)) : Tags :=
  groups.foldl (fun tags g => g.2.foldl (fun tags tag => tags.push g.1 tag) tags) (empty true)

/-- The words of a text as tags without known category, in lower case. -/
def ofFlat (s : String) : Tags :=
  ((Text.words s).map Text.lowercase).foldl (fun tags tag => tags.push .general tag) (empty false)

def count? (tags : Tags) (c : Category) : Option Nat :=
  if tags.resolved then some (tags.category c).length else none

def joined (tags : Tags) : String :=
  String.intercalate " " (Category.all.flatMap tags.category)

end Tags

end BoardFilter
