import BoardFilter.Clause.Basic
import BoardFilter.Clause.Glob
import BoardFilter.Clause.Reader

/-!
# Evaluating clauses

A clause that a post gives no answer to does not hold of it, and so holds when it is inverted.
-/

namespace BoardFilter.Clause

def compares (c : Clause) (x : Binary64) : Bool :=
  match c.comparison, c.operand with
  | .range, .range low high => low.le x && x.le high
  | .equals, .number v => x.same v
  | .less, .number v => x.lt v
  | .lessOrEqual, .number v => x.le v
  | .greater, .number v => v.lt x
  | .greaterOrEqual, .number v => v.le x
  | _, _ => false

def comparesNat (c : Clause) (n : Nat) : Bool := c.compares (.ofNat n)

def comparesSome (c : Clause) (x : Option Binary64) : Bool :=
  match x with
  | some x => c.compares x
  | none => false

def sameName (a b : String) : Bool := a.toList.map Char.toLower == b.toList.map Char.toLower

def test (c : Clause) (post : Post) : Bool :=
  match c.field with
  | .tag =>
    match c.operand with
    | .tag name => post.tags.contains name
    | .pattern p => post.tags.all.any fun tag => Glob.covers p tag.toList
    | _ => false
  | .id => c.comparesNat post.id
  | .score => c.compares (.ofInt post.score)
  | .favCount => c.comparesNat post.favorites
  | .height => c.comparesNat post.file.height
  | .width => c.comparesNat post.file.width
  | .fileSize => c.comparesNat post.file.size
  | .tagCount => c.comparesNat post.tags.size
  | .duration => c.comparesSome post.file.duration
  | .aspectRatio => c.comparesSome (post.file.ratio?.map toHundredths)
  | .categoryCount category => c.comparesSome ((post.tags.count? category).map .ofNat)
  | .favorited => c.operand = .truth post.isFavorited
  | .hasParent => c.operand = .truth post.hasParent
  | .hasChild => c.operand = .truth post.hasChildren
  | .rating => c.operand = .rating post.rating
  | .fileType => c.operand = .fileType post.file.extension
  | .status =>
    match c.operand with
    | .word s => (post.flags.status? s).getD false
    | _ => false
  | .uploader =>
    match c.operand with
    | .word name => post.uploaderName.any fun uploader => sameName uploader name
    | _ => c.comparesNat post.uploader
  | .approver =>
    match c.operand with
    | .word s => (s = "none" && post.approver.isNone) || (s = "any" && post.approver.isSome)
    | _ => c.comparesSome (post.approver.map .ofNat)

def holds (c : Clause) (post : Post) : Bool := c.test post != c.inverted

end BoardFilter.Clause
