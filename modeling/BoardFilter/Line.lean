import BoardFilter.Clause.Evaluation
import BoardFilter.IdSet

/-!
# Lines of a blacklist

A line is compiled once into its clauses and remembers the ids of the posts that it matches. A post
matches if every required clause holds and, where there are optional clauses, one of them holds.
-/

namespace BoardFilter

/-- What is exempt from every line: favorites, the uploads of one account, and posts with certain
tags. -/
structure Exemptions where
  favorites : Bool := false
  uploadsOf : Option Nat := none
  whitelist : List String := []
deriving DecidableEq, Repr, Inhabited

def Exemptions.clauses (e : Exemptions) : List Clause :=
  (if e.favorites then [Clause.excluding .favorited "true"] else []) ++
  (match e.uploadsOf with
    | some user => [Clause.excluding .uploader (toString user)]
    | none => []) ++
  e.whitelist.map fun tag => Clause.excluding .tag (Text.lowercase tag)

inductive MatchState where
  | noMatch
  | enabled
  | disabled
deriving DecidableEq, Repr, Inhabited

namespace MatchState

def isMatch : MatchState → Bool
  | noMatch => false
  | _ => true

def code : MatchState → Nat
  | noMatch => 0
  | enabled => 1
  | disabled => 2

def label : MatchState → String
  | noMatch => "NoMatch"
  | enabled => "Enabled"
  | disabled => "Disabled"

end MatchState

structure Line where
  text : String
  clauses : List Clause
  optionalCount : Nat
  enabled : Bool
  matched : IdSet
deriving DecidableEq, Inhabited

namespace Line

/-- The form of a line by which it is known. -/
def normalize (text : String) : String := Text.lowercase (Text.trim text)

def ownClauses (text : String) : List Clause := (Text.words text).eraseDups.map Clause.parse

def compile (text : String) (enabled : Bool) (exemptions : Exemptions) : Line :=
  let text := normalize text
  let clauses := exemptions.clauses ++ ownClauses text
  { text, clauses, optionalCount := clauses.countP (·.optional), enabled, matched := .empty }

/-- Goes through clauses up to the first required one that fails and counts the optional ones that
hold; nothing if a required one fails. -/
def optionalHits (post : Post) : Nat → List Clause → Option Nat
  | hits, [] => some hits
  | hits, c :: rest =>
    if c.optional then optionalHits post (if c.holds post then hits + 1 else hits) rest
    else if c.holds post then optionalHits post hits rest
    else none

def evaluate (line : Line) (post : Post) : Bool :=
  match optionalHits post 0 line.clauses with
  | some hits => line.optionalCount = 0 || 0 < hits
  | none => false

/-- Evaluates a post and remembers a match. A post that no longer matches is forgotten only if
`evict` is set. -/
def update (line : Line) (post : Post) (evict : Bool) : Line × Bool :=
  if line.evaluate post then ({ line with matched := line.matched.insert post.id }, true)
  else if evict then ({ line with matched := line.matched.erase post.id }, false)
  else (line, false)

def updateEach (line : Line) (evict : Bool) : List Post → Line × List Bool
  | [] => (line, [])
  | p :: ps =>
    let (line, answer) := line.update p evict
    let (line, answers) := line.updateEach evict ps
    (line, answer :: answers)

theorem text_update (line : Line) (post : Post) (evict : Bool) :
    (line.update post evict).1.text = line.text := by
  unfold update
  split
  · rfl
  · split <;> rfl

theorem text_updateEach (line : Line) (evict : Bool) (posts : List Post) :
    (line.updateEach evict posts).1.text = line.text := by
  induction posts generalizing line with
  | nil => rfl
  | cons p ps ih => exact (ih _).trans (line.text_update p evict)

def updateAll (line : Line) (posts : List Post) (evict : Bool) : Line × Bool :=
  let (line, answers) := line.updateEach evict posts
  (line, answers.all id)

def setEnabled (line : Line) (enabled : Bool) : Line := { line with enabled }

def toggle (line : Line) : Line := { line with enabled := !line.enabled }

theorem text_setEnabled (enabled : Bool) (line : Line) :
    (line.setEnabled enabled).text = line.text :=
  rfl

theorem text_toggle (line : Line) : line.toggle.text = line.text := rfl

def hasMatch (line : Line) (id : Nat) (ignoreDisabled : Bool) : Bool :=
  (line.enabled || ignoreDisabled) && id ∈ line.matched

def state (line : Line) (id : Nat) : MatchState :=
  if id ∈ line.matched then (if line.enabled then .enabled else .disabled) else .noMatch

def clear (line : Line) : Line := { line with matched := .empty }

theorem text_clear (line : Line) : line.clear.text = line.text := rfl

end Line

end BoardFilter
