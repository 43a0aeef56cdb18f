import BoardFilter.Text.Mark
import BoardFilter.Text.Normal
import BoardFilter.Url.Domain.Direction
import BoardFilter.Url.Domain.Folding
import BoardFilter.Url.Domain.Joiner
import BoardFilter.Url.Domain.Refused
import BoardFilter.Url.Punycode

/-!
# Domains in ASCII

A domain is a sequence of labels between dots. Each label has a plain form, for the reader, and an
ASCII form, which is the plain one if that is in ASCII and its Punycode behind `xn--` otherwise.
A domain may be given in either form, and the ASCII form has to be the one of its plain form.
-/

namespace BoardFilter.Url.Domain

structure Label where
  plain : List Char
  ascii : List Char
deriving Repr, DecidableEq

namespace Label

def codeLead : String := "xn--"

def maxPlain : Nat := 1000

def maxCode : Nat := 2000

def isAscii (s : List Char) : Bool := s.all fun c => c.toNat < 0x80

def fits (plain : List Char) : Bool :=
  isAscii plain
    || (!plain.head?.any Text.isMark && joinersFit [] plain && plain.length ≤ maxPlain)

def isFolded (plain : List Char) : Bool :=
  !plain.any isRefused && plain.all (fun c => folded c = [c]) && Text.normalForm plain = plain

/-- The label of a code. A code of ASCII characters alone is none. -/
def ofCode? (code : List Char) : Option Label :=
  if isAscii code && code.length ≤ maxCode then
    match Punycode.decode? code with
    | some plain =>
      if !isAscii plain && Punycode.encode plain = code && isFolded plain && fits plain then
        some ⟨plain, codeLead.toList ++ code⟩
      else none
    | none => none
  else none

def ofFolded? (s : List Char) : Option Label :=
  match Text.dropLead? codeLead s with
  | some code => ofCode? code
  | none =>
    if fits s then
      some ⟨s, if isAscii s then s else codeLead.toList ++ Punycode.encode s⟩
    else none

end Label

def directionsAgree (labels : List Label) : Bool :=
  if labels.any fun l => l.plain.any turnsRight then
    labels.all fun l => Direction.agree (l.plain.map direction)
  else true

def foldedText? (s : List Char) : Option (List Char) :=
  if s.any fun c => 0x80 ≤ c.toNat && isRefused c then none
  else
    let folded := s.flatMap folded
    let s := if Label.isAscii folded then folded else Text.normalForm folded
    if s.any isRefused then none else some s

def ascii? (s : List Char) : Option (List Char) := do
  let s ← foldedText? s
  let labels ← (s.splitOnP (· == '.')).mapM Label.ofFolded?
  if directionsAgree labels then
    some (List.intercalate ['.'] (labels.map Label.ascii))
  else none

end BoardFilter.Url.Domain
