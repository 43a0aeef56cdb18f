import BoardFilter.Text.Blank
import BoardFilter.Text.CaseTable

/-!
# Full lower-casing

Every character is mapped by itself, with two exceptions. The capital I with a dot becomes an `i`
followed by a combining dot. The capital sigma becomes its final form at the end of a word, which
is decided by the nearest characters on both sides that are not ignored for casing.
-/

namespace BoardFilter.Text

def CaseRange.offset? (r : CaseRange) (code : Nat) : Option Int :=
  if r.first ≤ code ∧ code ≤ r.last ∧ (code - r.first) % r.step = 0 then some r.offset else none

def lowerChar (c : Char) : Char :=
  if c.toNat < 0x80 then c.toLower
  else match lowerRanges.findSome? fun r => r.offset? c.toNat with
    | some offset => Char.ofNat (c.toNat + offset).toNat
    | none => c

def isCased (c : Char) : Bool := inRanges casedRanges c.toNat

def isCaseIgnorable (c : Char) : Bool := inRanges caseIgnorableRanges c.toNat

def startsCased (s : List Char) : Bool :=
  match s.dropWhile isCaseIgnorable with
  | [] => false
  | c :: _ => isCased c

/-- Lower-cases the characters after `before`, which holds those already read, nearest first. -/
def lowerAfter (before : List Char) : List Char → List Char
  | [] => []
  | c :: r =>
    let rest := lowerAfter (c :: before) r
    if c = 'Σ' then (if startsCased before && !startsCased r then 'ς' else 'σ') :: rest
    else if c = 'İ' then 'i' :: '\u0307' :: rest
    else lowerChar c :: rest

def lowered (s : List Char) : List Char := lowerAfter [] s

def lowercase (s : String) : String := String.ofList (lowered s.toList)

end BoardFilter.Text
