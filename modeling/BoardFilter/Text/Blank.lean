/-!
# Blank characters, trimming and splitting into words

The blank characters are those with the Unicode property White_Space. A word is a maximal run of
other characters; trimming drops blank characters at both ends and nowhere else.
-/

namespace BoardFilter.Text

def blankRanges : List (Nat × Nat) :=
  [(0x9, 0xD), (0x20, 0x20), (0x85, 0x85), (0xA0, 0xA0), (0x1680, 0x1680), (0x2000, 0x200A),
    (0x2028, 0x2029), (0x202F, 0x202F), (0x205F, 0x205F), (0x3000, 0x3000)]

def inRanges (ranges : List (Nat × Nat)) (code : Nat) : Bool :=
  ranges.any fun r => r.1 ≤ code && code ≤ r.2

def isBlank (c : Char) : Bool := inRanges blankRanges c.toNat

def dropEndWhile (p : Char → Bool) (s : List Char) : List Char := (s.reverse.dropWhile p).reverse

def trimmed (s : List Char) : List Char := dropEndWhile isBlank (s.dropWhile isBlank)

def wordsOf (s : List Char) : List (List Char) :=
  (s.splitOnP isBlank).filter fun w => !w.isEmpty

def trim (s : String) : String := String.ofList (trimmed s.toList)

def isBlankText (s : String) : Bool := s.toList.all isBlank

def words (s : String) : List String := (wordsOf s.toList).map String.ofList

def trimmedLines (s : String) : List String :=
  (s.toList.splitOnP (· == '\n')).map fun l => String.ofList (trimmed l)

def dropLead? (lead : String) (s : List Char) : Option (List Char) :=
  lead.toList.isPrefixOf? s

def dropTail? (tail : String) (s : List Char) : Option (List Char) :=
  (tail.toList.reverse.isPrefixOf? s.reverse).map List.reverse

def splitAtLead (separator : String) (s : List Char) : List (List Char) :=
  go s.length s []
where
  go : Nat → List Char → List Char → List (List Char)
    | 0, _, piece => [piece.reverse]
    | _ + 1, [], piece => [piece.reverse]
    | n + 1, c :: r, piece =>
      match dropLead? separator (c :: r) with
      | some rest => piece.reverse :: go n rest []
      | none => go n r (c :: piece)

end BoardFilter.Text
