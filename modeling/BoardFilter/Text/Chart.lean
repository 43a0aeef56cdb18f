import BoardFilter.Text.Blank

/-!
# Charts of characters

Facts about single characters are written down as rows of numbers in hexadecimal digits. Blanks
stand between the numbers of a row and semicolons between the rows of a line.
-/

namespace BoardFilter.Text

def hexNumber (s : List Char) : Nat :=
  s.foldl (fun n c =>
    n * 16 + (if c.isDigit then c.toNat - '0'.toNat else c.toNat - 'A'.toNat + 10)) 0

def lineRows (line : String) : List (List Nat) :=
  (line.toList.splitOnP (· == ';')).map fun row => (wordsOf row).map hexNumber

def chartRows (lines : List String) : List (List Nat) := lines.flatMap lineRows

end BoardFilter.Text
