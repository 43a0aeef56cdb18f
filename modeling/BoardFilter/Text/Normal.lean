import BoardFilter.Text.Composition

/-!
# The composed normal form

Two texts that differ only in how their letters are put together have the same normal form: every
composite is taken apart, the marks behind each letter are put in the order of their classes, and
what can be put together is.
-/

namespace BoardFilter.Text

def compositeDepth : Nat := 3

def takenApart : Nat → Char → List Char
  | 0, c => [c]
  | depth + 1, c =>
    match parts? c with
    | some (a, b) => takenApart depth a ++ [b]
    | none => [c]

def place (c : Char) : List Char → List Char
  | [] => [c]
  | d :: r =>
    if 0 < combiningClass d ∧ combiningClass d < combiningClass c then d :: place c r
    else c :: d :: r

def arranged (s : List Char) : List Char := s.foldr place []

/-- Puts together what follows a letter. The marks that were left behind it are kept in reverse;
one of them blocks the way for later characters that do not have a greater class. -/
def composeAfter (letter : Char) (marks : List Char) : List Char → List Char
  | [] => letter :: marks.reverse
  | c :: r =>
    let free := match marks with
      | [] => true
      | m :: _ => combiningClass m < combiningClass c
    match if free then whole? letter c else none with
    | some whole => composeAfter whole marks r
    | none =>
      if combiningClass c = 0 then letter :: (marks.reverse ++ composeAfter c [] r)
      else composeAfter letter (c :: marks) r

def composed : List Char → List Char
  | [] => []
  | c :: r => if combiningClass c = 0 then composeAfter c [] r else c :: composed r

def normalForm (s : List Char) : List Char :=
  composed (arranged (s.flatMap (takenApart compositeDepth)))

end BoardFilter.Text
