import BoardFilter.Url.Basic

/-!
# Queries

A query of a form is a list of names and values with an equals sign inside each pair and an
ampersand between pairs. Letters, digits and four marks stand for themselves, a plus sign stands
for a space, and everything else is escaped.
-/

namespace BoardFilter.Url

def isFormPlain (c : Char) : Bool :=
  c.isAlphanum || c = '*' || c = '-' || c = '.' || c = '_'

def formChar (c : Char) : List Char :=
  if c = ' ' then ['+'] else if isFormPlain c then [c] else escapeChar c

def formText (s : String) : List Char := s.toList.flatMap formChar

def formPair (p : String × String) : List Char := formText p.1 ++ '=' :: formText p.2

def formQuery (pairs : List (String × String)) : String :=
  String.ofList (List.intercalate ['&'] (pairs.map formPair))

def addPairs (u : Url) (pairs : List (String × String)) : Url :=
  let added := formQuery pairs
  let query := match u.query with
    | some q => if q.isEmpty then added else q ++ "&" ++ added
    | none => added
  { u with query := some query }

end BoardFilter.Url
