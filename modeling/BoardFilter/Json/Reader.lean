import BoardFilter.Json.Numeral
import BoardFilter.Json.Text

/-!
# Reading JSON

A document is one value with blanks around it. Arrays and objects may be nested 127 deep; a deeper
document is refused like any other text that is no JSON.
-/

namespace BoardFilter.Json

def depthLimit : Nat := 127

def isGap (c : Char) : Bool := c = ' ' || c = '\t' || c = '\n' || c = '\r'

def skipGap (s : List Char) : List Char := s.dropWhile isGap

def readScalar? : List Char → Option (Json × List Char)
  | 'n' :: 'u' :: 'l' :: 'l' :: r => some (.null, r)
  | 't' :: 'r' :: 'u' :: 'e' :: r => some (.bool true, r)
  | 'f' :: 'a' :: 'l' :: 's' :: 'e' :: r => some (.bool false, r)
  | '"' :: r => (readText? [] r).map fun p => (.text (String.ofList p.1), p.2)
  | r => readNumeral? r

/-- Reads the items of an array after the first opening or a comma, up to the closing bracket.
Every item takes up at least one character, so the length of the text bounds the steps. -/
def readItems? (value : List Char → Option (Json × List Char)) :
    Nat → List Json → List Char → Option (List Json × List Char)
  | 0, _, _ => none
  | steps + 1, done, s =>
    match value (skipGap s) with
    | none => none
    | some (v, r) =>
      match skipGap r with
      | ',' :: r => readItems? value steps (v :: done) r
      | ']' :: r => some ((v :: done).reverse, r)
      | _ => none

def readFields? (value : List Char → Option (Json × List Char)) :
    Nat → Fields → List Char → Option (Fields × List Char)
  | 0, _, _ => none
  | steps + 1, done, s =>
    match skipGap s with
    | '"' :: r =>
      match readText? [] r with
      | none => none
      | some (name, r) =>
        match skipGap r with
        | ':' :: r =>
          match value (skipGap r) with
          | none => none
          | some (v, r) =>
            let done := done.put (String.ofList name) v
            match skipGap r with
            | ',' :: r => readFields? value steps done r
            | '}' :: r => some (done, r)
            | _ => none
        | _ => none
    | _ => none

def readObject? (value : List Char → Option (Json × List Char)) (s : List Char) :
    Option (Fields × List Char) :=
  match skipGap s with
  | '}' :: r => some (.empty, r)
  | r => readFields? value (r.length + 1) .empty r

def readValue? : Nat → List Char → Option (Json × List Char)
  | 0, '[' :: _ => none
  | 0, '{' :: _ => none
  | depth + 1, '[' :: r =>
    match skipGap r with
    | ']' :: r => some (.array [], r)
    | r => (readItems? (readValue? depth) (r.length + 1) [] r).map fun p => (.array p.1, p.2)
  | depth + 1, '{' :: r => (readObject? (readValue? depth) r).map fun p => (p.1.toJson, p.2)
  | _, s => readScalar? s

def parseWithin? (depth : Nat) (s : String) : Option Json :=
  match readValue? depth (skipGap s.toList) with
  | some (v, r) => if (skipGap r).isEmpty then some v else none
  | none => none

def parse? (s : String) : Option Json := parseWithin? depthLimit s

/-- Reads a document that is to be an object. What a text begins with decides its fault: another
value is refused as soon as its beginning shows what it is. -/
def parseObject (s : String) : Except Fault Fields :=
  match skipGap s.toList with
  | '{' :: r =>
    match readObject? (readValue? (depthLimit - 1)) r with
    | some (fields, r) => if (skipGap r).isEmpty then .ok fields else .error .malformed
    | none => .error .malformed
  | '[' :: _ => .error .misshapen
  | r => .error (if (readScalar? r).isSome then .misshapen else .malformed)

end BoardFilter.Json
