import BoardFilter.Toml.Numeral
import BoardFilter.Toml.Text

/-!
# Reading TOML

A document is read line by line. A header says which table the lines after it are about, and every
other line gives a value to a key in it. Whatever is not as it should be spoils the whole document.
-/

namespace BoardFilter.Toml

def skipComment : List Char → List Char
  | '#' :: r => r.dropWhile isPrintable
  | s => s

def readEnd? (s : List Char) : Option (List Char) :=
  match skipComment (skipGap s) with
  | [] => some []
  | r => readBreak? r

def skipEnds : Nat → List Char → List Char
  | 0, s => s
  | steps + 1, s =>
    let s := skipComment (skipGap s)
    match readBreak? s with
    | some r => skipEnds steps r
    | none => s

def readItems? (value : List Char → Option (Toml × List Char)) :
    Nat → List Toml → List Char → Option (List Toml × List Char)
  | 0, _, _ => none
  | steps + 1, done, s =>
    match skipEnds s.length s with
    | ']' :: r => some (done.reverse, r)
    | s =>
      match value s with
      | none => none
      | some (v, r) =>
        match skipEnds r.length r with
        | ',' :: r => readItems? value steps (v :: done) r
        | ']' :: r => some ((v :: done).reverse, r)
        | _ => none

def readPair? (value : List Char → Option (Toml × List Char)) (s : List Char) :
    Option (List String × Toml × List Char) := do
  let (key, r) ← readKey? s
  let r ← readMark? '=' r
  let (v, r) ← value (skipGap r)
  return (key, v, r)

def readFields? (value : List Char → Option (Toml × List Char)) :
    Nat → Fields → List Char → Option (Fields × List Char)
  | 0, _, _ => none
  | steps + 1, done, s =>
    match readPair? value s with
    | none => none
    | some (key, v, r) =>
      match insert key v done with
      | none => none
      | some done =>
        match skipGap r with
        | ',' :: r => readFields? value steps done r
        | '}' :: r => some (done, r)
        | _ => none

def readScalar? (s : List Char) : Option (Toml × List Char) :=
  match s with
  | '"' :: r => (readQuoted? '"' r).map fun p => (.text p.1, p.2)
  | '\'' :: r => (readQuoted? '\'' r).map fun p => (.text p.1, p.2)
  | 't' :: 'r' :: 'u' :: 'e' :: r => some (.bool true, r)
  | 'f' :: 'a' :: 'l' :: 's' :: 'e' :: r => some (.bool false, r)
  | s =>
    match readMoment? s with
    | some p => some p
    | none => readNumber? s

def readValue? : Nat → List Char → Option (Toml × List Char)
  | 0, _ => none
  | depth + 1, '[' :: r =>
    if depth = 0 then none
    else (readItems? (readValue? depth) (r.length + 1) [] r).map fun p => (.array p.1, p.2)
  | depth + 1, '\x7b' :: r =>
    if depth = 0 then none
    else
      match skipGap r with
      | '}' :: r => some (.table .value [], r)
      | r => (readFields? (readValue? depth) (r.length + 1) [] r).map fun p =>
          (.table .value p.1, p.2)
  | _ + 1, s => readScalar? s

def readHeader? (root : Fields) (s : List Char) : Option (List String × Fields × List Char) :=
  match s with
  | '[' :: r => do
    let (path, r) ← readKey? r
    let r ← readMark? ']' r
    let r ← readMark? ']' r
    let name ← path.getLast?
    let root ← within path.dropLast (openItem name) root
    return (path, root, r)
  | r => do
    let (path, r) ← readKey? r
    let r ← readMark? ']' r
    let name ← path.getLast?
    let root ← within path.dropLast (openTable name) root
    return (path, root, r)

def readDocument? : Nat → List String → Fields → List Char → Option Fields
  | 0, _, root, s => if s.isEmpty then some root else none
  | steps + 1, path, root, s =>
    match skipGap s with
    | [] => some root
    | '[' :: r => do
      let (path, root, r) ← readHeader? root r
      readDocument? steps path root (← readEnd? r)
    | '#' :: r => do readDocument? steps path root (← readEnd? ('#' :: r))
    | c :: r =>
      match readBreak? (c :: r) with
      | some r => readDocument? steps path root r
      | none => do
        let (key, v, r) ← readPair? (readValue? depthLimit) (c :: r)
        let root ← within path (insert key v) root
        readDocument? steps path root (← readEnd? r)

def parse? (s : String) : Option Fields :=
  let s := match s.toList with
    | '\uFEFF' :: r => r
    | r => r
  readDocument? s.length [] [] s

end BoardFilter.Toml
