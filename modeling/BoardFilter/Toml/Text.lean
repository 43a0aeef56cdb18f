import BoardFilter.Json.Text

/-!
# TOML keys and texts

A text stands between quotes or between apostrophes; only between quotes there are escapes. Three
of either at both ends make a text that may span lines. Tabs and everything beyond the control
characters may occur.
-/

namespace BoardFilter.Toml

def isGap (c : Char) : Bool := c = ' ' || c = '\t'

def skipGap (s : List Char) : List Char := s.dropWhile isGap

def isPrintable (c : Char) : Bool :=
  c = '\t' || (0x20 ≤ c.toNat && c.toNat ≠ 0x7F)

def readBreak? : List Char → Option (List Char)
  | '\n' :: r => some r
  | '\r' :: '\n' :: r => some r
  | _ => none

def readHex? : Nat → Nat → List Char → Option (Nat × List Char)
  | 0, n, s => some (n, s)
  | count + 1, n, c :: r =>
    match Json.hexDigit? c with
    | some d => readHex? count (n * 16 + d) r
    | none => none
  | _ + 1, _, [] => none

def charOf? (n : Nat) : Option Char :=
  if n < 0xD800 ∨ (0xDFFF < n ∧ n < 0x110000) then some (Char.ofNat n) else none

def readEscape? : List Char → Option (Char × List Char)
  | 'b' :: r => some ('\x08', r)
  | 't' :: r => some ('\t', r)
  | 'n' :: r => some ('\n', r)
  | 'f' :: r => some ('\x0c', r)
  | 'r' :: r => some ('\r', r)
  | '"' :: r => some ('"', r)
  | '\\' :: r => some ('\\', r)
  | 'u' :: r => (readHex? 4 0 r).bind fun p => (charOf? p.1).map (·, p.2)
  | 'U' :: r => (readHex? 8 0 r).bind fun p => (charOf? p.1).map (·, p.2)
  | _ => none

/-- Reads a text on one line up to its closing quote. Every step takes up a character, so the
length of the text bounds the steps. -/
def readLine? (quote : Char) : Nat → List Char → List Char → Option (List Char × List Char)
  | _, _, [] => none
  | 0, _, _ => none
  | steps + 1, done, c :: r =>
    if c = quote then some (done.reverse, r)
    else if c = '\\' && quote = '"' then
      match readEscape? r with
      | some (e, r) => readLine? quote steps (e :: done) r
      | none => none
    else if isPrintable c then readLine? quote steps (c :: done) r
    else none

def skipBreaks : Nat → List Char → List Char
  | 0, s => s
  | steps + 1, s =>
    let s := skipGap s
    match readBreak? s with
    | some r => skipBreaks steps r
    | none => s

def readContinuation? (s : List Char) : Option (List Char) :=
  (readBreak? (skipGap s)).map fun r => skipBreaks r.length r

def readLines? (quote : Char) : Nat → List Char → List Char → Option (List Char × List Char)
  | _, _, [] => none
  | 0, _, _ => none
  | steps + 1, done, c :: r =>
    if c = quote then
      let (quotes, rest) := (c :: r).span (· == quote)
      if quotes.length < 3 then readLines? quote steps (quotes ++ done) rest
      else if quotes.length < 6 then some ((quotes.drop 3 ++ done).reverse, rest)
      else none
    else if c = '\\' && quote = '"' then
      match readContinuation? r with
      | some rest => readLines? quote steps done rest
      | none =>
        match readEscape? r with
        | some (e, rest) => readLines? quote steps (e :: done) rest
        | none => none
    else
      match readBreak? (c :: r) with
      | some rest => readLines? quote steps ('\n' :: done) rest
      | none => if isPrintable c then readLines? quote steps (c :: done) r else none

def readQuoted? (quote : Char) (s : List Char) : Option (String × List Char) :=
  let read :=
    match s with
    | a :: b :: r =>
      if a = quote && b = quote then
        let r := (readBreak? r).getD r
        readLines? quote r.length [] r
      else readLine? quote s.length [] s
    | s => readLine? quote s.length [] s
  read.map fun p => (String.ofList p.1, p.2)

def isBare (c : Char) : Bool := c.isAlphanum || c = '_' || c = '-'

def readPart? : List Char → Option (String × List Char)
  | c :: r =>
    if c = '"' || c = '\'' then
      (readLine? c r.length [] r).map fun p => (String.ofList p.1, p.2)
    else
      let (word, rest) := (c :: r).span isBare
      if word.isEmpty then none else some (String.ofList word, rest)
  | [] => none

def readParts? : Nat → List Char → Option (List String × List Char)
  | 0, _ => none
  | steps + 1, s =>
    match readPart? (skipGap s) with
    | none => none
    | some (part, r) =>
      match skipGap r with
      | '.' :: r => (readParts? steps r).map fun p => (part :: p.1, p.2)
      | r => some ([part], r)

/-- One more than the most parts that a key may have, and than the deepest nesting of values. -/
def depthLimit : Nat := 80

def readKey? (s : List Char) : Option (List String × List Char) := readParts? (depthLimit - 1) s

end BoardFilter.Toml
