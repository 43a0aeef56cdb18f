import BoardFilter.Json.Text
import BoardFilter.Number.Decimal
import BoardFilter.Toml.Basic

/-!
# TOML numerals and moments

Whole numbers have 64 bits with a sign and are written in base ten, or without a sign in base
sixteen, eight or two. Single underscores may stand between digits. A date names a day that exists.
-/

namespace BoardFilter.Toml

def readDigits? (isDigit : Char → Bool) : List Char → Option (List Char × List Char)
  | [] => none
  | [c] => if isDigit c then some ([c], []) else none
  | c :: d :: r =>
    if !isDigit c then none
    else if d = '_' then (readDigits? isDigit r).map fun p => (c :: p.1, p.2)
    else if isDigit d then (readDigits? isDigit (d :: r)).map fun p => (c :: p.1, p.2)
    else some ([c], d :: r)

def valueOf (base : Nat) (digits : List Char) : Nat :=
  digits.foldl (fun n c => n * base + (Json.hexDigit? c).getD 0) 0

def intOf? (n : Int) : Option Toml :=
  if -0x8000000000000000 ≤ n ∧ n < 0x8000000000000000 then some (.int n) else none

def readBased? (base : Nat) (s : List Char) : Option (Toml × List Char) :=
  let isDigit (c : Char) := (Json.hexDigit? c).any (· < base)
  (readDigits? isDigit s).bind fun p => (intOf? (valueOf base p.1)).map (·, p.2)

def readWhole? : List Char → Option (List Char × List Char)
  | '0' :: r => some (['0'], r)
  | s => readDigits? Char.isDigit s

def floatOf? (negative : Bool) (digits : List Char) (exponent : Int) : Option Toml :=
  let x := Decimal.toBinary64 ⟨negative, Decimal.natOfDigits digits, exponent⟩
  if x = .infinite false then none else some (.float x)

def readExponent? (s : List Char) : Option (Int × List Char) :=
  let (down, r) := Decimal.spanSign s
  (readDigits? Char.isDigit r).map fun p =>
    let e : Int := Decimal.natOfDigits p.1
    (if down then -e else e, p.2)

def readScale? : List Char → Option (Int × List Char)
  | c :: r => if c = 'e' || c = 'E' then readExponent? r else some (0, c :: r)
  | [] => some (0, [])

def readDecimal? (negative : Bool) (s : List Char) : Option (Toml × List Char) :=
  match s with
  | 'i' :: 'n' :: 'f' :: r => some (.float (.infinite negative), r)
  | 'n' :: 'a' :: 'n' :: r => some (.float .nan, r)
  | s =>
    match readWhole? s with
    | none => none
    | some (whole, '.' :: r) => do
      let (fraction, r) ← readDigits? Char.isDigit r
      let (scale, r) ← readScale? r
      let x ← floatOf? negative (whole ++ fraction) (scale - fraction.length)
      return (x, r)
    | some (whole, c :: r) =>
      if c = 'e' || c = 'E' then do
        let (scale, r) ← readExponent? r
        let x ← floatOf? negative whole scale
        return (x, r)
      else
        let n : Int := Decimal.natOfDigits whole
        (intOf? (if negative then -n else n)).map (·, c :: r)
    | some (whole, []) =>
      let n : Int := Decimal.natOfDigits whole
      (intOf? (if negative then -n else n)).map (·, [])

def readNumber? : List Char → Option (Toml × List Char)
  | '0' :: 'x' :: r => readBased? 16 r
  | '0' :: 'o' :: r => readBased? 8 r
  | '0' :: 'b' :: r => readBased? 2 r
  | '-' :: r => readDecimal? true r
  | '+' :: r => readDecimal? false r
  | s => readDecimal? false s

def readField? (count low high : Nat) (s : List Char) : Option (Nat × List Char) :=
  let digits := s.take count
  let n := Decimal.natOfDigits digits
  if digits.length = count && digits.all Char.isDigit && low ≤ n && n ≤ high then
    some (n, s.drop count)
  else none

def readMark? (mark : Char) : List Char → Option (List Char)
  | c :: r => if c = mark then some r else none
  | [] => none

def isLeapYear (year : Nat) : Bool := year % 4 = 0 && (year % 100 ≠ 0 || year % 400 = 0)

def daysIn (year month : Nat) : Nat :=
  if month = 2 then (if isLeapYear year then 29 else 28)
  else if month = 4 || month = 6 || month = 9 || month = 11 then 30
  else 31

def readDate? (s : List Char) : Option (List Char) := do
  let (year, r) ← readField? 4 0 9999 s
  let r ← readMark? '-' r
  let (month, r) ← readField? 2 1 12 r
  let r ← readMark? '-' r
  let (_, r) ← readField? 2 1 (daysIn year month) r
  return r

def skipFraction : List Char → List Char
  | '.' :: c :: r => if c.isDigit then r.dropWhile Char.isDigit else '.' :: c :: r
  | s => s

def readTime? (s : List Char) : Option (List Char) := do
  let (_, r) ← readField? 2 0 23 s
  let r ← readMark? ':' r
  let (_, r) ← readField? 2 0 59 r
  let r ← readMark? ':' r
  let (_, r) ← readField? 2 0 60 r
  return skipFraction r

def readOffset? : List Char → Option (List Char)
  | c :: r =>
    if c = 'Z' || c = 'z' then some r
    else if c = '+' || c = '-' then do
      let (_, r) ← readField? 2 0 23 r
      let r ← readMark? ':' r
      let (_, r) ← readField? 2 0 59 r
      return r
    else some (c :: r)
  | [] => some []

def readTimeAfter? : List Char → Option (List Char)
  | c :: r =>
    if c = 'T' || c = 't' || c = ' ' then
      match readTime? r with
      | some r => readOffset? r
      | none => some (c :: r)
    else some (c :: r)
  | [] => some []

def readMoment? (s : List Char) : Option (Toml × List Char) :=
  let rest :=
    match readDate? s with
    | some r => readTimeAfter? r
    | none => readTime? s
  rest.map fun r => (.moment (String.ofList (s.take (s.length - r.length))), r)

end BoardFilter.Toml
