import BoardFilter.Json.Basic
import BoardFilter.Number.Decimal

/-!
# JSON numerals

A numeral without a fraction and an exponent that fits in 64 bits, signed or unsigned, is a whole
number. Every other numeral, and minus zero, is a binary64 number. Its digits are gathered while
they fit in 64 bits; those after them only count for the exponent, and the power of ten is applied
by rounded multiplications and divisions of at most `10 ^ 308`.
-/

namespace BoardFilter.Json

def wordLimit : Nat := 0x10000000000000000

def gather (n : Nat) : List Char → Nat × List Char
  | [] => (n, [])
  | c :: r =>
    let next := n * 10 + (c.toNat - '0'.toNat)
    if next < wordLimit then gather next r else (n, c :: r)

def powerOfTen (e : Nat) : Binary64 := Decimal.toBinary64 ⟨false, 1, e⟩

/-- Multiplies by a power of ten. A magnitude from 64 bits vanishes within four divisions by
`10 ^ 308`, so four tries are enough. -/
def scaled? : Nat → Binary64 → Int → Option Binary64
  | 0, x, _ => some x
  | tries + 1, x, e =>
    if 308 < e then none
    else if 0 ≤ e then
      let y := x.mul (powerOfTen e.toNat)
      if y.isInfinite then none else some y
    else if -308 ≤ e then some (x.div (powerOfTen (-e).toNat))
    else scaled? tries (x.div (powerOfTen 308)) (e + 308)

def floatOf? (negative : Bool) (significand : Nat) (exponent : Int) : Option Json :=
  if significand = 0 then some (.float (.finite negative .zero))
  else (scaled? 4 (.ofNat significand) exponent).map fun x =>
    .float (if negative then x.neg else x)

def wholeOf? (negative : Bool) (significand : Nat) : Option Json :=
  if !negative then some (.int significand)
  else if significand = 0 ∨ 0x8000000000000000 < significand then floatOf? true significand 0
  else some (.int (-(significand : Int)))

def readExponent? (negative : Bool) (significand : Nat) (exponent : Int) :
    List Char → Option (Json × List Char)
  | c :: r =>
    if c = 'e' ∨ c = 'E' then
      let (down, r) := Decimal.spanSign r
      let (digits, r) := Decimal.spanDigits r
      if digits.isEmpty then none
      else
        let e : Int := Decimal.natOfDigits digits
        (floatOf? negative significand (if down then exponent - e else exponent + e)).map (·, r)
    else (floatOf? negative significand exponent).map (·, c :: r)
  | [] => (floatOf? negative significand exponent).map (·, [])

def readUnsigned? (negative : Bool) (s : List Char) : Option (Json × List Char) :=
  let (whole, r) := Decimal.spanDigits s
  if whole.isEmpty || (whole.length ≠ 1 && whole.head? = some '0') then none
  else
    let (significand, left) := gather 0 whole
    match r with
    | '.' :: r =>
      let (fraction, r) := Decimal.spanDigits r
      if fraction.isEmpty then none
      else
        let (significand, unread) := gather significand fraction
        let taken := fraction.length - unread.length
        readExponent? negative significand ((left.length : Int) - taken) r
    | c :: _ =>
      if c = 'e' ∨ c = 'E' then readExponent? negative significand left.length r
      else if left.isEmpty then (wholeOf? negative significand).map (·, r)
      else (floatOf? negative significand left.length).map (·, r)
    | [] =>
      if left.isEmpty then (wholeOf? negative significand).map (·, r)
      else (floatOf? negative significand left.length).map (·, r)

def readNumeral? : List Char → Option (Json × List Char)
  | '-' :: r => readUnsigned? true r
  | r => readUnsigned? false r

end BoardFilter.Json
