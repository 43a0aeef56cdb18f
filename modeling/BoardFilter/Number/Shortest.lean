import BoardFilter.Number.Binary64

/-!
# The shortest decimal text of a binary64 number

The decimals that read back as a given number form an interval around it, which holds its ends if
the significand is even. Decimal grids are tried from coarse to fine. The first grid with a point in
the interval gives the digits: of the two neighbours of the number on that grid the one inside,
and of two inside the nearer.
-/

namespace BoardFilter

namespace Binary64

def significand (quanta : Nat) : Nat := quanta / Nat.pow 2 (excess quanta)

/-- The interval of the reals that round to a magnitude, in quarters of a quantum.

Below a power of two the numbers lie half as far apart as above it. -/
def readBack (quanta : Nat) : Nat × Nat :=
  let step := Nat.pow 2 (excess quanta)
  let below := if significand quanta = 0x10000000000000 ∧ 0 < excess quanta then step else 2 * step
  (4 * quanta - below, 4 * quanta + 2 * step)

def readsBack (quanta digits : Nat) (exponent : Int) : Bool :=
  let (low, high) := readBack quanta
  let scale := Nat.pow 10 (-exponent).toNat
  let value := digits * Nat.pow 10 exponent.toNat * (4 * quantaPerUnit)
  if significand quanta % 2 = 0 then low * scale ≤ value && value ≤ high * scale
  else low * scale < value && value < high * scale

/-- The point of the grid of multiples of `10 ^ exponent` that is to stand for a magnitude, if one
of its two neighbours there reads back. `tieUp` decides between two at the same distance. -/
def onGrid? (tieUp : Bool) (quanta : Nat) (exponent : Int) : Option Nat :=
  let num := quanta * Nat.pow 10 (-exponent).toNat
  let den := Nat.pow 10 exponent.toNat * quantaPerUnit
  let down := num / den
  match readsBack quanta down exponent, readsBack quanta (down + 1) exponent with
  | true, false => some down
  | false, true => some (down + 1)
  | false, false => none
  | true, true =>
    let twice := 2 * (num % den)
    some (if twice < den ∨ (twice = den ∧ tieUp = false ∧ down % 2 = 0) then down else down + 1)

def topExponent (quanta : Nat) : Int := ((quanta.log2 : Int) - 1073) * 30103 / 100000 + 1

def shortestFrom (tieUp : Bool) (quanta : Nat) : Nat → Int → Nat × Int
  | 0, exponent => (0, exponent)
  | tries + 1, exponent =>
    match onGrid? tieUp quanta exponent with
    | some digits => (digits, exponent)
    | none => shortestFrom tieUp quanta tries (exponent - 1)

def shortest (tieUp : Bool) (quanta : Nat) : Nat × Int :=
  shortestFrom tieUp quanta 20 (topExponent quanta)

end Binary64

/-- How a format writes a finite number: `positional` tells from the place of the point whether
there is no exponent, and `tieUp` whether a tie between two decimals goes to the greater one. -/
structure NumeralStyle where
  positional : Int → Bool
  wholeTail : String
  tieUp : Bool
  exponentSign : String := ""

namespace NumeralStyle

def plain : NumeralStyle := ⟨fun _ => true, "", true, ""⟩

/-- Numbers from `10 ^ -4` to below `10 ^ 16` positionally, and whole ones with a zero fraction. -/
def detailed : NumeralStyle := ⟨fun point => -3 ≤ point && point ≤ 16, ".0", true, ""⟩

/-- Numbers from `10 ^ -5` to below `10 ^ 16` positionally, and whole ones with a zero fraction.
Every exponent has a sign. -/
def document : NumeralStyle := ⟨fun point => -4 ≤ point && point ≤ 16, ".0", false, "+"⟩

def writeDecimal (style : NumeralStyle) (digits : Nat) (exponent : Int) : List Char :=
  let ds := Nat.toDigits 10 digits
  let point : Int := ds.length + exponent
  if style.positional point then
    if 0 ≤ exponent then
      ds ++ List.replicate exponent.toNat '0' ++ style.wholeTail.toList
    else if 0 < point then ds.take point.toNat ++ '.' :: ds.drop point.toNat
    else '0' :: '.' :: (List.replicate (-point).toNat '0' ++ ds)
  else
    let mantissa :=
      match ds with
      | d :: e :: r => d :: '.' :: e :: r
      | ds => ds
    let sign := if 1 ≤ point then style.exponentSign else ""
    mantissa ++ 'e' :: (sign.toList ++ (toString (point - 1)).toList)

def write (style : NumeralStyle) : Binary64 → String
  | .nan => "NaN"
  | .infinite negative => if negative then "-inf" else "inf"
  | .finite negative m =>
    let unsigned :=
      if m.quanta = 0 then '0' :: style.wholeTail.toList
      else
        let (digits, exponent) := Binary64.shortest style.tieUp m.quanta
        style.writeDecimal digits exponent
    String.ofList (if negative then '-' :: unsigned else unsigned)

end NumeralStyle

end BoardFilter
