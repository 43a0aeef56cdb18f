import BoardFilter.Text.Blank
import BoardFilter.Number.Binary64

/-!
# Decimal numerals

A numeral is a whole number of digits scaled by a power of ten. The binary64 number of a numeral
is the nearest one, whatever the number of digits and the size of the exponent.
-/

namespace BoardFilter

structure Decimal where
  negative : Bool
  digits : Nat
  exponent : Int
deriving DecidableEq, Repr

namespace Decimal

def exponentLimit : Nat := 400

/-- The binary64 number nearest to a numeral.

A nonzero numeral with an exponent past the limit is infinite, and one whose digits all lie far
below the least quantum is zero; only the exponents between them are worked out. -/
def toBinary64 (d : Decimal) : Binary64 :=
  if d.digits = 0 then .finite d.negative .zero
  else if (exponentLimit : Int) < d.exponent then .infinite d.negative
  else if d.exponent < -((exponentLimit + d.digits.log2 : Nat) : Int) then .finite d.negative .zero
  else
    .ofQuotient d.negative (d.digits * Nat.pow 10 d.exponent.toNat * Binary64.quantaPerUnit)
      (Nat.pow 10 (-d.exponent).toNat)

def natOfDigits (ds : List Char) : Nat :=
  ds.foldl (fun n c => n * 10 + (c.toNat - '0'.toNat)) 0

def spanDigits (s : List Char) : List Char × List Char := s.span Char.isDigit

def spanSign : List Char → Bool × List Char
  | '-' :: r => (true, r)
  | '+' :: r => (false, r)
  | r => (false, r)

def exponentOf? : List Char → Option Int
  | [] => some 0
  | c :: r =>
    if c = 'e' ∨ c = 'E' then
      let (negative, r) := spanSign r
      if r.isEmpty || !r.all Char.isDigit then none
      else some (if negative then -(natOfDigits r : Int) else natOfDigits r)
    else none

def ofUnsigned? (negative : Bool) (s : List Char) : Option Decimal :=
  let (whole, r) := spanDigits s
  let (fraction, r) :=
    match r with
    | '.' :: r => spanDigits r
    | _ => ([], r)
  if whole.isEmpty && fraction.isEmpty then none
  else (exponentOf? r).map fun e =>
    ⟨negative, natOfDigits (whole ++ fraction), e - fraction.length⟩

end Decimal

def Binary64.ofText? (s : List Char) : Option Binary64 :=
  let (negative, r) := Decimal.spanSign s
  let word := r.map Char.toLower
  if word = "inf".toList ∨ word = "infinity".toList then some (.infinite negative)
  else if word = "nan".toList then some .nan
  else (Decimal.ofUnsigned? negative r).map Decimal.toBinary64

end BoardFilter
