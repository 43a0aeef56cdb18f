import BoardFilter.Number.Magnitude

/-!
# Binary64 numbers

A finite number is a sign and a magnitude. Results of arithmetic are the exact quotient rounded to
53 significant bits, a tie going to the even neighbour.
-/

namespace BoardFilter

inductive Binary64 where
  | nan
  | infinite (negative : Bool)
  | finite (negative : Bool) (magnitude : Binary64.Magnitude)
deriving DecidableEq, Repr, Inhabited

namespace Binary64

def ofQuotient (negative : Bool) (num den : Nat) : Binary64 :=
  if h : nearestQuanta num den < quantaLimit then
    finite negative ⟨nearestQuanta num den, h, two_pow_excess_dvd_nearestQuanta num den⟩
  else infinite negative

def ofNat (n : Nat) : Binary64 := ofQuotient false (n * quantaPerUnit) 1

def ofInt (n : Int) : Binary64 := ofQuotient (n < 0) (n.natAbs * quantaPerUnit) 1

def isNaN : Binary64 → Bool
  | nan => true
  | _ => false

def isInfinite : Binary64 → Bool
  | infinite _ => true
  | _ => false

def neg : Binary64 → Binary64
  | nan => nan
  | infinite negative => infinite (!negative)
  | finite negative m => finite (!negative) m

/-- The place of a number in the order of numbers; both zeros have the same place. -/
def rank? : Binary64 → Option Int
  | nan => none
  | infinite negative => some (if negative then -(quantaLimit : Int) else quantaLimit)
  | finite negative m => some (if negative then -(m.quanta : Int) else m.quanta)

def related (r : Int → Int → Bool) (x y : Binary64) : Bool :=
  match x.rank?, y.rank? with
  | some a, some b => r a b
  | _, _ => false

def lt (x y : Binary64) : Bool := related (fun a b => decide (a < b)) x y

def le (x y : Binary64) : Bool := related (fun a b => decide (a ≤ b)) x y

def same (x y : Binary64) : Bool := related (fun a b => decide (a = b)) x y

/-- The lesser of two numbers, the first of equal ones; the other one if one is NaN. -/
def min (x y : Binary64) : Binary64 := if x.isNaN then y else if lt y x then y else x

def max (x y : Binary64) : Binary64 := if x.isNaN then y else if lt x y then y else x

def mul : Binary64 → Binary64 → Binary64
  | nan, _ => nan
  | _, nan => nan
  | infinite s, infinite t => infinite (s != t)
  | infinite s, finite t m => if m.quanta = 0 then nan else infinite (s != t)
  | finite s m, infinite t => if m.quanta = 0 then nan else infinite (s != t)
  | finite s m, finite t n => ofQuotient (s != t) (m.quanta * n.quanta) quantaPerUnit

def div : Binary64 → Binary64 → Binary64
  | nan, _ => nan
  | _, nan => nan
  | infinite _, infinite _ => nan
  | infinite s, finite t _ => infinite (s != t)
  | finite s _, infinite t => finite (s != t) .zero
  | finite s m, finite t n =>
    if n.quanta = 0 then (if m.quanta = 0 then nan else infinite (s != t))
    else ofQuotient (s != t) (m.quanta * quantaPerUnit) n.quanta

def round : Binary64 → Binary64
  | finite s m => finite s m.round
  | x => x

def toBits : Binary64 → Nat
  | nan => 0x7FF8000000000000
  | infinite s => (if s then 0x8000000000000000 else 0) + 0x7FF0000000000000
  | finite s m =>
    let q := m.quanta
    let magnitude :=
      if q < 0x10000000000000 then q
      else excess q * 0x10000000000000 + q / Nat.pow 2 (excess q)
    (if s then 0x8000000000000000 else 0) + magnitude

def toHex (x : Binary64) : String :=
  let digits := Nat.toDigits 16 x.toBits
  String.ofList (List.replicate (16 - digits.length) '0' ++ digits)

end Binary64

end BoardFilter
