/-!
# Punycode

A label of a domain in ASCII: its ASCII characters in order, and then for each other character, in
ascending order, how far it lies from the one before it. The distances are numerals of variable
length in base 36 whose thresholds adapt to the distances seen so far.
-/

namespace BoardFilter.Punycode

def digit (d : Nat) : Char := if d < 26 then Char.ofNat (d + 0x61) else Char.ofNat (d - 26 + 0x30)

def digit? (c : Char) : Option Nat :=
  if 'a' ≤ c ∧ c ≤ 'z' then some (c.toNat - 0x61)
  else if 'A' ≤ c ∧ c ≤ 'Z' then some (c.toNat - 0x41)
  else if '0' ≤ c ∧ c ≤ '9' then some (c.toNat - 0x30 + 26)
  else none

def threshold (place bias : Nat) : Nat := min 26 (max 1 (place - bias))

theorem threshold_pos (place bias : Nat) : 1 ≤ threshold place bias := by
  unfold threshold
  omega

def settle (bias distance : Nat) : Nat :=
  if 455 < distance then settle (bias + 36) (distance / 35)
  else bias + 36 * distance / (distance + 38)
termination_by distance
decreasing_by omega

def adapt (distance count : Nat) (first : Bool) : Nat :=
  let distance := if first then distance / 700 else distance / 2
  settle 0 (distance + distance / count)

def numeral (bias place distance : Nat) : List Char :=
  let t := threshold place bias
  if distance < t then [digit distance]
  else
    digit (t + (distance - t) % (36 - t)) :: numeral bias (place + 36) ((distance - t) / (36 - t))
termination_by distance
decreasing_by
  have := threshold_pos place bias
  have := Nat.div_le_self (distance - threshold place bias) (36 - threshold place bias)
  omega

structure Progress where
  output : List Char
  distance : Nat
  bias : Nat
  done : Nat

def pass (basic code : Nat) (p : Progress) (c : Char) : Progress :=
  if c.toNat < code then { p with distance := p.distance + 1 }
  else if c.toNat = code then
    { output := p.output ++ numeral p.bias 36 p.distance
      distance := 0
      bias := adapt p.distance (p.done + 1) (p.done = basic)
      done := p.done + 1 }
  else p

def writeCodes (label : List Char) (basic : Nat) : List Nat → Nat → Progress → Progress
  | [], _, p => p
  | code :: codes, next, p =>
    let p := { p with distance := p.distance + (code - next) * (p.done + 1) }
    let p := label.foldl (pass basic code) p
    writeCodes label basic codes (code + 1) { p with distance := p.distance + 1 }

def encode (label : List Char) : List Char :=
  let basic := label.filter fun c => c.toNat < 0x80
  let codes := ((label.filter fun c => 0x80 ≤ c.toNat).map Char.toNat).mergeSort.eraseDups
  basic ++ (if basic.isEmpty then [] else ['-']) ++
    (writeCodes label basic.length codes 0x80 ⟨[], 0, 72, basic.length⟩).output

def readNumeral? (bias : Nat) : Nat → Nat → Nat → List Char → Option (Nat × List Char)
  | _, _, _, [] => none
  | place, weight, total, c :: r =>
    match digit? c with
    | none => none
    | some d =>
      let t := threshold place bias
      if d < t then some (total + d * weight, r)
      else readNumeral? bias (place + 36) (weight * (36 - t)) (total + d * weight) r

/-- Reads distances and puts each character in its place. Every distance takes up a character, so
the length of the text bounds the steps. -/
def readCodes? : Nat → Nat → Nat → Nat → List Char → List Char → Option (List Char)
  | _, _, _, _, label, [] => some label
  | 0, _, _, _, _, _ :: _ => none
  | steps + 1, bias, code, index, label, c :: r =>
    match readNumeral? bias 36 1 index (c :: r) with
    | none => none
    | some (total, r) =>
      let count := label.length + 1
      let code := code + total / count
      if code.isValidChar then
        readCodes? steps (adapt (total - index) count (index = 0)) code (total % count + 1)
          (label.insertIdx (total % count) (Char.ofNat code)) r
      else none

def decode? (s : List Char) : Option (List Char) :=
  let (tail, head) := s.reverse.span (· ≠ '-')
  readCodes? (s.length + 1) 72 0x80 0 (head.drop 1).reverse tail.reverse

end BoardFilter.Punycode
