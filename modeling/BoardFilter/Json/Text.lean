/-!
# JSON texts

Between its quotes a text holds characters that stand for themselves and escapes. Quotes,
backslashes and control characters are always escaped; a character beyond the first plane may be
escaped as a pair of surrogates, and a surrogate outside such a pair is refused.
-/

namespace BoardFilter.Json

def hexDigit? (c : Char) : Option Nat :=
  if '0' ≤ c ∧ c ≤ '9' then some (c.toNat - '0'.toNat)
  else if 'a' ≤ c ∧ c ≤ 'f' then some (c.toNat - 'a'.toNat + 10)
  else if 'A' ≤ c ∧ c ≤ 'F' then some (c.toNat - 'A'.toNat + 10)
  else none

def readHex4? : List Char → Option (Nat × List Char)
  | a :: b :: c :: d :: r =>
    match hexDigit? a, hexDigit? b, hexDigit? c, hexDigit? d with
    | some a, some b, some c, some d => some (((a * 16 + b) * 16 + c) * 16 + d, r)
    | _, _, _, _ => none
  | _ => none

def readUnit? (s : List Char) : Option (Char × List Char) :=
  match readHex4? s with
  | none => none
  | some (unit, r) =>
    if unit < 0xD800 ∨ 0xDFFF < unit then some (Char.ofNat unit, r)
    else if 0xDC00 ≤ unit then none
    else match r with
      | '\\' :: 'u' :: r =>
        match readHex4? r with
        | some (low, r) =>
          if 0xDC00 ≤ low ∧ low ≤ 0xDFFF then
            some (Char.ofNat (0x10000 + (unit - 0xD800) * 0x400 + (low - 0xDC00)), r)
          else none
        | none => none
      | _ => none

def plainEscape? : Char → Option Char
  | '"' => some '"'
  | '\\' => some '\\'
  | '/' => some '/'
  | 'b' => some '\x08'
  | 'f' => some '\x0c'
  | 'n' => some '\n'
  | 'r' => some '\r'
  | 't' => some '\t'
  | _ => none

theorem readHex4?_length {s r : List Char} {n : Nat} (h : readHex4? s = some (n, r)) :
    r.length < s.length := by
  unfold readHex4? at h
  split at h
  · split at h
    · simp only [Option.some.injEq, Prod.mk.injEq] at h
      obtain ⟨-, rfl⟩ := h
      simp only [List.length_cons]
      omega
    · cases h
  · cases h

theorem readUnit?_length {s r : List Char} {c : Char} (h : readUnit? s = some (c, r)) :
    r.length < s.length := by
  unfold readUnit? at h
  split at h
  · cases h
  next unit r' h4 =>
    have hl := readHex4?_length h4
    split at h
    · simp only [Option.some.injEq, Prod.mk.injEq] at h
      obtain ⟨-, rfl⟩ := h
      exact hl
    split at h
    · cases h
    split at h
    next r'' =>
      split at h
      next low r3 h5 =>
        have hl5 := readHex4?_length h5
        split at h
        · simp only [Option.some.injEq, Prod.mk.injEq] at h
          obtain ⟨-, rfl⟩ := h
          simp only [List.length_cons] at hl
          omega
        · cases h
      · cases h
    · cases h

/-- Reads a text up to its closing quote and gives the rest; `done` is what was read, in reverse. -/
def readText? (done : List Char) : List Char → Option (List Char × List Char)
  | [] => none
  | '"' :: r => some (done.reverse, r)
  | '\\' :: 'u' :: r =>
    match h : readUnit? r with
    | some (c, rest) =>
      have : rest.length < r.length := readUnit?_length h
      readText? (c :: done) rest
    | none => none
  | '\\' :: e :: r =>
    match plainEscape? e with
    | some c => readText? (c :: done) r
    | none => none
  | c :: r => if c.toNat < 0x20 ∨ c = '\\' then none else readText? (c :: done) r
termination_by s => s.length
decreasing_by all_goals (simp only [List.length_cons]; omega)

def hexDigit (n : Nat) : Char := Nat.digitChar n

def escaped (c : Char) : List Char :=
  if c = '"' then ['\\', '"']
  else if c = '\\' then ['\\', '\\']
  else if c = '\n' then ['\\', 'n']
  else if c = '\r' then ['\\', 'r']
  else if c = '\t' then ['\\', 't']
  else if c = '\x08' then ['\\', 'b']
  else if c = '\x0c' then ['\\', 'f']
  else if c.toNat < 0x20 then
    ['\\', 'u', '0', '0', hexDigit (c.toNat / 16), hexDigit (c.toNat % 16)]
  else [c]

def quoted (s : List Char) : List Char := '"' :: (s.flatMap escaped ++ ['"'])

end BoardFilter.Json
