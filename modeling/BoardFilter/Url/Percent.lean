import BoardFilter.Text.Blank

/-!
# Percent escapes

A character that a place of a URL does not allow is written as its UTF-8 bytes, each as a percent
sign and two hexadecimal digits. Characters beyond ASCII are always escaped.
-/

namespace BoardFilter.Url

def hexDigit (n : Nat) : Char := (Nat.digitChar n).toUpper

def escapeByte (b : UInt8) : List Char := ['%', hexDigit (b.toNat / 16), hexDigit (b.toNat % 16)]

def utf8 (s : List Char) : List UInt8 := s.flatMap String.utf8EncodeChar

def escapeChar (c : Char) : List Char := (String.utf8EncodeChar c).flatMap escapeByte

def isControl (c : Char) : Bool := c.toNat < 0x20 || c.toNat = 0x7F

def escape (special : List Char) (s : List Char) : List Char :=
  s.flatMap fun c =>
    if isControl c || 0x80 ≤ c.toNat || special.contains c then escapeChar c else [c]

def fragmentSpecial : List Char := [' ', '"', '<', '>', '\x60']

def querySpecial (web : Bool) : List Char :=
  [' ', '"', '#', '<', '>'] ++ if web then ['\x27'] else []

def pathSpecial : List Char := fragmentSpecial ++ ['#', '?', '{', '}']

def userSpecial : List Char := pathSpecial ++ ['/', ':', ';', '=', '@', '[', '\\', ']', '^', '|']

def hexValue? (c : Char) : Option Nat :=
  if '0' ≤ c ∧ c ≤ '9' then some (c.toNat - '0'.toNat)
  else if 'a' ≤ c ∧ c ≤ 'f' then some (c.toNat - 'a'.toNat + 10)
  else if 'A' ≤ c ∧ c ≤ 'F' then some (c.toNat - 'A'.toNat + 10)
  else none

def unescape : List Char → List UInt8
  | '%' :: a :: b :: r =>
    match hexValue? a, hexValue? b with
    | some x, some y => (x * 16 + y).toUInt8 :: unescape r
    | _, _ => String.utf8EncodeChar '%' ++ unescape (a :: b :: r)
  | c :: r => String.utf8EncodeChar c ++ unescape r
  | [] => []

def ofUtf8? (bytes : List UInt8) : Option (List Char) :=
  (String.fromUTF8? ⟨bytes.toArray⟩).map String.toList

end BoardFilter.Url
