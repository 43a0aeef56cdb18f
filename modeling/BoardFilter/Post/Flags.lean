import BoardFilter.Text.Blank

/-!
# Moderation flags

Eight bits, of which the lower six have names. Flags are written as the names of the set ones and,
for bits without a name, one hexadecimal number, joined by bars.
-/

namespace BoardFilter

structure Flags where
  bits : UInt8
deriving DecidableEq, Repr, Inhabited

inductive Flag where
  | pending
  | flagged
  | deleted
  | ratingLocked
  | noteLocked
  | statusLocked
deriving DecidableEq, Repr

namespace Flag

def all : List Flag := [pending, flagged, deleted, ratingLocked, noteLocked, statusLocked]

def bit : Flag → UInt8
  | pending => 1
  | flagged => 2
  | deleted => 4
  | ratingLocked => 8
  | noteLocked => 16
  | statusLocked => 32

def label : Flag → String
  | pending => "PENDING"
  | flagged => "FLAGGED"
  | deleted => "DELETED"
  | ratingLocked => "RATING_LOCKED"
  | noteLocked => "NOTE_LOCKED"
  | statusLocked => "STATUS_LOCKED"

def ofLabel? (s : String) : Option Flag := all.find? fun f => f.label = s

end Flag

namespace Flags

def none : Flags := ⟨0⟩

def named : UInt8 := Flag.all.foldl (fun b f => b ||| f.bit) 0

def ofBits (bits : UInt8) : Flags := ⟨bits &&& named⟩

def has (flags : Flags) (f : Flag) : Bool := flags.bits &&& f.bit ≠ 0

def add (flags : Flags) (f : Flag) (on : Bool) : Flags :=
  if on then ⟨flags.bits ||| f.bit⟩ else flags

def union (a b : Flags) : Flags := ⟨a.bits ||| b.bits⟩

def isActive (flags : Flags) : Bool :=
  !(flags.has .pending || flags.has .flagged || flags.has .deleted)

def status? (flags : Flags) : String → Option Bool
  | "pending" => some (flags.has .pending)
  | "flagged" => some (flags.has .flagged)
  | "deleted" => some (flags.has .deleted)
  | "active" => some flags.isActive
  | "ratinglocked" | "rating_locked" => some (flags.has .ratingLocked)
  | "notelocked" | "note_locked" => some (flags.has .noteLocked)
  | "statuslocked" | "status_locked" => some (flags.has .statusLocked)
  | _ => Option.none

def hexText (bits : UInt8) : String := "0x" ++ String.ofList (Nat.toDigits 16 bits.toNat)

def parts (flags : Flags) : List String :=
  let unnamed := flags.bits &&& ~~~named
  (Flag.all.filter flags.has).map Flag.label ++ (if unnamed = 0 then [] else [hexText unnamed])

def toText (flags : Flags) : String := String.intercalate " | " flags.parts

def hexDigitsValue? (s : List Char) : Option Nat :=
  s.foldlM (fun n c =>
    if c.isDigit then some (n * 16 + (c.toNat - '0'.toNat))
    else
      let l := c.toLower
      if 'a' ≤ l ∧ l ≤ 'f' then some (n * 16 + (l.toNat - 'a'.toNat + 10)) else Option.none) 0

def ofHex? (s : List Char) : Option Flags :=
  let digits := match s with
    | '+' :: r => r
    | r => r
  if digits.isEmpty then Option.none
  else (hexDigitsValue? digits).bind fun n =>
    if n < 256 then some ⟨n.toUInt8⟩ else Option.none

def ofPart? (s : List Char) : Option Flags :=
  match Text.dropLead? "0x" s with
  | some digits => ofHex? digits
  | Option.none => (Flag.ofLabel? (String.ofList s)).map fun f => ⟨f.bit⟩

def ofText? (s : String) : Option Flags :=
  if Text.isBlankText s then some none
  else
    ((s.toList.splitOnP (· == '|')).mapM fun p => ofPart? (Text.trimmed p)).map fun l =>
      l.foldl union none

end Flags

end BoardFilter
