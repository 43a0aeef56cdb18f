import BoardFilter.Url.Domain.Label
import BoardFilter.Url.Percent

/-!
# Hosts

The host of a web URL is a domain in ASCII, an IPv4 address if its last label is a number, or an
IPv6 address in brackets. A URL of another scheme may have any other text for a host.
-/

namespace BoardFilter

namespace Url

inductive Fault where
  | noBase
  | emptyHost
  | badPort
  | badIpv4
  | badIpv6
  | badDomain
  | badHostCharacter
deriving DecidableEq, Repr

def Fault.message : Fault → String
  | noBase => "relative URL without a base"
  | emptyHost => "empty host"
  | badPort => "invalid port number"
  | badIpv4 => "invalid IPv4 address"
  | badIpv6 => "invalid IPv6 address"
  | badDomain => "invalid international domain name"
  | badHostCharacter => "invalid domain character"

def Fault.complaint (fault : Fault) (url : String) : String := url ++ ": " ++ fault.message

inductive Host where
  | domain (name : String)
  | ipv4 (address : Nat)
  | ipv6 (groups : List Nat)
deriving DecidableEq, Repr, Inhabited

namespace Host

def valueIn? (base : Nat) (s : List Char) : Option Nat :=
  s.foldlM (fun n c => (hexValue? c).bind fun d => if d < base then some (n * base + d) else none) 0

def part? (s : List Char) : Option Nat :=
  match s with
  | [] => none
  | '0' :: 'x' :: r | '0' :: 'X' :: r => valueIn? 16 r
  | '0' :: d :: r => valueIn? 8 (d :: r)
  | s => valueIn? 10 s

def labels (s : List Char) : List (List Char) :=
  let parts := s.splitOnP (· == '.')
  if parts.getLast? = some [] then parts.dropLast else parts

def endsInNumber (s : List Char) : Bool :=
  match (labels s).getLast? with
  | some last => (!last.isEmpty && last.all Char.isDigit) || (part? last).isSome
  | none => false

def ipv4? (s : List Char) : Option Nat :=
  let parts := labels s
  if 4 < parts.length then none
  else
    match (parts.mapM part?).map List.reverse with
    | some (last :: before) =>
      if before.any (255 < ·) || Nat.pow 256 (4 - before.length) ≤ last then none
      else some (before.reverse.zipIdx.foldl (fun n p => n + p.1 * Nat.pow 256 (3 - p.2)) last)
    | _ => none

def ipv4Text (address : Nat) : String :=
  String.intercalate "." ([3, 2, 1, 0].map fun i => toString (address / Nat.pow 256 i % 256))

def group? (s : List Char) : Option Nat :=
  if s.isEmpty || 4 < s.length then none else valueIn? 16 s

def byte? (s : List Char) : Option Nat :=
  if s.isEmpty || 3 < s.length || (1 < s.length && s.head? = some '0') then none
  else (valueIn? 10 s).bind fun n => if n < 256 then some n else none

def groups? (allowBytes : Bool) (s : List Char) : Option (List Nat) :=
  if s.isEmpty then some []
  else
    let parts := s.splitOnP (· == ':')
    match parts.getLast? with
    | some last =>
      if allowBytes && last.contains '.' then
        match (last.splitOnP (· == '.')).mapM byte?, parts.dropLast.mapM group? with
        | some [a, b, c, d], some groups => some (groups ++ [a * 256 + b, c * 256 + d])
        | _, _ => none
      else parts.mapM group?
    | none => none

def ipv6? (s : List Char) : Option (List Nat) :=
  match Text.splitAtLead "::" s with
  | [s] => (groups? true s).bind fun l => if l.length = 8 then some l else none
  | [a, b] =>
    match groups? false a, groups? true b with
    | some head, some tail =>
      if head.length + tail.length < 8 then
        some (head ++ List.replicate (8 - head.length - tail.length) 0 ++ tail)
      else none
    | _, _ => none
  | _ => none

def zeroRun (l : List Nat) : Nat := (l.takeWhile (· = 0)).length

def longestZeros (groups : List Nat) : Option (Nat × Nat) :=
  let runs := (List.range groups.length).map fun i => (i, zeroRun (groups.drop i))
  let best := runs.foldl (fun best r => if best.2 < r.2 then r else best) (0, 0)
  if 2 ≤ best.2 then some best else none

def ipv6Text (groups : List Nat) : String :=
  let text (l : List Nat) :=
    String.intercalate ":" (l.map fun g => String.ofList (Nat.toDigits 16 g))
  match longestZeros groups with
  | some (i, n) => text (groups.take i) ++ "::" ++ text (groups.drop (i + n))
  | none => text groups

def ofBrackets (s : List Char) : Except Fault Host :=
  match Text.dropTail? "]" s with
  | some s =>
    match ipv6? s with
    | some groups => .ok (.ipv6 groups)
    | none => .error .badIpv6
  | none => .error .badIpv6

def ofWeb (s : List Char) : Except Fault Host :=
  match s with
  | [] => .error .emptyHost
  | '[' :: r => ofBrackets r
  | s =>
    match (ofUtf8? (unescape s)).bind Domain.ascii? with
    | none => .error .badDomain
    | some [] => .error .emptyHost
    | some name =>
      if endsInNumber name then
        match ipv4? name with
        | some address => .ok (.ipv4 address)
        | none => .error .badIpv4
      else .ok (.domain (String.ofList name))

def ofOpaque (s : List Char) : Except Fault Host :=
  match s with
  | '[' :: r => ofBrackets r
  | s =>
    if s.any fun c => c.toNat = 0 || "\t\n\r #/:<>?@[\\]^|".toList.contains c then
      .error .badHostCharacter
    else .ok (.domain (String.ofList (escape [] s)))

def toText : Host → String
  | domain name => name
  | ipv4 address => ipv4Text address
  | ipv6 groups => "[" ++ ipv6Text groups ++ "]"

def isEmpty : Host → Bool
  | domain name => name.isEmpty
  | _ => false

end Host

end Url

end BoardFilter
