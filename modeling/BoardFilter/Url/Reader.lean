import BoardFilter.Url.Basic

/-!
# Reading URLs

A text is read from the left: blanks and controls at the ends and line breaks anywhere do not
count, the scheme ends at the first colon, the authority follows two slashes, and what is left is
the path up to the first question mark or number sign, the query up to the first number sign and
the fragment.
-/

namespace BoardFilter.Url

inductive Kind where
  | web (port : Nat)
  | file
  | other
deriving DecidableEq, Repr

def webSchemes : List (String × Nat) :=
  [("http", 80), ("https", 443), ("ws", 80), ("wss", 443), ("ftp", 21)]

namespace Kind

def ofScheme (scheme : String) : Kind :=
  match webSchemes.lookup scheme with
  | some port => web port
  | none => if scheme = "file" then file else other

def isWeb : Kind → Bool
  | web _ => true
  | _ => false

def isSlash (kind : Kind) (c : Char) : Bool := c = '/' || (c = '\\' && kind ≠ other)

def endsAuthority (kind : Kind) (c : Char) : Bool := kind.isSlash c || c = '?' || c = '#'

end Kind

def cleaned (s : List Char) : List Char :=
  let edge (c : Char) := decide (c.toNat ≤ 0x20)
  (Text.dropEndWhile edge (s.dropWhile edge)).filter fun c =>
    !(c = '\t' || c = '\n' || c = '\r')

def readScheme? (s : List Char) : Option (String × List Char) :=
  match s.span fun c => c.isAlphanum || c = '+' || c = '-' || c = '.' with
  | (c :: r, ':' :: rest) =>
    if c.isAlpha then some (String.ofList ((c :: r).map Char.toLower), rest) else none
  | _ => none

def cut (p : Char → Bool) (s : List Char) : List Char × Option (List Char) :=
  match s.span fun c => !p c with
  | (a, []) => (a, none)
  | (a, _ :: b) => (a, some b)

def cutUser (s : List Char) : Option (List Char) × List Char :=
  match s.reverse.span (· ≠ '@') with
  | (host, _ :: user) => (some user.reverse, host.reverse)
  | (host, []) => (none, host.reverse)

def cutPort : Bool → List Char → List Char × Option (List Char)
  | _, [] => ([], none)
  | bracket, c :: r =>
    if c = ':' && !bracket then ([], some r)
    else
      let bracket := if c = '[' then true else if c = ']' then false else bracket
      let (host, port) := cutPort bracket r
      (c :: host, port)

/-- Reads a port and gives what follows it, which has to begin with a backslash. An empty port and
the usual one of the scheme go without saying. -/
def readPort (kind : Kind) (s : List Char) : Except Fault (Option Nat × List Char) :=
  let (digits, rest) := s.span Char.isDigit
  let port := digits.foldl (fun n c => n * 10 + (c.toNat - '0'.toNat)) 0
  if 0xFFFF < port then .error .badPort
  else if rest.head?.any (· ≠ '\\') then .error .badPort
  else .ok (if digits.isEmpty ∨ kind = .web port then none else some port, rest)

def readAuthority (kind : Kind) (s : List Char) : Except Fault (Authority × List Char) := do
  let (text, rest) := s.span fun c => !kind.endsAuthority c
  let (user, place) := cutUser text
  if user = some [] && place.isEmpty && !rest.isEmpty then throw .emptyHost
  let (name, password) := cut (· == ':') (user.getD [])
  let written (s : List Char) := String.ofList (escape userSpecial s)
  let (host, port) := cutPort false place
  let host ← if kind.isWeb then Host.ofWeb host else Host.ofOpaque host
  let password := password.getD []
  if host.isEmpty && (port.isSome || !name.isEmpty || !password.isEmpty) then throw .emptyHost
  let (port, after) ← readPort kind (port.getD [])
  return ({ user := written name, password := written password, host, port }, after ++ rest)

def isSingleDot (s : String) : Bool := s = "." || s = "%2e" || s = "%2E"

def isDoubleDot (s : String) : Bool :=
  s = ".." || s = ".%2e" || s = ".%2E" || s = "%2e." || s = "%2E." || s = "%2e%2e" || s = "%2e%2E"
    || s = "%2E%2e" || s = "%2E%2E"

def drive? (s : List Char) : Option (Char × List Char) :=
  match s with
  | c :: d :: r => if c.isAlpha && (d = ':' || d = '|') then some (c, r) else none
  | _ => none

def isDrive (s : List Char) : Bool := (drive? s).any (·.2.isEmpty)

def above : List String → List String
  | [] => []
  | s :: r => if (drive? s.toList).any fun d => d.2.head?.all (· = '\\') then s :: r else r

def driveName (s : String) : String :=
  match drive? s.toList with
  | some (c, []) => String.ofList [c, ':']
  | _ => s

/-- Puts segments onto a path, which is kept in reverse; those that mean a place are resolved.
`drives` says whether a path may begin with a drive. -/
def resolve (drives : Bool) (path : List String) : List String → List String
  | [] => path
  | s :: rest =>
    let path :=
      if isDoubleDot s then (if rest.isEmpty then "" :: above path else above path)
      else if isSingleDot s then (if rest.isEmpty then "" :: path else path)
      else if drives && path.isEmpty then [driveName s]
      else s :: path
    resolve drives path rest

def readSegments (kind : Kind) (s : List Char) : List String :=
  let segments := (s.splitOnP kind.isSlash).map fun p => String.ofList (escape pathSpecial p)
  (resolve (kind = .file) [] segments).reverse

def dropSlash (kind : Kind) : List Char → List Char
  | c :: r => if kind.isSlash c then r else c :: r
  | [] => []

def filePath (segments : List String) : Path :=
  let kept := segments.dropWhile (·.isEmpty)
  .segments (if kept.isEmpty then [""] else kept)

structure Body where
  authority : Option Authority
  path : Path
  tail : List Char

def endsPath (c : Char) : Bool := c = '?' || c = '#'

def readWeb (kind : Kind) (s : List Char) : Except Fault Body := do
  let (authority, rest) ← readAuthority kind (s.dropWhile kind.isSlash)
  let (path, tail) := rest.span fun c => !endsPath c
  return ⟨some authority, .segments (readSegments kind (dropSlash kind path)), tail⟩

/-- Reads the host of a file and gives the path behind its first slash. A drive is no host, and
without a host the path has one slash more. -/
def readFileHost (s : List Char) : Except Fault (Host × List Char) :=
  match s with
  | a :: b :: r =>
    if Kind.file.isSlash a && Kind.file.isSlash b then
      let (host, path) := r.span fun c => !Kind.file.endsAuthority c
      if host.isEmpty || isDrive host then .ok (.domain "", r)
      else do return (← Host.ofWeb host, dropSlash .file path)
    else .ok (.domain "", dropSlash .file s)
  | s => .ok (.domain "", dropSlash .file s)

def readFile (s : List Char) : Except Fault Body := do
  let (host, rest) ← readFileHost s
  let (path, tail) := rest.span fun c => !endsPath c
  let segments := readSegments .file path
  let near := host = .domain "localhost" || segments.head?.any fun s => isDrive s.toList
  return ⟨some { host := if near then .domain "" else host }, filePath segments, tail⟩

def readOther (s : List Char) : Except Fault Body :=
  match s with
  | '/' :: '/' :: r => do
    let (authority, rest) ← readAuthority .other r
    let (path, tail) := rest.span fun c => !endsPath c
    let segments := if path.isEmpty then [] else readSegments .other (dropSlash .other path)
    return ⟨some authority, .segments segments, tail⟩
  | s =>
    let (path, tail) := s.span fun c => !endsPath c
    let path := match path with
      | '/' :: r => .segments (readSegments .other r)
      | s => .whole (String.ofList (escape [] s))
    .ok ⟨none, path, tail⟩

def parse (s : String) : Except Fault Url :=
  match readScheme? (cleaned s.toList) with
  | none => .error .noBase
  | some (scheme, rest) => do
    let kind := Kind.ofScheme scheme
    let ⟨authority, path, tail⟩ ← match kind with
      | .web _ => readWeb kind rest
      | .file => readFile rest
      | .other => readOther rest
    let (tail, fragment) := cut (· == '#') tail
    let (_, query) := cut (· == '?') tail
    return {
      scheme, authority, path
      query := query.map fun q => String.ofList (escape (querySpecial (kind ≠ .other)) q)
      fragment := fragment.map fun f => String.ofList (escape fragmentSpecial f) }

end BoardFilter.Url
