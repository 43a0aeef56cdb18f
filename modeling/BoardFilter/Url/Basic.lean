import BoardFilter.Url.Host

/-!
# URLs

A URL in its normal form: every part is kept as it is written, with the escapes that its place
demands.
-/

namespace BoardFilter

inductive Url.Path where
  | whole (s : String)
  | segments (l : List String)
deriving DecidableEq, Repr, Inhabited

structure Url.Authority where
  user : String := ""
  password : String := ""
  host : Url.Host
  port : Option Nat := none
deriving DecidableEq, Repr, Inhabited

structure Url where
  scheme : String
  authority : Option Url.Authority
  path : Url.Path
  query : Option String := none
  fragment : Option String := none
deriving DecidableEq, Repr, Inhabited

namespace Url

def Authority.toText (a : Authority) : String :=
  let password := if a.password.isEmpty then "" else ":" ++ a.password
  let user := if a.user.isEmpty && a.password.isEmpty then "" else a.user ++ password ++ "@"
  let port := match a.port with
    | some port => ":" ++ toString port
    | none => ""
  user ++ a.host.toText ++ port

def Path.toText : Path → String
  | whole s => s
  | segments l => String.join (l.map fun s => "/" ++ s)

/-- A path that begins with two slashes would be taken for a host. -/
def Path.guard (path : Path) : String :=
  match path with
  | segments ("" :: _ :: _) => "/."
  | _ => ""

def toText (u : Url) : String :=
  let place := match u.authority with
    | some a => "//" ++ a.toText
    | none => u.path.guard
  let query := match u.query with
    | some q => "?" ++ q
    | none => ""
  let fragment := match u.fragment with
    | some f => "#" ++ f
    | none => ""
  u.scheme ++ ":" ++ place ++ u.path.toText ++ query ++ fragment

end Url

end BoardFilter
