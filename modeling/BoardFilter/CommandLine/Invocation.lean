import BoardFilter.CommandLine.Grammar
import BoardFilter.Number.Decimal

/-!
# The commands

What can be asked of the program, and the grammar in which it is asked.
-/

namespace BoardFilter

inductive Command where
  | search (tags : List String) (page pages limit : Nat)
  | posts (ids : List Nat)
  | check (file : String)
  | listLines
  | addLine (line : String)
  | removeLine (line : String)
  | toggleLine (line : String)
  | enableAll
  | disableAll
  | syncFavorites
  | countFavorites
deriving DecidableEq, Repr, Inhabited

structure Invocation where
  command : Command
  configDir : Option String
  visibleOnly : Bool
  quiet : Bool
deriving DecidableEq, Repr, Inhabited

namespace CommandLine

def signed? (s : String) : Option Int :=
  let (negative, digits) := Decimal.spanSign s.toList
  if digits.isEmpty || !digits.all Char.isDigit then none
  else
    let n : Int := Decimal.natOfDigits digits
    some (if negative then -n else n)

def id? (s : String) : Option Nat :=
  if s.startsWith "-" then none
  else (signed? s).bind fun n => if n < 0x10000000000000000 then some n.toNat else none

def checkPath (s : String) : Option Refusal := if s.isEmpty then some .emptyValue else none

def checkId (s : String) : Option Refusal := if (id? s).isNone then some .badValue else none

def checkUpTo (limit : Int) (s : String) : Option Refusal :=
  if (signed? s).any fun n => 1 ≤ n && n ≤ limit then none else some .badValue

def common : List Switch :=
  [{ name := "config-dir", effect := .value checkPath },
    { name := "visible-only", effect := .flag },
    { name := "quiet", letter := some 'q', effect := .flag },
    { name := "help", letter := some 'h', effect := .help }]

def lineLevel : Level := { switches := common, operand := some { many := true, hyphens := true } }

def grammar : Grammar
  | [] =>
    { switches := common ++ [{ name := "version", letter := some 'V', effect := .version }]
      commands := ["search", "posts", "check", "blacklist", "favorites"] }
  | ["search"] =>
    { switches := common ++
        [{ name := "page", letter := some 'p', effect := .value (checkUpTo 750) },
          { name := "pages", effect := .value (checkUpTo 50) },
          { name := "limit", letter := some 'l', effect := .value (checkUpTo 320) }]
      operand := some { many := true, hyphens := true } }
  | ["posts"] => { switches := common, operand := some { many := true, check := checkId } }
  | ["check"] => { switches := common, operand := some { many := false, check := checkPath } }
  | ["blacklist"] =>
    { switches := common
      commands := ["list", "add", "remove", "toggle", "enable-all", "disable-all"] }
  | ["blacklist", "add"] | ["blacklist", "remove"] | ["blacklist", "toggle"] => lineLevel
  | ["favorites"] => { switches := common, commands := ["sync", "count"] }
  | _ => { switches := common }

def numberOf (m : Matches) (name : String) (default : Nat) : Nat :=
  match (m.value? name).bind signed? with
  | some n => n.toNat
  | none => default

def commandOf? (path : List String) (m : Matches) : Option Command :=
  let line := String.intercalate " " m.operands
  match path with
  | ["search"] =>
    some (.search m.operands (numberOf m "page" 1) (numberOf m "pages" 1) (numberOf m "limit" 75))
  | ["posts"] => some (.posts (m.operands.filterMap id?))
  | ["check"] => m.operands.head?.map .check
  | ["blacklist", "list"] => some .listLines
  | ["blacklist", "add"] => some (.addLine line)
  | ["blacklist", "remove"] => some (.removeLine line)
  | ["blacklist", "toggle"] => some (.toggleLine line)
  | ["blacklist", "enable-all"] => some .enableAll
  | ["blacklist", "disable-all"] => some .disableAll
  | ["favorites", "sync"] => some .syncFavorites
  | ["favorites", "count"] => some .countFavorites
  | _ => none

end CommandLine

namespace Invocation

open CommandLine

/-- Reads a command line. Of a value that is given on several levels the innermost one counts. -/
def ofArguments (args : List String) : Except Refusal Invocation := do
  let (path, read) ← parse grammar args
  match commandOf? path (read.getLast?.getD {}) with
  | none => throw .nothingAsked
  | some command =>
    return {
      command
      configDir := read.reverse.findSome? (·.value? "config-dir")
      visibleOnly := read.any (·.flags.contains "visible-only")
      quiet := read.any (·.flags.contains "quiet") }

end Invocation

end BoardFilter
