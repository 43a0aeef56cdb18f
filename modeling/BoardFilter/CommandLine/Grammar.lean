/-!
# Grammars of a command line

A command line names a command, maybe one below another, with options and operands on every level.
Options come in a long form, with a value after an equals sign or as the next argument, and some in
a short form, several of which may stand together. After `--` everything is an operand. A value is
checked when the next argument begins something else, so of two faults the one that is found first
prevails.
-/

namespace BoardFilter.CommandLine

inductive Refusal where
  | help
  | version
  | nothingAsked
  | commandMissing
  | operandMissing
  | unknownArgument
  | unknownCommand
  | emptyValue
  | badValue
  | repeatedOption
  | unexpectedValue
deriving DecidableEq, Repr, Inhabited

def Refusal.message : Refusal → String
  | help => "help was asked for"
  | version => "the version was asked for"
  | nothingAsked => "nothing was asked for"
  | commandMissing => "a command is missing"
  | operandMissing => "an operand is missing"
  | unknownArgument => "unexpected argument"
  | unknownCommand => "unrecognized command"
  | emptyValue => "an option lacks its value"
  | badValue => "a value is not allowed"
  | repeatedOption => "an option is given twice"
  | unexpectedValue => "an option takes no value"

inductive Effect where
  | help
  | version
  | flag
  | value (check : String → Option Refusal)

structure Switch where
  name : String
  letter : Option Char := none
  effect : Effect

/-- With `hyphens` an operand may begin with a hyphen, and from the first one on all of them may. -/
structure Operand where
  many : Bool
  hyphens : Bool := false
  check : String → Option Refusal := fun _ => none

/-- What may be said to a command. -/
structure Level where
  switches : List Switch
  operand : Option Operand := none
  commands : List String := []

abbrev Grammar := List String → Level

structure Matches where
  flags : List String := []
  values : List (String × String) := []
  operands : List String := []
deriving DecidableEq, Repr, Inhabited

def Matches.value? (m : Matches) (name : String) : Option String :=
  (m.values.find? fun v => v.1 = name).map (·.2)

/-- What was read and not checked yet. -/
inductive Pending where
  | nothing
  | option (s : Switch) (value : Option String)
  | operands (values : List String)

structure Scan where
  read : Matches := {}
  pending : Pending := .nothing
  trailing : Bool := false

namespace Level

def helpCommand : String := "help"

def hasCommand (l : Level) (name : String) : Bool :=
  l.commands.contains name || (!l.commands.isEmpty && name = helpCommand)

def byName? (l : Level) (name : String) : Option Switch := l.switches.find? fun s => s.name = name

def byLetter? (l : Level) (c : Char) : Option Switch :=
  l.switches.find? fun s => s.letter = some c

def next? (l : Level) (st : Scan) : Option Operand :=
  l.operand.filter fun o =>
    o.many || match st.pending with
      | .operands _ => false
      | _ => st.read.operands.isEmpty

def takesAll (l : Level) (st : Scan) : Bool :=
  match st.pending with
  | .operands _ => l.operand.any fun o => o.many && o.hyphens
  | _ => false

def isOpen (l : Level) (st : Scan) : Bool :=
  match st.pending with
  | .nothing => false
  | .option _ value => value.isNone
  | .operands _ => l.operand.any (·.many)

/-- Whether an argument that looks like an unknown option may be an operand. -/
def admitsHyphens (l : Level) (st : Scan) : Bool := (l.next? st).any (·.hyphens)

end Level

namespace Scan

def give (st : Scan) (s : Switch) (value : String) : Except Refusal Scan :=
  if (st.read.value? s.name).isSome then .error .repeatedOption
  else
    match s.effect with
    | .value check =>
      match check value with
      | some refusal => .error refusal
      | none => .ok { st with read.values := st.read.values ++ [(s.name, value)] }
    | _ => .ok st

def settle (l : Level) (st : Scan) : Except Refusal Scan :=
  let clear := { st with pending := .nothing }
  match st.pending with
  | .nothing => .ok st
  | .option _ none => .error .emptyValue
  | .option s (some value) => clear.give s value
  | .operands values =>
    match l.operand.bind fun o => values.findSome? o.check with
    | some refusal => .error refusal
    | none => .ok { clear with read.operands := st.read.operands ++ values }

def act (l : Level) (st : Scan) (s : Switch) : Except Refusal Scan := do
  let st ← st.settle l
  match s.effect with
  | .help => throw .help
  | .version => throw .version
  | _ =>
    if st.read.flags.contains s.name then throw .repeatedOption
    return { st with read.flags := st.read.flags ++ [s.name] }

def await (l : Level) (st : Scan) (s : Switch) : Except Refusal Scan := do
  let st ← st.settle l
  return { st with pending := .option s none }

def takesValue (s : Switch) : Bool :=
  match s.effect with
  | .value _ => true
  | _ => false

def readLong (l : Level) (st : Scan) (text : List Char) : Except Refusal (Option Scan) :=
  if l.takesAll st then .ok none
  else
    let (name, rest) := text.span (· != '=')
    match l.byName? (String.ofList name), rest with
    | some s, _ :: value =>
      if takesValue s then do
        let st ← st.settle l
        some <$> st.give s (String.ofList value)
      else .error .unexpectedValue
    | some s, [] => some <$> if takesValue s then st.await l s else st.act l s
    | none, _ => if l.admitsHyphens st then .ok none else .error .unknownArgument

def readLetters (l : Level) (st : Scan) : List Char → Except Refusal Scan
  | [] => .ok st
  | c :: rest =>
    match l.byLetter? c with
    | none => .error .unknownArgument
    | some s =>
      if takesValue s then
        match rest with
        | [] => st.await l s
        | '=' :: value => do (← st.settle l).give s (String.ofList value)
        | value => do (← st.settle l).give s (String.ofList value)
      else do readLetters l (← st.act l s) rest

def readShort (l : Level) (st : Scan) (letters : List Char) : Except Refusal (Option Scan) :=
  if l.takesAll st || (l.admitsHyphens st && letters.any fun c => (l.byLetter? c).isNone) then
    .ok none
  else some <$> st.readLetters l letters

def stray (l : Level) (st : Scan) (arg : String) : Refusal :=
  if st.trailing && l.hasCommand arg then .unknownArgument
  else if l.commands.isEmpty then .unknownArgument
  else .unknownCommand

def readOperand (l : Level) (st : Scan) (arg : String) : Except Refusal Scan :=
  match l.next? st with
  | none => .error (st.stray l arg)
  | some _ =>
    match st.pending with
    | .operands values => .ok { st with pending := .operands (values ++ [arg]) }
    | _ => do
      let st ← st.settle l
      return { st with pending := .operands [arg] }

def readValue (l : Level) (st : Scan) (arg : String) : Except Refusal Scan :=
  match st.pending with
  | .option s none => .ok { st with pending := .option s (some arg) }
  | _ => st.readOperand l arg

def step (l : Level) (st : Scan) (arg : String) : Except Refusal Scan :=
  if st.trailing then st.readOperand l arg
  else
    match arg.toList with
    | ['-', '-'] =>
      if l.takesAll st then st.readValue l arg else .ok { st with trailing := true }
    | '-' :: '-' :: text => do
      match ← st.readLong l text with
      | some st => return st
      | none => st.readValue l arg
    | '-' :: c :: letters => do
      match ← st.readShort l (c :: letters) with
      | some st => return st
      | none => st.readValue l arg
    | _ => st.readValue l arg

def finish (l : Level) (st : Scan) : Except Refusal Matches := do
  let read := (← st.settle l).read
  if !l.commands.isEmpty then
    throw (if read.flags.isEmpty && read.values.isEmpty then .nothingAsked else .commandMissing)
  if l.operand.isSome && read.operands.isEmpty then throw .operandMissing
  return read

end Scan

def helpOn (g : Grammar) : List String → List String → Refusal
  | _, [] => .help
  | path, name :: rest =>
    if (g path).commands.contains name then helpOn g (path ++ [name]) rest
    else if (g path).hasCommand name && rest.isEmpty then .help
    else .unknownCommand

/-- Reads the arguments of the command at `path`; gives the path of the command that is meant in
the end, and what was said on every level from the outermost on. -/
def parseFrom (g : Grammar) (path : List String) (st : Scan) :
    List String → Except Refusal (List String × List Matches)
  | [] => do return (path, [← st.finish (g path)])
  | arg :: rest =>
    let l := g path
    if !st.trailing && !l.isOpen st && l.hasCommand arg then
      if l.commands.contains arg then do
        let (found, below) ← parseFrom g (path ++ [arg]) {} rest
        let st ← st.settle l
        return (found, st.read :: below)
      else .error (helpOn g path rest)
    else do parseFrom g path (← st.step l arg) rest

def parse (g : Grammar) (args : List String) : Except Refusal (List String × List Matches) :=
  parseFrom g [] {} args

end BoardFilter.CommandLine
