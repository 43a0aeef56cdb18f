import BoardFilter.Text.Blank

/-!
# Files

The part of a file system that a run of the program can see, with the folder in which it runs. A
path is followed step by step, and every step needs a folder to start from, also one that goes back
up or stays where it is. So a path leads nowhere if it passes through something that is missing.
-/

namespace BoardFilter

/-- The names on the way from the root to a file or a folder. -/
abbrev Place := List String

namespace Place

def follow (start : Place) : List String → Place
  | [] => start
  | step :: rest =>
    if step = "" || step = "." then follow start rest
    else if step = ".." then follow start.dropLast rest
    else follow (start ++ [step]) rest

def toPath (p : Place) : String := "/" ++ String.intercalate "/" p

def above (p : Place) : List Place := (List.range p.length).map fun n => p.take n

end Place

structure Files where
  contents : List (Place × String) := []
  folders : List Place := []
  current : Place := []
deriving DecidableEq, Repr, Inhabited

namespace Files

/-- Something is missing on the way, or a file, what is there already or the length of a name is in
the way. -/
inductive Obstacle where
  | missing
  | barred
deriving DecidableEq, Repr

def maxName : Nat := 255

def maxPath : Nat := 4095

def steps (path : String) : List String :=
  (path.toList.splitOnP (· == '/')).map String.ofList

def isRooted (path : String) : Bool := path.startsWith "/"

def join (folder name : String) : String :=
  if folder.isEmpty || folder.endsWith "/" then folder ++ name else folder ++ "/" ++ name

def pathsTo (path : String) : List String :=
  let named := (steps path).filter fun s => s ≠ "" && s ≠ "."
  let root := if isRooted path then "/" else ""
  let above := (List.range named.length).tail.reverse
  path :: above.map fun n => root ++ String.intercalate "/" (named.take n)

def content? (fs : Files) (p : Place) : Option String := fs.contents.lookup p

def isFile (fs : Files) (p : Place) : Bool := (fs.content? p).isSome

def isFolder (fs : Files) (p : Place) : Bool :=
  p.isEmpty || p ∈ fs.folders || (fs.contents.map (·.1) ++ fs.folders).any fun q => p ∈ q.above

def holds (fs : Files) (p : Place) : Bool := fs.isFile p || fs.isFolder p

def walk (fs : Files) (p : Place) : List String → Except Obstacle Place
  | [] => .ok p
  | step :: rest =>
    if !fs.isFolder p then .error .barred
    else if step = "" || step = "." then walk fs p rest
    else if step = ".." then walk fs p.dropLast rest
    else if maxName < step.utf8ByteSize then .error .barred
    else if fs.holds (p ++ [step]) then walk fs (p ++ [step]) rest
    else .error .missing

def walkFrom (fs : Files) (path : String) (steps : List String) : Except Obstacle Place :=
  if path.isEmpty then .error .missing
  else if maxPath < path.utf8ByteSize then .error .barred
  else fs.walk (if isRooted path then [] else fs.current) steps

def locate (fs : Files) (path : String) : Except Obstacle Place := fs.walkFrom path (steps path)

def leads (fs : Files) (path : String) : Bool := (fs.locate path).isOk

def leadsToFolder (fs : Files) (path : String) : Bool :=
  match fs.locate path with
  | .ok p => fs.isFolder p
  | .error _ => false

def read? (fs : Files) (path : String) : Option String :=
  match fs.locate path with
  | .ok p => fs.content? p
  | .error _ => none

def slot (fs : Files) (path : String) (steps : List String) : Except Obstacle Place := do
  let folder ← fs.walkFrom path steps.dropLast
  match steps.getLast? with
  | none => .error .barred
  | some name =>
    if !fs.isFolder folder || name = "" || name = "." || name = ".."
        || maxName < name.utf8ByteSize then
      .error .barred
    else .ok (folder ++ [name])

def write? (fs : Files) (path content : String) : Option Files :=
  match fs.slot path (steps path) with
  | .ok p =>
    if fs.isFolder p then none
    else some { fs with contents := (fs.contents.filter fun f => f.1 ≠ p) ++ [(p, content)] }
  | .error _ => none

def makeFolder (fs : Files) (path : String) : Except Obstacle Files := do
  let p ← fs.slot path ((steps path).reverse.dropWhile (· = "")).reverse
  if fs.holds p then .error .barred else .ok { fs with folders := p :: fs.folders }

/-- Makes the folder of the first path, after those of the others if it needs them. The folders that
were made stay if it cannot be made in the end. -/
def makeAll (fs : Files) : List String → Files × Bool
  | [] => (fs, true)
  | path :: above =>
    match fs.makeFolder path with
    | .ok fs => (fs, true)
    | .error .barred => (fs, fs.leadsToFolder path)
    | .error .missing =>
      match makeAll fs above with
      | (fs, false) => (fs, false)
      | (fs, true) =>
        match fs.makeFolder path with
        | .ok fs => (fs, true)
        | .error _ => (fs, fs.leadsToFolder path)

def makeFolders (fs : Files) (path : String) : Files × Bool :=
  if path.isEmpty then (fs, true) else fs.makeAll (pathsTo path)

end Files

end BoardFilter
