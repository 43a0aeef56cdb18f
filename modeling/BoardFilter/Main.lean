import BoardFilter.Program

/-!
# The command

Gathers what is there on the paths that a run may follow, lets it run, and writes down what it has
changed. The command has no line to the site of its own, so questions to the site fail.
-/

open BoardFilter

def isThere (path : String) : IO Bool := do
  try
    discard (IO.FS.realPath path)
    return true
  catch _ => return false

def sight (files : Files) (path : String) : IO Files := do
  let start := if Files.isRooted path then [] else files.current
  let place := Place.follow start (Files.steps path)
  if ← isThere (path ++ "/.") then return { files with folders := place :: files.folders }
  else
    try
      return { files with contents := (place, ← IO.FS.readFile path) :: files.contents }
    catch _ => return files

def store (before after : Files) : IO Unit := do
  for p in after.folders.reverse do
    if !before.isFolder p then IO.FS.createDir p.toPath
  for (p, content) in after.contents do
    if before.content? p ≠ some content then IO.FS.writeFile p.toPath content

def configHome : IO (Option String) := do
  match ← IO.getEnv "XDG_CONFIG_HOME" with
  | some home => if home.startsWith "/" then return some home else fallback
  | none => fallback
where
  fallback : IO (Option String) := do
    return (← IO.getEnv "HOME").map (· ++ "/.config")

def main (args : List String) : IO UInt32 := do
  let current := Place.follow [] (Files.steps (← IO.currentDir).toString)
  let configDir ← IO.getEnv "E6F_CONFIG_DIR"
  let world : Program.World := { configDir, configHome := ← configHome }
  let files ← ((Program.paths world args).flatMap Files.pathsTo).foldlM sight
    { folders := [current], current }
  let result := Program.run { world with files } args
  store files result.files
  IO.print result.text
  if let some complaint := result.complaint then IO.eprintln ("Error: " ++ complaint)
  return result.exit.toUInt32
