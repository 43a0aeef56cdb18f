import BoardFilter.CommandLine.Invocation
import BoardFilter.Configuration.Reader
import BoardFilter.Files
import BoardFilter.Session
import BoardFilter.Terminal

/-!
# The program

One run: a command line is read, a session is opened on the files of the configuration folder, the
command is carried out and its result is put into words. What the session stores is written back
even if the command fails later on.
-/

namespace BoardFilter

open Terminal

namespace Program

def versionText : String := "e6filter 0.3.0"

def loud (c : Colour) (s : String) : String := coloured c (bold s)

def reportLine (visibleOnly : Bool) (r : Report) : Option String :=
  let id (c : Colour) := coloured c (padLeft 10 ("#" ++ toString r.post.id))
  let lines := String.intercalate " | " r.lines
  match r.state with
  | .enabled =>
    if visibleOnly then none else some (id .red ++ " " ++ loud .red "hidden" ++ " " ++ dimmed lines)
  | .disabled =>
    some (id .yellow ++ " " ++ loud .yellow "visible" ++ " " ++
      dimmed ("(disabled: " ++ lines ++ ")"))
  | .noMatch =>
    some (id .green ++ " " ++ loud .green "visible" ++ " " ++ dimmed r.post.tags.joined)

def reportLines (visibleOnly : Bool) (reports : List Report) : List String :=
  let hidden := reports.countP fun r => r.state = .enabled
  reports.filterMap (reportLine visibleOnly) ++
    [loud .blue (toString reports.length) ++ " " ++ bold "posts checked," ++ " " ++
      loud .red (toString hidden ++ " hidden by the blacklist")]

def lineState (l : LineSummary) : String :=
  if l.enabled then loud .green "[on] " ++ " " ++ l.text
  else loud .red "[off]" ++ " " ++ dimmed l.text

def blacklistLines (lines : List LineSummary) : List String :=
  if lines.isEmpty then [loud .blue "The blacklist is empty"] else lines.map lineState

def addedText (line : String) (added : Bool) : String :=
  if added then loud .green "Added" ++ " " ++ bold line
  else bold line ++ " " ++ loud .blue "is already blacklisted"

def notListed (line : String) : String := bold line ++ " " ++ loud .red "is not blacklisted"

def removedText (line : String) (removed : Bool) : String :=
  if removed then loud .green "Removed" ++ " " ++ bold line else notListed line

def toggledText (line : String) : Option Bool → String
  | some true => loud .green "Enabled" ++ " " ++ bold line
  | some false => loud .red "Disabled" ++ " " ++ bold line
  | none => notListed line

def favoritesText (count : Nat) : String :=
  loud .blue (toString count) ++ " " ++ bold "favorites cached"

/-- What a run finds around it. The user may name a configuration folder, and `site` is the reply to
every request. -/
structure World where
  files : Files := {}
  configDir : Option String := none
  configHome : Option String := none
  site : Site.TimedReply := ⟨.none (.noConnection "no route to the site"), 0⟩
  wording : Wording :=
    { json := fun
        | .malformed => "syntax error"
        | .misshapen => "unexpected data"
      toml := "unexpected text"
      system := "the system refuses" }
deriving Inhabited

def configName : String := "e6filter"

def configFile : String := "config.toml"

def stateFile : String := "state.json"

def configPath? (w : World) (wanted : Option String) : Option String :=
  (wanted <|> w.configDir) <|> w.configHome.map fun home => Files.join home configName

def paths (w : World) (args : List String) : List String :=
  match Invocation.ofArguments args with
  | .error _ => []
  | .ok inv =>
    let kept := match configPath? w inv.configDir with
      | some dir => [Files.join dir configFile, Files.join dir stateFile]
      | none => []
    match inv.command with
    | .check file => file :: kept
    | _ => kept

structure Result where
  exit : Nat
  output : List String := []
  complaint : Option String := none
  files : Files

def Result.text (r : Result) : String := String.join (r.output.map (· ++ "\n"))

inductive Failure where
  | noFolder
  | configurationFile
  | configuration
  | settingsFile
  | settings (path : String) (fault : Json.Fault)
  | session (failure : Session.Failure)
deriving DecidableEq, Repr

def Failure.message (w : Wording) : Failure → String
  | noFolder => w.system
  | configurationFile => "Failed to access file: " ++ w.system
  | configuration => "Failed to read config file: " ++ w.toml
  | settingsFile => Settings.inaccessibleMessage w
  | settings path fault => Settings.corruptedMessage w path fault
  | session failure => failure.message w

def failed (w : World) (files : Files) (failure : Failure) : Result :=
  { exit := 1, complaint := some (failure.message w.wording), files }

def connects : Command → Bool
  | .search .. | .posts _ | .syncFavorites => true
  | _ => false

def told {α : Type} (tell : α → List String) (r : Except Session.Failure α × Session) :
    Except Session.Failure (List String) × Session :=
  (r.1.map tell, r.2)

def perform (w : World) (inv : Invocation) (s : Session) :
    Except Session.Failure (List String) × Session :=
  let tell := reportLines inv.visibleOnly
  match inv.command with
  | .search tags page pages limit => told tell (s.search tags page pages limit).2
  | .posts ids => told tell (s.fetch ids)
  | .check file => told tell (s.check file (w.files.read? file))
  | .listLines => (.ok (blacklistLines s.lines), s)
  | .addLine line => told (fun added => [addedText line added]) (s.addLine line)
  | .removeLine line => told (fun removed => [removedText line removed]) (s.removeLine line)
  | .toggleLine line => told (fun state => [toggledText line state]) (s.toggleLine line)
  | .enableAll => told (fun _ => [loud .green "All lines enabled"]) (s.setAll true)
  | .disableAll => told (fun _ => [loud .red "All lines disabled"]) (s.setAll false)
  | .syncFavorites => told (fun count => [favoritesText count]) s.syncFavorites
  | .countFavorites => (.ok [favoritesText s.favorites.size], s)

def keep (files : Files) (path : String) (settings : Settings) : Option Files :=
  if settings.changed then files.write? path settings.toText else some files

def runIn (w : World) (dir : String) (config : Configuration) (inv : Invocation) : Result :=
  let state := Files.join dir stateFile
  let files := w.files
  if files.leadsToFolder state then failed w files .settingsFile
  else
    match Settings.ofText (files.read? state) with
    | .error fault => failed w files (.settings state fault)
    | .ok settings =>
      let client := Site.Client.opened config.site [] w.site
      let opened :=
        if connects inv.command then Session.connected config.blacklist settings client
        else Session.opened config.blacklist settings client none
      let (output, settings) : Except Session.Failure (List String) × Settings :=
        match opened with
        | .error left => (.error left.failure, left.settings)
        | .ok s =>
          let (output, s) := perform w inv s
          (output, s.settings)
      match keep files state settings, output with
      | some files, .ok output => { exit := 0, output, files }
      | some files, .error failure => failed w files (.session failure)
      | none, _ => failed w files (.session .notStored)

def configurationOf (content : String) : Except Failure Configuration :=
  match Configuration.ofText? content with
  | some config => .ok config
  | none => .error .configuration

def configure (files : Files) (dir : String) : Files × Except Failure Configuration :=
  match if files.leads dir then (files, true) else files.makeFolders dir with
  | (files, false) => (files, .error .noFolder)
  | (files, true) =>
    let path := Files.join dir configFile
    if files.leads path then
      match files.read? path with
      | some content => (files, configurationOf content)
      | none => (files, .error .configurationFile)
    else
      match files.write? path Configuration.defaultText with
      | some files => (files, configurationOf Configuration.defaultText)
      | none => (files, .error .configurationFile)

def refuse (files : Files) : CommandLine.Refusal → Result
  | .help => { exit := 0, files }
  | .version => { exit := 0, output := [versionText], files }
  | refusal => { exit := 2, complaint := some refusal.message, files }

def run (w : World) (args : List String) : Result :=
  match Invocation.ofArguments args with
  | .error refusal => refuse w.files refusal
  | .ok inv =>
    match configPath? w inv.configDir with
    | none => failed w w.files .noFolder
    | some dir =>
      match configure w.files dir with
      | (files, .error failure) => failed w files failure
      | (files, .ok config) => runIn { w with files } dir config inv

end Program

end BoardFilter
