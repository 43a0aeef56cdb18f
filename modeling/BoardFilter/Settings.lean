import BoardFilter.Json.Reader
import BoardFilter.Json.Writer

/-!
# Settings

What a session leaves for the next one: JSON values by name. A settings file holds them as one
object, and every change writes the file anew.
-/

namespace BoardFilter

/-- `changed` tells whether the settings were written since they were read, and `faults` which of
the writes to come fail; those after them succeed. -/
structure Settings where
  entries : Json.Fields
  changed : Bool := false
  faults : List Bool := []
deriving Inhabited

/-- What the libraries and the system say of what they refuse. -/
structure Wording where
  json : Json.Fault → String
  toml : String
  system : String
deriving Inhabited

structure UnreadableState where
  key : String
deriving DecidableEq, Repr

def UnreadableState.message (w : Wording) (state : UnreadableState) : String :=
  "Stored value under key " ++ state.key ++ " is corrupted: " ++ w.json .misshapen

namespace Settings

def empty : Settings := { entries := .empty }

def inaccessibleMessage (w : Wording) : String := "Failed to access settings file: " ++ w.system

def corruptedMessage (w : Wording) (path : String) (fault : Json.Fault) : String :=
  "Settings file " ++ path ++ " is corrupted: " ++ w.json fault

def get? (settings : Settings) (key : String) : Option Json := settings.entries.lookup key

def fails (settings : Settings) : Bool := settings.faults.headD false

/-- Sets a value and writes the settings. The value stays set even if the write fails. -/
def set (settings : Settings) (key : String) (value : Json) : Settings :=
  { entries := settings.entries.put key value
    changed := settings.changed || !settings.fails
    faults := settings.faults.tail }

theorem get?_set_self (settings : Settings) (key : String) (value : Json) :
    (settings.set key value).get? key = some value := Json.lookup_putField_self _ _ _

theorem get?_set_of_ne {key other : String} (h : other ≠ key) (settings : Settings)
    (value : Json) : (settings.set key value).get? other = settings.get? other :=
  Json.lookup_putField_of_ne h _ _

def toText (settings : Settings) : String := Json.pretty settings.entries.toJson

/-- Reads the content of a settings file; a missing or blank file holds nothing. -/
def ofText : Option String → Except Json.Fault Settings
  | none => .ok empty
  | some s =>
    if Text.isBlankText s then .ok empty
    else (Json.parseObject s).map fun entries => { entries }

def read? {α : Type} (settings : Settings) (key : String) (decode : Json → Option α) :
    Except UnreadableState (Option α) :=
  match settings.get? key with
  | none => .ok none
  | some v =>
    match decode v with
    | some a => .ok (some a)
    | none => .error ⟨key⟩

end Settings

structure SettingsFile where
  content : Option String
  settings : Settings
deriving Inhabited

namespace SettingsFile

def opened (content : Option String) : Except Json.Fault SettingsFile :=
  (Settings.ofText content).map fun settings => { content, settings }

def set (file : SettingsFile) (key : String) (value : Json) : SettingsFile :=
  let settings := file.settings.set key value
  { content := if file.settings.fails then file.content else some settings.toText, settings }

end SettingsFile

end BoardFilter
