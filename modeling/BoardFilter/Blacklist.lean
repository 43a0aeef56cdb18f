import BoardFilter.Line
import BoardFilter.Json.Decode
import BoardFilter.Settings

/-!
# Blacklists

A blacklist holds lines in ascending order of their texts, each text once. It tells of a post
whether one of its lines matches, and is kept in the settings as the texts of its lines with their
enabled states.
-/

namespace BoardFilter

structure Blacklist where
  lines : List Line
  ascending : lines.Pairwise (·.text < ·.text)
deriving DecidableEq

namespace Blacklist

def key : String := "blacklist"

def empty : Blacklist := ⟨[], .nil⟩

instance : Inhabited Blacklist := ⟨empty⟩

def place (line : Line) : List Line → List Line
  | [] => [line]
  | l :: rest =>
    if line.text < l.text then line :: l :: rest
    else if line.text = l.text then line :: rest
    else l :: place line rest

theorem mem_of_mem_place {line l : Line} {ls : List Line} (h : l ∈ place line ls) :
    l = line ∨ l ∈ ls := by
  induction ls with
  | nil => simpa [place] using h
  | cons m rest ih => grind [place]

theorem ascending_place {line : Line} {ls : List Line} (h : ls.Pairwise (·.text < ·.text)) :
    (place line ls).Pairwise (·.text < ·.text) := by
  induction ls with
  | nil => simp [place]
  | cons m rest ih =>
    have hm := List.pairwise_cons.1 h
    simp only [place]
    split
    · next hlt =>
      refine List.pairwise_cons.2 ⟨fun l hl => ?_, h⟩
      rcases List.mem_cons.1 hl with rfl | hl
      · exact hlt
      · exact String.lt_trans hlt (hm.1 l hl)
    split
    · next heq =>
      exact List.pairwise_cons.2 ⟨fun l hl => heq ▸ hm.1 l hl, hm.2⟩
    · next hlt hne =>
      refine List.pairwise_cons.2 ⟨fun l hl => ?_, ih hm.2⟩
      rcases mem_of_mem_place hl with rfl | hl
      · exact Std.lt_of_le_of_ne (String.not_lt.1 hlt) fun e => hne e.symm
      · exact hm.1 l hl

def insert (b : Blacklist) (line : Line) : Blacklist :=
  ⟨place line b.lines, ascending_place b.ascending⟩

theorem ascending_map (b : Blacklist) {f : Line → Line} (hf : ∀ l, (f l).text = l.text) :
    (b.lines.map f).Pairwise (·.text < ·.text) := by
  refine List.pairwise_map.2 (b.ascending.imp fun hlt => ?_)
  rwa [hf, hf]

def map (b : Blacklist) (f : Line → Line) (hf : ∀ l, (f l).text = l.text) : Blacklist :=
  ⟨b.lines.map f, b.ascending_map hf⟩

theorem lines_map (b : Blacklist) {f : Line → Line} (hf : ∀ l, (f l).text = l.text) :
    (b.map f hf).lines = b.lines.map f := rfl

def get? (b : Blacklist) (text : String) : Option Line :=
  b.lines.find? fun l => l.text = Line.normalize text

def contains (b : Blacklist) (text : String) : Bool := (b.get? text).isSome

/-- Adds a line, unless the text is blank or stands for a line that is there; whether it did. -/
def create (b : Blacklist) (text : String) (enabled : Bool) (exemptions : Exemptions) :
    Blacklist × Bool :=
  let key := Line.normalize text
  if key.isEmpty || b.contains text then (b, false)
  else (b.insert (Line.compile key enabled exemptions), true)

def load (b : Blacklist) (texts : List String) (enabled : Bool) (exemptions : Exemptions) :
    Blacklist :=
  texts.foldl (fun b text => (b.create text enabled exemptions).1) b

def delete (b : Blacklist) (text : String) : Blacklist × Bool :=
  (⟨b.lines.filter fun l => l.text ≠ Line.normalize text, b.ascending.filter _⟩, b.contains text)

def modify (b : Blacklist) (text : String) (f : Line → Line)
    (hf : ∀ l, (f l).text = l.text) : Blacklist :=
  b.map (fun l => if l.text = Line.normalize text then f l else l) fun l => by
    split
    · exact hf l
    · rfl

def toggle (b : Blacklist) (text : String) : Blacklist × Option Bool :=
  (b.modify text Line.toggle Line.text_toggle, (b.get? text).map fun l => !l.enabled)

def setAll (b : Blacklist) (enabled : Bool) : Blacklist :=
  b.map (·.setEnabled enabled) (Line.text_setEnabled enabled)

def setEnabled (b : Blacklist) (text : String) (enabled : Bool) : Blacklist :=
  b.modify text (·.setEnabled enabled) (Line.text_setEnabled enabled)

def update (b : Blacklist) (text : String) (posts : List Post) (evict : Bool) : Blacklist :=
  b.modify text (fun l => (l.updateAll posts evict).1) fun l => l.text_updateEach evict posts

/-- Shows posts to every line; how many lines match one of them. -/
def add (b : Blacklist) (posts : List Post) : Blacklist × Nat :=
  let updated : List (Line × List Bool) := b.lines.map fun l => l.updateEach true posts
  have ascending : (updated.map (·.1)).Pairwise (·.text < ·.text) := by
    rw [List.map_map]
    exact b.ascending_map fun l => l.text_updateEach true posts
  (⟨updated.map (·.1), ascending⟩, updated.countP fun u => u.2.any id)

def clear (b : Blacklist) : Blacklist := b.map Line.clear Line.text_clear

def reindex (b : Blacklist) (posts : List Post) : Blacklist × Nat := b.clear.add posts

def hasMatch (b : Blacklist) (id : Nat) (ignoreDisabled : Bool) : Bool :=
  b.lines.any fun l => l.hasMatch id ignoreDisabled

/-- An enabled match prevails over disabled ones. -/
def state (b : Blacklist) (id : Nat) : MatchState :=
  let states := b.lines.map (·.state id)
  if states.contains .enabled then .enabled
  else if states.contains .disabled then .disabled
  else .noMatch

def active (b : Blacklist) : List Line := b.lines.filter fun l => 0 < l.matched.size

def entry (l : Line) : Json := .ofFields [("text", .text l.text), ("enabled", .bool l.enabled)]

def entry? (v : Json) : Option (String × Bool) :=
  match Json.fullSlots? ["text", "enabled"] v with
  | some [text, enabled] => do
    let text ← Json.required? Json.asText? text
    let enabled ← Json.required? Json.asBool? enabled
    return (text, enabled)
  | _ => none

def save (b : Blacklist) (settings : Settings) : Settings :=
  settings.set key (.array (b.lines.map entry))

/-- Adds the stored lines that are not there yet; whether any were stored. -/
def restore (b : Blacklist) (settings : Settings) (exemptions : Exemptions) :
    Except UnreadableState (Blacklist × Bool) :=
  (settings.read? key (Json.asList? entry?)).map fun
    | none => (b, false)
    | some stored => (stored.foldl (fun b e => (b.create e.1 e.2 exemptions).1) b, true)

end Blacklist

end BoardFilter
