import BoardFilter.Proofs.Blacklist.Lines
import BoardFilter.Proofs.Line.Meaning
import Mathlib.Logic.Function.Basic

/-!
# The keys of a blacklist

A line is added under a key, the normal form of the text that was given, and is compiled from that
key, whose normal form is taken once more. Whatever is done to a blacklist, the text of a line is
the key that it was added under, so every spelling of that key finds the line; and its clauses are
the exemptions of the time when it was added and one clause for each of its tokens.
-/

namespace BoardFilter

open Line (normalize)

namespace Blacklist

inductive Change where
  | load (texts : List String) (enabled : Bool) (ex : Exemptions)
  | create (text : String) (enabled : Bool) (ex : Exemptions)
  | delete (text : String)
  | toggle (text : String)
  | setEnabled (text : String) (enabled : Bool)
  | setAll (enabled : Bool)
  | add (posts : List Post)
  | update (text : String) (posts : List Post) (evict : Bool)
  | reindex (posts : List Post)
  | clear
  | restore (settings : Settings) (ex : Exemptions)

def apply (b : Blacklist) : Change → Blacklist
  | .load texts enabled ex => b.load texts enabled ex
  | .create text enabled ex => (b.create text enabled ex).1
  | .delete text => (b.delete text).1
  | .toggle text => (b.toggle text).1
  | .setEnabled text enabled => b.setEnabled text enabled
  | .setAll enabled => b.setAll enabled
  | .add posts => (b.add posts).1
  | .update text posts evict => b.update text posts evict
  | .reindex posts => (b.reindex posts).1
  | .clear => b.clear
  | .restore settings ex =>
    match b.restore settings ex with
    | .ok (b, _) => b
    | .error _ => b

def applyAll (b : Blacklist) (changes : List Change) : Blacklist := changes.foldl apply b

end Blacklist

open Blacklist (Change)

/-- A line with the exemptions that were in force when it was added. -/
structure KeyedLine where
  line : Line
  exemptions : Exemptions

def KeyedLine.map (e : KeyedLine) (f : Line → Line) : KeyedLine := { e with line := f e.line }

abbrev KeyedLines := String → Option KeyedLine

namespace KeyedLines

def empty : KeyedLines := fun _ => none

def create (m : KeyedLines) (text : String) (enabled : Bool) (ex : Exemptions) : KeyedLines :=
  let key := normalize text
  if key.isEmpty || (m key).isSome then m
  else Function.update m key (some ⟨Line.compile key enabled ex, ex⟩)

def delete (m : KeyedLines) (text : String) : KeyedLines := Function.update m (normalize text) none

def modify (m : KeyedLines) (text : String) (f : Line → Line) : KeyedLines :=
  Function.update m (normalize text) ((m (normalize text)).map (·.map f))

def map (m : KeyedLines) (f : Line → Line) : KeyedLines := fun k => (m k).map (·.map f)

def createAll (m : KeyedLines) (entries : List (String × Bool)) (ex : Exemptions) : KeyedLines :=
  entries.foldl (fun m e => m.create e.1 e.2 ex) m

def apply (m : KeyedLines) : Change → KeyedLines
  | .load texts enabled ex => m.createAll (texts.map (·, enabled)) ex
  | .create text enabled ex => m.create text enabled ex
  | .delete text => m.delete text
  | .toggle text => m.modify text Line.toggle
  | .setEnabled text enabled => m.modify text (·.setEnabled enabled)
  | .setAll enabled => m.map (·.setEnabled enabled)
  | .add posts => m.map fun l => (l.updateEach true posts).1
  | .update text posts evict => m.modify text fun l => (l.updateAll posts evict).1
  | .reindex posts => m.map fun l => (l.clear.updateEach true posts).1
  | .clear => m.map Line.clear
  | .restore settings ex =>
    match settings.read? Blacklist.key (Json.asList? Blacklist.entry?) with
    | .ok (some entries) => m.createAll entries ex
    | _ => m

def applyAll (m : KeyedLines) (changes : List Change) : KeyedLines := changes.foldl apply m

end KeyedLines

namespace Line

structure Compiled (l : Line) (ex : Exemptions) : Prop where
  normal : normalize l.text = l.text
  notBlank : Text.isBlankText l.text = false
  clauses : l.clauses = ex.clauses ++ ownClauses l.text
  counted : l.Counted

def SameClauses (l m : Line) : Prop :=
  l.text = m.text ∧ l.clauses = m.clauses ∧ l.optionalCount = m.optionalCount

theorem SameRule.sameClauses {l m : Line} (h : l.SameRule m) : l.SameClauses m :=
  ⟨h.1, h.2.1, h.2.2.1⟩

theorem Compiled.congr {l m : Line} {ex : Exemptions} (h : l.Compiled ex) (hs : m.SameClauses l) :
    m.Compiled ex := by
  obtain ⟨htext, hclauses, hcount⟩ := hs
  refine ⟨?_, ?_, ?_, ?_⟩
  · rw [htext, h.normal]
  · rw [htext, h.notBlank]
  · rw [hclauses, h.clauses, htext]
  · rw [Counted, hcount, h.counted, hclauses]

theorem compiled_compile {text : String} (h : Text.isBlankText text = false) (enabled : Bool)
    (ex : Exemptions) : (compile (normalize text) enabled ex).Compiled ex := by
  have htext : (compile (normalize text) enabled ex).text = normalize text :=
    normalize_normalize text
  refine ⟨?_, ?_, rfl, rfl⟩
  · rw [htext, normalize_normalize]
  · rw [htext, Bool.eq_false_iff]
    intro hblank
    have hempty := normalize_eq_empty_iff.2 hblank
    rw [normalize_normalize, normalize_eq_empty_iff, h] at hempty
    cases hempty

theorem Compiled.words_ne_nil {l : Line} {ex : Exemptions} (h : l.Compiled ex) :
    Text.words l.text ≠ [] := by
  intro hnil
  have hblank := Text.words_eq_nil_iff.1 hnil
  rw [h.notBlank] at hblank
  cases hblank

end Line

/-- The lines of a blacklist are those of a map from keys, each of them compiled from its key, under
exemptions of a certain kind. -/
structure Filed (E : Exemptions → Prop) (m : KeyedLines) (b : Blacklist) : Prop where
  mem_iff : ∀ k l, (∃ ex, m k = some ⟨l, ex⟩) ↔ l ∈ b.lines ∧ l.text = k
  compiled : ∀ k e, m k = some e → e.line.Compiled e.exemptions ∧ E e.exemptions

namespace Filed

variable {E : Exemptions → Prop} {m : KeyedLines} {b : Blacklist}

theorem empty : Filed E .empty .empty where
  mem_iff := by simp [KeyedLines.empty, Blacklist.empty]
  compiled := by simp [KeyedLines.empty]

theorem isSome_iff (h : Filed E m b) (k : String) :
    (m k).isSome = true ↔ ∃ l ∈ b.lines, l.text = k := by
  rw [Option.isSome_iff_exists]
  constructor
  · rintro ⟨⟨l, ex⟩, he⟩
    exact ⟨l, (h.mem_iff k l).1 ⟨ex, he⟩⟩
  · rintro ⟨l, hl, ht⟩
    obtain ⟨ex, he⟩ := (h.mem_iff k l).2 ⟨hl, ht⟩
    exact ⟨⟨l, ex⟩, he⟩

theorem insert (h : Filed E m b) {line : Line} {ex : Exemptions} (hline : line.Compiled ex)
    (hex : E ex) (hne : ∀ l ∈ b.lines, l.text ≠ line.text) :
    Filed E (Function.update m line.text (some ⟨line, ex⟩)) (b.insert line) := by
  refine ⟨fun k l => ?_, fun k e hk => ?_⟩
  · rw [Blacklist.mem_lines_insert hne]
    by_cases hkey : k = line.text
    · rw [hkey, Function.update_self]
      simp only [Option.some.injEq, KeyedLine.mk.injEq]
      constructor
      · rintro ⟨-, rfl, -⟩
        exact ⟨Or.inl rfl, rfl⟩
      · rintro ⟨rfl | hl, ht⟩
        · exact ⟨ex, rfl, rfl⟩
        · exact absurd ht (hne l hl)
    · rw [Function.update_of_ne hkey, h.mem_iff]
      constructor
      · rintro ⟨hl, ht⟩
        exact ⟨Or.inr hl, ht⟩
      · rintro ⟨rfl | hl, ht⟩
        · exact absurd ht.symm hkey
        · exact ⟨hl, ht⟩
  · by_cases hkey : k = line.text
    · rw [hkey, Function.update_self] at hk
      rw [← Option.some.inj hk]
      exact ⟨hline, hex⟩
    · rw [Function.update_of_ne hkey] at hk
      exact h.compiled k e hk

theorem create (h : Filed E m b) (text : String) (enabled : Bool) {ex : Exemptions} (hex : E ex) :
    Filed E (m.create text enabled ex) (b.create text enabled ex).1 := by
  have hempty : (normalize text).isEmpty = Text.isBlankText text := by
    rw [Bool.eq_iff_iff, String.isEmpty_iff, Line.normalize_eq_empty_iff]
  have htext := Blacklist.text_compile text enabled ex
  unfold KeyedLines.create
  simp only [hempty]
  rcases b.create_cases text enabled ex with ⟨hold, he⟩ | ⟨hblank, hne, he⟩
  · have hstop : (Text.isBlankText text || (m (normalize text)).isSome) = true := by
      rcases hold with hold | hold
      · rw [hold, Bool.true_or]
      · rw [(h.isSome_iff _).2 hold, Bool.or_true]
    rw [if_pos hstop, he]
    exact h
  · have hfree : (m (normalize text)).isSome = false := by
      rw [Bool.eq_false_iff]
      intro hsome
      obtain ⟨l, hl, ht⟩ := (h.isSome_iff _).1 hsome
      exact hne l hl ht
    have hinsert := h.insert (Line.compiled_compile hblank enabled ex) hex (by rwa [htext])
    rw [htext] at hinsert
    rw [he, hblank, hfree, Bool.or_false, if_neg Bool.false_ne_true]
    exact hinsert

theorem createAll (h : Filed E m b) (entries : List (String × Bool)) {ex : Exemptions}
    (hex : E ex) :
    Filed E (m.createAll entries ex) (entries.foldl (fun b e => (b.create e.1 e.2 ex).1) b) := by
  induction entries generalizing m b with
  | nil => exact h
  | cons e rest ih =>
    rw [KeyedLines.createAll, List.foldl_cons, List.foldl_cons, ← KeyedLines.createAll]
    exact ih (h.create e.1 e.2 hex)

theorem delete (h : Filed E m b) (text : String) : Filed E (m.delete text) (b.delete text).1 := by
  refine ⟨fun k l => ?_, fun k e hk => ?_⟩
  · simp only [Blacklist.delete, List.mem_filter, decide_eq_true_eq]
    by_cases hkey : k = normalize text
    · rw [hkey, KeyedLines.delete, Function.update_self]
      constructor
      · rintro ⟨ex, hsome⟩
        cases hsome
      · rintro ⟨⟨-, hne⟩, ht⟩
        exact absurd ht hne
    · rw [KeyedLines.delete, Function.update_of_ne hkey, h.mem_iff]
      constructor
      · rintro ⟨hl, ht⟩
        exact ⟨⟨hl, by rwa [ht]⟩, ht⟩
      · rintro ⟨⟨hl, -⟩, ht⟩
        exact ⟨hl, ht⟩
  · by_cases hkey : k = normalize text
    · rw [hkey, KeyedLines.delete, Function.update_self] at hk
      cases hk
    · rw [KeyedLines.delete, Function.update_of_ne hkey] at hk
      exact h.compiled k e hk

theorem of_pointwise (h : Filed E m b) {f : Line → Line} (hf : ∀ l, (f l).SameClauses l)
    {m' : KeyedLines} (hm : ∀ k, m' k = (m k).map (·.map f)) {c : Blacklist}
    (hc : c.lines = b.lines.map f) : Filed E m' c := by
  refine ⟨fun k l => ?_, fun k e hk => ?_⟩
  · rw [hm, hc, List.mem_map]
    constructor
    · rintro ⟨ex, hsome⟩
      obtain ⟨⟨l', ex'⟩, he, hmap⟩ := Option.map_eq_some_iff.1 hsome
      cases hmap
      obtain ⟨hl, ht⟩ := (h.mem_iff k l').1 ⟨ex', he⟩
      exact ⟨⟨l', hl, rfl⟩, (hf l').1.trans ht⟩
    · rintro ⟨⟨l', hl, rfl⟩, ht⟩
      obtain ⟨ex, he⟩ := (h.mem_iff k l').2 ⟨hl, (hf l').1.symm.trans ht⟩
      exact ⟨ex, by rw [he]; rfl⟩
  · rw [hm] at hk
    obtain ⟨e', he, rfl⟩ := Option.map_eq_some_iff.1 hk
    obtain ⟨hcomp, hex⟩ := h.compiled k e' he
    exact ⟨hcomp.congr (hf e'.line), hex⟩

theorem map (h : Filed E m b) (f : Line → Line) (hf : ∀ l, (f l).SameClauses l) {c : Blacklist}
    (hc : c.lines = b.lines.map f) : Filed E (m.map f) c := h.of_pointwise hf (fun _ => rfl) hc

theorem modify (h : Filed E m b) (text : String) (f : Line → Line)
    (hf : ∀ l, (f l).SameClauses l) :
    Filed E (m.modify text f) (b.modify text f fun l => (hf l).1) := by
  have hat : ∀ l : Line, (if l.text = normalize text then f l else l).SameClauses l := by
    intro l
    by_cases hkey : l.text = normalize text
    · rw [if_pos hkey]
      exact hf l
    · rw [if_neg hkey]
      exact ⟨rfl, rfl, rfl⟩
  refine h.of_pointwise hat (fun k => ?_) rfl
  by_cases hkey : k = normalize text
  · rw [hkey, KeyedLines.modify, Function.update_self]
    cases he : m (normalize text) with
    | none => rw [Option.map_none, Option.map_none]
    | some e =>
      have ht := ((h.mem_iff _ e.line).1 ⟨e.exemptions, he⟩).2
      rw [Option.map_some, Option.map_some, KeyedLine.map, KeyedLine.map, if_pos ht]
  · rw [KeyedLines.modify, Function.update_of_ne hkey]
    cases he : m k with
    | none => rw [Option.map_none]
    | some e =>
      have ht := ((h.mem_iff _ e.line).1 ⟨e.exemptions, he⟩).2
      rw [Option.map_some, KeyedLine.map, if_neg (by rwa [ht])]

end Filed

def Blacklist.Change.Under (E : Exemptions → Prop) : Change → Prop
  | .load _ _ ex | .create _ _ ex | .restore _ ex => E ex
  | _ => True

namespace Filed

variable {E : Exemptions → Prop} {m : KeyedLines} {b : Blacklist}

theorem restore (h : Filed E m b) (settings : Settings) {ex : Exemptions} (hex : E ex) :
    Filed E (m.apply (.restore settings ex)) (b.apply (.restore settings ex)) := by
  rw [KeyedLines.apply, Blacklist.apply, Blacklist.restore]
  cases settings.read? Blacklist.key (Json.asList? Blacklist.entry?) with
  | error state => exact h
  | ok stored =>
    cases stored with
    | none => exact h
    | some entries => exact h.createAll entries hex

theorem apply (h : Filed E m b) {c : Change} (hc : c.Under E) :
    Filed E (m.apply c) (b.apply c) := by
  cases c with
  | load texts enabled ex =>
    have hall := h.createAll (texts.map (·, enabled)) hc
    rw [List.foldl_map] at hall
    exact hall
  | create text enabled ex =>
    rw [KeyedLines.apply, Blacklist.apply]
    exact h.create text enabled hc
  | delete text =>
    rw [KeyedLines.apply, Blacklist.apply]
    exact h.delete text
  | toggle text =>
    rw [KeyedLines.apply, Blacklist.apply, Blacklist.toggle]
    exact h.modify text Line.toggle fun _ => ⟨rfl, rfl, rfl⟩
  | setEnabled text enabled =>
    rw [KeyedLines.apply, Blacklist.apply, Blacklist.setEnabled]
    exact h.modify text (·.setEnabled enabled) fun _ => ⟨rfl, rfl, rfl⟩
  | setAll enabled =>
    rw [KeyedLines.apply, Blacklist.apply, Blacklist.setAll]
    exact h.map (·.setEnabled enabled) (fun _ => ⟨rfl, rfl, rfl⟩) (Blacklist.lines_map _ _)
  | add posts =>
    rw [KeyedLines.apply, Blacklist.apply]
    exact h.map _ (fun l => (l.sameRule_updateEach true posts).sameClauses) (b.lines_add posts)
  | update text posts evict =>
    rw [KeyedLines.apply, Blacklist.apply, Blacklist.update]
    exact h.modify text _ fun l => (l.sameRule_updateEach evict posts).sameClauses
  | reindex posts =>
    rw [KeyedLines.apply, Blacklist.apply]
    refine h.map _ (fun l => ?_) (b.lines_reindex posts)
    exact ((l.clear.sameRule_updateEach true posts).trans l.sameRule_clear).sameClauses
  | clear =>
    rw [KeyedLines.apply, Blacklist.apply, Blacklist.clear]
    exact h.map Line.clear (fun _ => ⟨rfl, rfl, rfl⟩) (Blacklist.lines_map _ _)
  | restore settings ex => exact h.restore settings hc

theorem applyAll (h : Filed E m b) {changes : List Change} (hc : ∀ c ∈ changes, c.Under E) :
    Filed E (m.applyAll changes) (b.applyAll changes) := by
  induction changes generalizing m b with
  | nil => exact h
  | cons c rest ih =>
    exact ih (h.apply (hc c (by simp))) fun d hd => hc d (by simp [hd])

theorem get?_eq (h : Filed E m b) (text : String) :
    b.get? text = (m (normalize text)).map (·.line) := by
  cases hfound : b.get? text with
  | none =>
    have hnone : ¬ (m (normalize text)).isSome = true := by
      rw [h.isSome_iff, ← Blacklist.contains_iff, Blacklist.contains, hfound]
      exact Bool.false_ne_true
    rw [Option.not_isSome_iff_eq_none.1 hnone]
    rfl
  | some l =>
    have ht : l.text = normalize text := by simpa using List.find?_some hfound
    obtain ⟨ex, he⟩ := (h.mem_iff _ l).2 ⟨List.mem_of_find?_eq_some hfound, ht⟩
    rw [he]
    rfl

theorem exists_compiled (h : Filed E m b) {l : Line} (hl : l ∈ b.lines) :
    ∃ ex, E ex ∧ l.Compiled ex := by
  obtain ⟨ex, he⟩ := (h.mem_iff _ l).2 ⟨hl, rfl⟩
  obtain ⟨hcomp, hex⟩ := h.compiled _ _ he
  exact ⟨ex, hex, hcomp⟩

end Filed

namespace Blacklist

variable {b : Blacklist} {text : String} {l : Line}

structure Addresses (b : Blacklist) (text : String) (l : Line) : Prop where
  get : b.get? text = some l
  create : ∀ enabled ex, b.create text enabled ex = (b, false)
  delete : (b.delete text).1.lines = b.lines.filter (· ≠ l) ∧ (b.delete text).2 = true
  toggle : (b.toggle text).1.lines = (b.lines.map fun m => if m = l then m.toggle else m) ∧
    (b.toggle text).2 = some (!l.enabled)

structure Misses (b : Blacklist) (text : String) : Prop where
  get : b.get? text = none
  delete : b.delete text = (b, false)
  toggle : b.toggle text = (b, none)

theorem addresses_of_mem (hl : l ∈ b.lines) (ht : l.text = normalize text) :
    b.Addresses text l := by
  have hcontains : b.contains text = true := contains_iff.2 ⟨l, hl, ht⟩
  have hsame : ∀ m ∈ b.lines, m.text = normalize text ↔ m = l := by
    intro m hm
    constructor
    · intro hmt
      exact b.eq_of_text hm hl (hmt.trans ht.symm)
    · rintro rfl
      exact ht
  have hget : b.get? text = some l := by
    obtain ⟨m, hm⟩ := Option.isSome_iff_exists.1 hcontains
    have hmt : m.text = normalize text := by simpa using List.find?_some hm
    rw [hm, (hsame m (List.mem_of_find?_eq_some hm)).1 hmt]
  refine ⟨hget, fun enabled ex => ?_, ⟨?_, hcontains⟩, ?_, by rw [Blacklist.toggle, hget]; rfl⟩
  · rw [Blacklist.create, hcontains, Bool.or_true, if_pos rfl]
  · apply List.filter_congr
    intro m hm
    rw [decide_eq_decide]
    exact not_congr (hsame m hm)
  · apply List.map_congr_left
    intro m hm
    by_cases hml : m = l
    · rw [if_pos hml, if_pos ((hsame m hm).2 hml)]
    · rw [if_neg hml, if_neg fun hmt => hml ((hsame m hm).1 hmt)]

theorem misses_of_get? (h : b.get? text = none) : b.Misses text := by
  have hne : ∀ l ∈ b.lines, ¬ l.text = normalize text := by
    intro l hl
    simpa using List.find?_eq_none.1 h l hl
  refine ⟨h, Prod.ext (ext ?_) ?_, Prod.ext (ext ?_) ?_⟩
  · apply List.filter_eq_self.2
    intro l hl
    simpa using hne l hl
  · rw [delete, contains, h]
    rfl
  · rw [toggle, modify, lines_map, List.map_congr_left fun l hl => if_neg (hne l hl), List.map_id']
  · rw [toggle, h]
    rfl

theorem create_addresses (hget : b.get? text = none) (hblank : Text.isBlankText text = false)
    (enabled : Bool) (ex : Exemptions) {spelling : String}
    (hspelling : normalize text = normalize spelling) :
    ∃ l, (b.create text enabled ex).1.Addresses spelling l := by
  rcases b.create_cases text enabled ex with ⟨hblank' | hthere, -⟩ | ⟨-, hne, he⟩
  · rw [hblank] at hblank'
    cases hblank'
  · have hcontains := contains_iff.2 hthere
    rw [contains, hget] at hcontains
    cases hcontains
  · refine ⟨Line.compile (normalize text) enabled ex, addresses_of_mem ?_ ?_⟩
    · rw [he]
      exact (mem_lines_insert (by rwa [text_compile])).2 (Or.inl rfl)
    · rw [text_compile, hspelling]

/-- After any changes a blacklist is a map from its keys: a key is the text of its line and a normal
form that is not empty, the line has a clause for each of its tokens, of which there are some, and
all spellings of a key lead to its line. -/
theorem keys_are_texts (changes : List Change) :
    let b := Blacklist.empty.applyAll changes
    let m := KeyedLines.empty.applyAll changes
    (∀ text, b.get? text = (m (normalize text)).map (·.line)) ∧
    (∀ l ∈ b.lines, ∃ ex, m l.text = some ⟨l, ex⟩) ∧
    (∀ k l ex, m k = some ⟨l, ex⟩ →
      (l ∈ b.lines ∧ l.text = k ∧ k ≠ "" ∧ normalize k = k) ∧
      (∃ tokens : List String, tokens ≠ [] ∧ tokens.Nodup ∧
        (∀ t, t ∈ tokens ↔ t ∈ Text.words l.text) ∧
        l.clauses = ex.clauses ++ tokens.map Clause.parse) ∧
      l.optionalCount = l.clauses.countP (·.optional)) ∧
    b.lines.Pairwise (·.text ≠ ·.text) ∧
    ∀ text spelling, normalize text = normalize spelling →
      (∀ l, b.get? text = some l → b.Addresses spelling l) ∧
      (b.get? text = none → b.Misses spelling ∧
        (Text.isBlankText text = false →
          ∀ enabled ex, ∃ l, (b.create text enabled ex).1.Addresses spelling l)) := by
  intro b m
  have h : Filed (fun _ => True) m b := by
    apply Filed.empty.applyAll
    intro c _
    cases c <;> trivial
  have hne : b.lines.Pairwise (·.text ≠ ·.text) := by
    apply b.ascending.imp
    intro l l' hlt heq
    rw [heq] at hlt
    exact String.lt_irrefl _ hlt
  refine ⟨h.get?_eq, fun l hl => (h.mem_iff _ l).2 ⟨hl, rfl⟩, fun k l ex he => ?_, hne,
    fun text spelling hsp => ?_⟩
  · obtain ⟨hl, ht⟩ := (h.mem_iff k l).1 ⟨ex, he⟩
    have hcomp : l.Compiled ex := (h.compiled k _ he).1
    have hwords := hcomp.words_ne_nil
    refine ⟨⟨hl, ht, ?_, ?_⟩,
      ⟨(Text.words l.text).eraseDups, ?_, Text.nodup_eraseDups _, fun t => List.mem_eraseDups,
        hcomp.clauses⟩, hcomp.counted⟩
    · rintro rfl
      rw [ht] at hwords
      exact hwords rfl
    · rw [← ht, hcomp.normal]
    · obtain ⟨t, ht⟩ := List.exists_mem_of_ne_nil _ hwords
      exact List.ne_nil_of_mem (List.mem_eraseDups.2 ht)
  · constructor
    · intro l hl
      have ht : l.text = normalize text := by simpa using List.find?_some hl
      exact addresses_of_mem (List.mem_of_find?_eq_some hl) (ht.trans hsp)
    · intro hnone
      refine ⟨misses_of_get? ?_, fun hblank enabled ex =>
        create_addresses hnone hblank enabled ex hsp⟩
      rw [h.get?_eq, ← hsp, ← h.get?_eq, hnone]

end Blacklist

end BoardFilter
