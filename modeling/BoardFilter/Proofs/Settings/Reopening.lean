import BoardFilter.Proofs.Json.RoundTrip
import BoardFilter.Settings

/-!
# Settings outlive their file

A settings file that is opened again after any changes holds the last value of every name, and for
the names that were not changed what it held before, just as settings that are never written.
-/

namespace BoardFilter

open Json (Within FloatFree depthLimit)

namespace Settings

def setAll (settings : Settings) (calls : List (String × Json)) : Settings :=
  calls.foldl (fun settings c => settings.set c.1 c.2) settings

theorem get?_setAll (settings : Settings) (calls : List (String × Json)) (key : String) :
    (settings.setAll calls).get? key =
      (Json.lookup key calls.reverse).or (settings.get? key) := by
  induction calls generalizing settings with
  | nil => rfl
  | cons c calls ih =>
    have hlast : Json.lookup key (calls.reverse ++ [c]) =
        (Json.lookup key calls.reverse).or (if c.1 = key then some c.2 else none) := by
      rw [Json.lookup, List.find?_append, Option.map_or, ← Json.lookup, List.find?_singleton]
      by_cases hkey : c.1 = key <;> simp [hkey]
    rw [setAll, List.foldl_cons, ← setAll, ih, List.reverse_cons, hlast, Option.or_assoc]
    by_cases hkey : c.1 = key
    · subst hkey
      rw [get?_set_self, if_pos rfl, Option.some_or]
    · rw [get?_set_of_ne (Ne.symm hkey), if_neg hkey, Option.none_or]

theorem exists_lookup_reverse {calls : List (String × Json)} {key : String}
    (h : key ∈ calls.map (·.1)) : ∃ v, Json.lookup key calls.reverse = some v := by
  obtain ⟨c, hc, hkey⟩ := List.mem_map.1 h
  obtain ⟨d, hd⟩ : ∃ d, calls.reverse.find? (fun f => f.1 = key) = some d := by
    rw [← Option.isSome_iff_exists, List.find?_isSome]
    exact ⟨c, List.mem_reverse.2 hc, by simpa using hkey⟩
  exact ⟨d.2, by rw [Json.lookup, hd, Option.map_some]⟩

end Settings

namespace SettingsFile

open Settings (exists_lookup_reverse)

def setAll (file : SettingsFile) (calls : List (String × Json)) : SettingsFile :=
  calls.foldl (fun file c => file.set c.1 c.2) file

theorem settings_setAll (file : SettingsFile) (calls : List (String × Json)) :
    (file.setAll calls).settings = file.settings.setAll calls := by
  induction calls generalizing file with
  | nil => rfl
  | cons c calls ih => exact ih (file.set c.1 c.2)

/-- What there is at the place of a settings file: nothing, a text without content or an object. -/
inductive Holds : Option String → List (String × Json) → Prop
  | missing : Holds none []
  | blank {s : String} (h : Text.isBlankText s = true) : Holds (some s) []
  | object {s : String} {fields : List (String × Json)}
      (h : Json.parse? s = some (.object fields)) : Holds (some s) fields

variable {content : Option String} {fields : List (String × Json)}

theorem Holds.exists_opened (h : Holds content fields) :
    ∃ entries : Json.Fields, entries.toList = fields ∧
      opened content = .ok { content, settings := { entries } } := by
  cases h with
  | missing => exact ⟨.empty, rfl, rfl⟩
  | blank h =>
    refine ⟨.empty, rfl, ?_⟩
    simp only [SettingsFile.opened, Settings.ofText, h, ↓reduceIte]
    rfl
  | @object s fields h =>
    have hblank : ¬ Text.isBlankText s = true := by
      intro hblank
      obtain ⟨t, ht⟩ := Json.exists_brace_of_parse? h
      have hmem : '{' ∈ s.toList := by
        apply (List.dropWhile_sublist Json.isGap).mem
        rw [← Json.skipGap, ht]
        exact List.mem_cons_self
      exact absurd (List.all_eq_true.1 hblank '{' hmem) (by decide)
    obtain ⟨entries, hentries, hparse⟩ := Json.exists_parseObject h
    refine ⟨entries, hentries, ?_⟩
    simp only [SettingsFile.opened, Settings.ofText, hblank, Bool.false_eq_true, ↓reduceIte,
      hparse]
    rfl

theorem Holds.within (h : Holds content fields) : Within depthLimit (.object fields) := by
  cases h with
  | missing => exact .object .nil fun f hf => absurd hf List.not_mem_nil
  | blank h => exact .object .nil fun f hf => absurd hf List.not_mem_nil
  | object h => exact Json.within_parse? h

structure Current (file : SettingsFile) : Prop where
  holds : Holds file.content file.settings.entries.toList
  floatFree : FloatFree file.settings.entries.toJson
  writable : file.settings.faults = []

/-- A value that can be read back inside the one object that a settings file holds. -/
def Storable (v : Json) : Prop := Within 126 v ∧ FloatFree v

theorem Current.set {file : SettingsFile} (h : file.Current) (key : String) {v : Json}
    (hv : Storable v) : (file.set key v).Current := by
  let entries := file.settings.entries.put key v
  have hwithin : Within depthLimit entries.toJson := by
    have hfields := (Json.within_object_iff.1 h.holds.within).2
    refine .object entries.ascending fun f hf => ?_
    rcases Json.of_mem_putField hf with rfl | hf
    · exact hv.1
    · exact hfields f hf
  have hfree : FloatFree entries.toJson := by
    refine .object fun f hf => ?_
    rcases Json.of_mem_putField hf with rfl | hf
    · exact hv.2
    · exact Json.floatFree_object_iff.1 h.floatFree f hf
  have hcontent : (file.set key v).content = some (Json.pretty entries.toJson) := by
    have hfails : file.settings.fails = false := by rw [Settings.fails, h.writable]; rfl
    simp only [SettingsFile.set, hfails, Bool.false_eq_true, ↓reduceIte]
    rfl
  refine ⟨?_, hfree, ?_⟩
  · rw [hcontent]
    exact .object (Json.parse?_pretty hwithin hfree)
  · exact congrArg List.tail h.writable

theorem Current.setAll {file : SettingsFile} (h : file.Current) {calls : List (String × Json)}
    (hcalls : ∀ c ∈ calls, Storable c.2) : (file.setAll calls).Current := by
  induction calls generalizing file with
  | nil => exact h
  | cons c calls ih =>
    exact ih (h.set c.1 (hcalls c List.mem_cons_self)) fun d hd =>
      hcalls d (List.mem_cons_of_mem c hd)

/-- A file that is changed and opened again answers with the last values, and as settings do that
held the same before and were never written. -/
theorem values_outlive_the_file (h : Holds content fields) (hfree : FloatFree (.object fields))
    (calls : List (String × Json)) (hcalls : ∀ c ∈ calls, Storable c.2) :
    ∃ file again, opened content = .ok file ∧ opened (file.setAll calls).content = .ok again ∧
      (∀ key, again.settings.get? key =
        (Json.lookup key calls.reverse).or (Json.lookup key fields)) ∧
      ∀ (memory : Settings) (key : String),
        (key ∈ calls.map (·.1) ∨ memory.get? key = Json.lookup key fields) →
        (memory.setAll calls).get? key = again.settings.get? key := by
  obtain ⟨entries, rfl, hopened⟩ := h.exists_opened
  let file : SettingsFile := { content, settings := { entries } }
  have hfile : file.Current := ⟨h, hfree, rfl⟩
  obtain ⟨kept, hkept, hagain⟩ := (hfile.setAll hcalls).holds.exists_opened
  obtain rfl : kept = (file.setAll calls).settings.entries := Json.Fields.ext hkept
  refine ⟨file, _, hopened, hagain, ?_, ?_⟩
  · intro key
    have hget := file.settings.get?_setAll calls key
    rwa [← settings_setAll] at hget
  · intro memory key hkey
    have hget := file.settings.get?_setAll calls key
    rw [← settings_setAll] at hget
    refine (memory.get?_setAll calls key).trans (Eq.trans ?_ hget.symm)
    rcases hkey with hkey | hkey
    · obtain ⟨v, hv⟩ := exists_lookup_reverse hkey
      rw [hv, Option.some_or, Option.some_or]
    · rw [hkey]
      rfl

theorem values_outlive_the_file_of_two :
    let fields := [("a", Json.object []), ("b", .array [.int 1, .text "q\t\u00e9"])]
    let content := some (Json.pretty (.object fields))
    let calls := [("c", Json.int 0xFFFFFFFFFFFFFFFF), ("a", .text "\"\\\x01\n"),
      ("c", .array [.int (-0x8000000000000000), .object [("", .null)]])]
    Holds content fields ∧ FloatFree (.object fields) ∧ (∀ c ∈ calls, Storable c.2) ∧
    ∃ file again, opened content = .ok file ∧ opened (file.setAll calls).content = .ok again ∧
      again.settings.get? "a" = some (.text "\"\\\x01\n") ∧
      again.settings.get? "b" = some (.array [.int 1, .text "q\t\u00e9"]) ∧
      again.settings.get? "c" =
        some (.array [.int (-0x8000000000000000), .object [("", .null)]]) ∧
      again.settings.get? "d" = none ∧
      (Settings.empty.setAll calls).get? "c" = again.settings.get? "c" := by
  intro fields content calls
  have hfree : FloatFree (.object fields) := by simp [fields]
  have hwithin : Within depthLimit (.object fields) := by
    refine Json.within_object_iff.2 ⟨List.pairwise_pair.2 (by decide), ?_⟩
    simp [fields, Json.IsWord]
  have hholds : Holds content fields := .object (Json.parse?_pretty hwithin hfree)
  have hcalls : ∀ c ∈ calls, Storable c.2 := by simp [calls, Storable, Json.IsWord]
  obtain ⟨file, again, hopened, hagain, hget, hmemory⟩ :=
    values_outlive_the_file hholds hfree calls hcalls
  exact ⟨hholds, hfree, hcalls, file, again, hopened, hagain, hget "a", hget "b", hget "c",
    hget "d", hmemory .empty "c" (.inl (by decide))⟩

end SettingsFile

end BoardFilter
