import BoardFilter.Proofs.Blacklist.Additions
import BoardFilter.Proofs.Blacklist.Content
import BoardFilter.Proofs.Blacklist.Keys
import BoardFilter.Proofs.Session.StoredFavorites
import BoardFilter.Proofs.Text.ByteOrder
import Mathlib.Data.List.Forall2

/-!
# Stored lines

What is stored of a blacklist brings its lines back with their states and without their matches.
Stored values may also have been written by hand. They are merged into the lines that are there, and
a value with an entry that cannot be read changes nothing.
-/

namespace BoardFilter.Blacklist

open Line (normalize)

/-- An entry is an object with a text and a state, among other fields, or the array of the two. -/
inductive IsEntry : Json → String × Bool → Prop
  | object {fields : List (String × Json)} {text : String} {enabled : Bool}
      (htext : Json.lookup "text" fields = some (.text text))
      (henabled : Json.lookup "enabled" fields = some (.bool enabled)) :
      IsEntry (.object fields) (text, enabled)
  | array (text : String) (enabled : Bool) :
      IsEntry (.array [.text text, .bool enabled]) (text, enabled)

theorem required?_asText?_iff {slot : Option Json} {t : String} :
    Json.required? Json.asText? slot = some t ↔ slot = some (.text t) := by
  rcases slot with - | (- | _ | _ | _ | _ | _ | _) <;> simp [Json.required?, Json.asText?]

theorem required?_asBool?_iff {slot : Option Json} {e : Bool} :
    Json.required? Json.asBool? slot = some e ↔ slot = some (.bool e) := by
  rcases slot with - | (- | _ | _ | _ | _ | _ | _) <;> simp [Json.required?, Json.asBool?]

theorem entry?_of_slots {v : Json} {text enabled : Option Json}
    (h : Json.fullSlots? ["text", "enabled"] v = some [text, enabled]) (p : String × Bool) :
    entry? v = some p ↔ text = some (.text p.1) ∧ enabled = some (.bool p.2) := by
  rw [← required?_asText?_iff, ← required?_asBool?_iff]
  simp only [h, entry?, Option.bind_eq_bind, Option.bind_eq_some_iff, Option.pure_def,
    Option.some.injEq, Prod.ext_iff]
  constructor
  · rintro ⟨t, ht, e, he, rfl, rfl⟩
    exact ⟨ht, he⟩
  · rintro ⟨ht, he⟩
    exact ⟨p.1, ht, p.2, he, rfl, rfl⟩

theorem entry?_eq_some_iff {v : Json} {p : String × Bool} : entry? v = some p ↔ IsEntry v p := by
  cases v with
  | object fields =>
    rw [entry?_of_slots (v := .object fields) rfl]
    constructor
    · rintro ⟨htext, henabled⟩
      exact .object htext henabled
    · rintro (⟨htext, henabled⟩ | _)
      exact ⟨htext, henabled⟩
  | array items =>
    by_cases hlen : items.length = 2
    · obtain ⟨text, enabled, rfl⟩ := List.length_eq_two.1 hlen
      rw [entry?_of_slots (v := .array [text, enabled]) rfl, Option.some.injEq, Option.some.injEq]
      constructor
      · rintro ⟨rfl, rfl⟩
        exact .array p.1 p.2
      · rintro (_ | _)
        exact ⟨rfl, rfl⟩
    · have hnone : entry? (.array items) = none := by
        simp only [Json.fullSlots?, entry?, List.length_cons, List.length_nil, hlen, if_false]
      rw [hnone]
      refine iff_of_false (fun h => by cases h) ?_
      rintro (_ | _)
      exact hlen rfl
  | _ => exact iff_of_false (fun h => by cases h) (fun h => by cases h)

def Spells (v : Json) (entries : List (String × Bool)) : Prop :=
  ∃ items, v = .array items ∧ List.Forall₂ IsEntry items entries

theorem asList?_entry?_iff {v : Json} {entries : List (String × Bool)} :
    Json.asList? entry? v = some entries ↔ Spells v entries := by
  rw [Json.asList?_eq_some_iff, Spells]
  refine exists_congr fun items => and_congr_right fun _ => ?_
  rw [← List.forall₂_eq_eq_eq, List.forall₂_map_left_iff, List.forall₂_map_right_iff]
  simp only [entry?_eq_some_iff]

section

variable {b : Blacklist} {settings : Settings} {v : Json} {entries : List (String × Bool)}
  (ex : Exemptions)

theorem restore_of_spells (h : settings.get? key = some v) (hv : Spells v entries) :
    b.restore settings ex = .ok (b.createAll entries ex, true) := by
  rw [restore, Settings.read?, h]
  simp only [asList?_entry?_iff.2 hv]
  rfl

theorem restore_of_unreadable (h : settings.get? key = some v)
    (hv : ∀ entries, ¬ Spells v entries) : b.restore settings ex = .error ⟨key⟩ := by
  have hnone : Json.asList? entry? v = none := by
    rw [Option.eq_none_iff_forall_ne_some]
    exact fun entries he => hv entries (asList?_entry?_iff.1 he)
  rw [restore, Settings.read?, h]
  simp only [hnone]
  rfl

theorem found_of_restore {ex : Exemptions} {c : Blacklist} {found : Bool}
    (h : b.restore settings ex = .ok (c, found)) : found = (settings.get? key).isSome := by
  cases hget : settings.get? key with
  | none =>
    rw [b.restore_of_none hget ex] at h
    cases h
    rfl
  | some v =>
    by_cases hv : ∃ entries, Spells v entries
    · obtain ⟨entries, hv⟩ := hv
      rw [restore_of_spells ex hget hv] at h
      cases h
      rfl
    · rw [restore_of_unreadable ex hget fun entries he => hv ⟨entries, he⟩] at h
      cases h

end

def Normal (b : Blacklist) : Prop :=
  ∀ l ∈ b.lines, normalize l.text = l.text ∧ Text.isBlankText l.text = false

theorem normal_applyAll (changes : List Change) : (empty.applyAll changes).Normal := by
  have hfiled :
      Filed (fun _ => True) (KeyedLines.empty.applyAll changes) (empty.applyAll changes) := by
    apply Filed.empty.applyAll
    intro c _
    cases c <;> trivial
  intro l hl
  obtain ⟨ex, -, hcomp⟩ := hfiled.exists_compiled hl
  exact ⟨hcomp.normal, hcomp.notBlank⟩

variable {b : Blacklist}

theorem Normal.exists_map (h : b.Normal) : ∃ m : LineMap, b.Holds m ∧ m.Normal := by
  have hiff : ∀ t e, (∃ l ∈ b.lines, l.text = t ∧ l.enabled = e) ↔
      ((b.lines.find? fun l => l.text = t).map (·.enabled)) = some e := by
    intro t e
    rw [Option.map_eq_some_iff]
    constructor
    · rintro ⟨l, hl, ht, he⟩
      obtain ⟨m, hm⟩ : ∃ m, b.lines.find? (fun l => l.text = t) = some m := by
        rw [← Option.isSome_iff_exists, List.find?_isSome]
        exact ⟨l, hl, by simpa using ht⟩
      have hmt : m.text = t := by simpa using List.find?_some hm
      have hsame := b.eq_of_text (List.mem_of_find?_eq_some hm) hl (hmt.trans ht.symm)
      exact ⟨m, hm, by rw [hsame, he]⟩
    · rintro ⟨l, hfind, he⟩
      exact ⟨l, List.mem_of_find?_eq_some hfind, by simpa using List.find?_some hfind, he⟩
  refine ⟨_, Holds.of_lines hiff, fun t e ht => ?_⟩
  obtain ⟨l, hl, rfl, -⟩ := (hiff t e).2 ht
  exact h l hl

theorem bytes_ascending (b : Blacklist) :
    b.content.Pairwise fun p q => Text.bytes p.1 < Text.bytes q.1 := by
  simp only [Text.bytes_lt_bytes_iff]
  exact List.pairwise_map.2 b.ascending

theorem get?_save (b : Blacklist) (settings : Settings) :
    (b.save settings).get? key = some (.array (b.content.map stored)) := by
  rw [save, Settings.get?_set_self, map_entry]

theorem Normal.restore_save (h : b.Normal) (settings : Settings) (ex : Exemptions) :
    ∃ c, empty.restore (b.save settings) ex = .ok (c, true) ∧ c.content = b.content ∧
      ∀ l ∈ c.lines, l.matched = .empty := by
  obtain ⟨m, hm, hnormal⟩ := h.exists_map
  obtain ⟨c, hc, hcm⟩ := hm.restore hnormal (b.get?_save settings) ex
  refine ⟨c, hc, LineMap.Lists.unique hcm hm, fun l hl => ?_⟩
  have hspells : Spells (.array (b.content.map stored)) b.content :=
    asList?_entry?_iff.1 (asList?_stored b.content)
  have hall := restore_of_spells (b := empty) ex (b.get?_save settings) hspells
  rw [hc] at hall
  cases hall
  rcases mem_createAll.1 hl with hl | ⟨-, e, -, -, hline⟩
  · cases hl
  · rw [hline]
    rfl

/-- A blacklist that comes about from changes is read back from what is stored of it, without the
matches; any stored value is merged into the lines that are there, where the first entry with a new
normal form decides, or changes nothing if it cannot be read; and favorites are read back. -/
theorem stored_lines_come_back :
    (∀ changes : List Change, (empty.applyAll changes).Normal) ∧
    (∀ (b : Blacklist) (settings : Settings) (ex : Exemptions), b.Normal →
      (b.save settings).get? key = some (.array (b.content.map stored)) ∧
      b.content.Pairwise (fun p q => Text.bytes p.1 < Text.bytes q.1) ∧
      ∃ c, empty.restore (b.save settings) ex = .ok (c, true) ∧ c.content = b.content ∧
        ∀ l ∈ c.lines, l.matched = .empty) ∧
    (∀ (b : Blacklist) (settings : Settings) (ex : Exemptions),
      (settings.get? key = none → b.restore settings ex = .ok (b, false)) ∧
      (∀ v entries, settings.get? key = some v → Spells v entries →
        ∃ c, b.restore settings ex = .ok (c, true) ∧
          ∀ l, l ∈ c.lines ↔ l ∈ b.lines ∨ b.Brings entries ex l) ∧
      (∀ v, settings.get? key = some v → (∀ entries, ¬ Spells v entries) →
        b.restore settings ex = .error ⟨key⟩ ∧ b.apply (.restore settings ex) = b) ∧
      ∀ c found, b.restore settings ex = .ok (c, found) →
        (found = true ↔ ∃ v, settings.get? key = some v)) ∧
    ∀ (favorites : IdSet) (settings : Settings), Storable favorites.toList →
      Favorites.load (Favorites.save favorites settings) = .ok favorites := by
  refine ⟨normal_applyAll, fun b settings ex h => ⟨b.get?_save settings, b.bytes_ascending,
    h.restore_save settings ex⟩, fun b settings ex => ⟨fun h => b.restore_of_none h ex, ?_, ?_, ?_⟩,
    fun _ settings h => Favorites.load_save h settings⟩
  · intro v entries hget hv
    exact ⟨_, restore_of_spells ex hget hv, fun _ => mem_createAll⟩
  · intro v hget hv
    have herror := restore_of_unreadable (b := b) ex hget hv
    exact ⟨herror, by rw [apply, herror]⟩
  · intro c found h
    rw [found_of_restore h, Option.isSome_iff_exists]

/-- The second entry for `gore` is too late, `solo` is there already and a blank text is no line.
One entry that cannot be read spoils the value. -/
theorem stored_lines_come_back_by_hand :
    let b := ((empty.load ["Solo", "duo"] true {}).toggle "duo").1
    let v : Json := .array [.array [.text " Gore", .bool false],
      .object [("enabled", .bool true), ("more", .null), ("text", .text "gore")],
      .array [.text "SOLO", .bool false], .array [.text " ", .bool true]]
    let entries := [(" Gore", false), ("gore", true), ("SOLO", false), (" ", true)]
    let spoilt : Json := .array [.array [.text "gore", .bool true], .text "solo"]
    let favorites := IdSet.ofList [3, 0xFFFFFFFFFFFFFFFF, 1]
    b.Normal ∧ (∃ c, empty.restore (b.save .empty) {} = .ok (c, true) ∧ c.content = b.content ∧
        ∀ l ∈ c.lines, l.matched = .empty) ∧
      Spells v entries ∧
      (b.createAll entries {}).content = [("duo", false), ("gore", false), ("solo", true)] ∧
      (∃ c, b.restore (Settings.empty.set key v) {} = .ok (c, true) ∧
        ∀ l, l ∈ c.lines ↔ l ∈ b.lines ∨ b.Brings entries {} l) ∧
      (∀ entries, ¬ Spells spoilt entries) ∧
      b.restore (Settings.empty.set key spoilt) {} = .error ⟨key⟩ ∧
      Storable favorites.toList ∧
      Favorites.load (Favorites.save favorites .empty) = .ok favorites := by
  intro b v entries spoilt favorites
  obtain ⟨hnormal, hsave, hmerge, hfavorites⟩ := stored_lines_come_back
  have hb : b.Normal := hnormal [.load ["Solo", "duo"] true {}, .toggle "duo"]
  have hv : Spells v entries :=
    ⟨_, rfl, .cons (.array _ _) (.cons (.object rfl rfl) (.cons (.array _ _)
      (.cons (.array _ _) .nil)))⟩
  have hspoilt : ∀ entries, ¬ Spells spoilt entries := by
    rintro entries ⟨items, hitems, hall⟩
    rw [← Json.array.inj hitems] at hall
    obtain - | ⟨-, hrest⟩ := hall
    obtain - | ⟨hentry, -⟩ := hrest
    cases hentry
  obtain ⟨-, hmerged, -, -⟩ := hmerge b (Settings.empty.set key v) {}
  obtain ⟨-, -, hkeeps, -⟩ := hmerge b (Settings.empty.set key spoilt) {}
  have hids : Storable favorites.toList := by
    intro i hi
    have hmem := IdSet.mem_ofList.1 hi
    simp only [List.mem_cons, List.not_mem_nil, or_false] at hmem
    omega
  exact ⟨hb, (hsave b .empty {} hb).2.2, hv, by decide +kernel,
    hmerged v entries (Settings.get?_set_self _ _ _) hv, hspoilt,
    (hkeeps spoilt (Settings.get?_set_self _ _ _) hspoilt).1, hids,
    hfavorites favorites .empty hids⟩

end BoardFilter.Blacklist
