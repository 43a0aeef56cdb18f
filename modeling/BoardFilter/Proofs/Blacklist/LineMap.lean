import BoardFilter.Proofs.Blacklist.Lines
import Mathlib.Logic.Function.Basic

/-!
# Blacklists as plain maps

Apart from its matches a blacklist is a map from texts in normal form to whether the line is
enabled. Every operation on lines is the one of that map, and so is the way through the settings.
-/

namespace BoardFilter

open Line (normalize)

abbrev LineMap := String → Option Bool

namespace LineMap

def empty : LineMap := fun _ => none

def admits (m : LineMap) (text : String) : Bool :=
  !Text.isBlankText text && (m (normalize text)).isNone

def add (m : LineMap) (text : String) (enabled : Bool) : LineMap :=
  if m.admits text then Function.update m (normalize text) (some enabled) else m

def addAll (m : LineMap) (texts : List String) (enabled : Bool) : LineMap :=
  texts.foldl (fun m text => m.add text enabled) m

def remove (m : LineMap) (text : String) : LineMap := Function.update m (normalize text) none

def toggle (m : LineMap) (text : String) : LineMap :=
  Function.update m (normalize text) ((m (normalize text)).map (!·))

def setAll (m : LineMap) (enabled : Bool) : LineMap := fun t => (m t).map fun _ => enabled

theorem remove_of_none {m : LineMap} {text : String} (h : m (normalize text) = none) :
    m.remove text = m := by
  rw [remove, ← h, Function.update_eq_self]

theorem toggle_of_none {m : LineMap} {text : String} (h : m (normalize text) = none) :
    m.toggle text = m := by
  rw [toggle, h, Option.map_none, ← h, Function.update_eq_self]

structure Lists (m : LineMap) (pairs : List (String × Bool)) : Prop where
  ascending : pairs.Pairwise (·.1 < ·.1)
  mem_iff : ∀ t e, (t, e) ∈ pairs ↔ m t = some e

theorem Lists.nodup {m : LineMap} {pairs : List (String × Bool)} (h : m.Lists pairs) :
    pairs.Nodup := by
  apply h.ascending.imp
  rintro p q hlt rfl
  exact String.lt_irrefl _ hlt

theorem Lists.unique {m : LineMap} {ps qs : List (String × Bool)} (hp : m.Lists ps)
    (hq : m.Lists qs) : ps = qs := by
  have hperm : ps.Perm qs := by
    apply (List.perm_ext_iff_of_nodup hp.nodup hq.nodup).2
    rintro ⟨t, e⟩
    rw [hp.mem_iff, hq.mem_iff]
  apply hperm.eq_of_pairwise ?_ hp.ascending hq.ascending
  intro a b _ _ hab hba
  exact absurd hab (String.lt_asymm hba)

def Normal (m : LineMap) : Prop :=
  ∀ t e, m t = some e → normalize t = t ∧ Text.isBlankText t = false

theorem normal_empty : empty.Normal := by
  intro t e h
  cases h

theorem isBlankText_normalize (text : String) :
    Text.isBlankText (normalize text) = Text.isBlankText text := by
  rw [Bool.eq_iff_iff, ← Line.normalize_eq_empty_iff, ← Line.normalize_eq_empty_iff,
    Line.normalize_normalize]

variable {m : LineMap}

theorem Normal.add (h : m.Normal) (text : String) (enabled : Bool) :
    (m.add text enabled).Normal := by
  intro t e ht
  unfold LineMap.add at ht
  split at ht
  · next hadmits =>
    by_cases hkey : t = normalize text
    · rw [hkey, isBlankText_normalize]
      simp only [admits, Bool.and_eq_true, Bool.not_eq_true'] at hadmits
      exact ⟨Line.normalize_normalize text, hadmits.1⟩
    · rw [Function.update_of_ne hkey] at ht
      exact h t e ht
  · exact h t e ht

theorem Normal.addAll (h : m.Normal) (texts : List String) (enabled : Bool) :
    (m.addAll texts enabled).Normal := by
  induction texts generalizing m with
  | nil => exact h
  | cons text rest ih =>
    rw [LineMap.addAll, List.foldl_cons, ← LineMap.addAll]
    exact ih (h.add text enabled)

theorem Normal.of_keys {m' : LineMap} (h : m.Normal) (hkeys : ∀ t, m t = none → m' t = none) :
    m'.Normal := by
  intro t e ht
  cases hm : m t with
  | none =>
    rw [hkeys t hm] at ht
    cases ht
  | some e' => exact h t e' hm

theorem Normal.remove (h : m.Normal) (text : String) : (m.remove text).Normal := by
  apply h.of_keys
  intro t ht
  by_cases hkey : t = normalize text
  · rw [hkey, LineMap.remove, Function.update_self]
  · rw [LineMap.remove, Function.update_of_ne hkey, ht]

theorem Normal.toggle (h : m.Normal) (text : String) : (m.toggle text).Normal := by
  apply h.of_keys
  intro t ht
  by_cases hkey : t = normalize text
  · rw [hkey, LineMap.toggle, Function.update_self, ← hkey, ht, Option.map_none]
  · rw [LineMap.toggle, Function.update_of_ne hkey, ht]

theorem Normal.setAll (h : m.Normal) (enabled : Bool) : (m.setAll enabled).Normal := by
  apply h.of_keys
  intro t ht
  rw [LineMap.setAll, ht, Option.map_none]

theorem foldl_add_eq_some_iff {pairs : List (String × Bool)} (hasc : pairs.Pairwise (·.1 < ·.1))
    (hnormal : ∀ p ∈ pairs, normalize p.1 = p.1 ∧ Text.isBlankText p.1 = false)
    (hnew : ∀ p ∈ pairs, m p.1 = none) (t : String) (e : Bool) :
    pairs.foldl (fun m p => m.add p.1 p.2) m t = some e ↔ (t, e) ∈ pairs ∨ m t = some e := by
  induction pairs generalizing m with
  | nil => simp
  | cons p rest ih =>
    obtain ⟨hlt, hrest⟩ := List.pairwise_cons.1 hasc
    obtain ⟨hkey, hblank⟩ := hnormal p (by simp)
    have hfree := hnew p (by simp)
    have hadd : m.add p.1 p.2 = Function.update m p.1 (some p.2) := by
      rw [add, admits, hkey, hblank, hfree]
      rfl
    rw [List.foldl_cons, hadd, ih hrest fun q hq => hnormal q (by simp [hq])]
    · by_cases ht : t = p.1
      · rw [ht, Function.update_self, hfree]
        constructor
        · rintro (h | h)
          · exact Or.inl (List.mem_cons_of_mem p h)
          · rw [← Option.some.inj h]
            exact Or.inl List.mem_cons_self
        · rintro (h | h)
          · rcases List.mem_cons.1 h with h | h
            · rw [← h]
              exact Or.inr rfl
            · exact Or.inl h
          · cases h
      · have hne : (t, e) ≠ p := fun h => ht (congrArg Prod.fst h)
        rw [Function.update_of_ne ht, List.mem_cons, or_iff_right hne]
    · intro q hq
      have hne : q.1 ≠ p.1 := fun h => String.lt_irrefl _ (h ▸ hlt q hq)
      rw [Function.update_of_ne hne]
      exact hnew q (by simp [hq])

theorem Lists.foldl_add {pairs : List (String × Bool)} (h : m.Lists pairs) (hm : m.Normal) :
    pairs.foldl (fun m p => m.add p.1 p.2) empty = m := by
  funext t
  apply Option.ext
  intro e
  rw [foldl_add_eq_some_iff h.ascending ?_ fun _ _ => rfl, h.mem_iff]
  · exact or_iff_left (by simp [empty])
  · rintro ⟨t, e⟩ hp
    exact hm t e ((h.mem_iff t e).1 hp)

end LineMap

end BoardFilter
