import BoardFilter.Json.Decode
import Mathlib.Data.List.Nodup

/-!
# Rearranged records

A record is read by the names of its fields. So their order does not matter, nor do fields with
other names, and a field that may be absent can be left out where it holds nothing.
-/

namespace BoardFilter.Json

variable {fields fields' : List (String × Json)} {name : String} {v : Json}

theorem mem_of_lookup (h : lookup name fields = some v) : (name, v) ∈ fields := by
  obtain ⟨f, hf, rfl⟩ := Option.map_eq_some_iff.1 h
  have hname : f.1 = name := by simpa using List.find?_some hf
  rw [← hname]
  exact List.mem_of_find?_eq_some hf

theorem lookup_isSome_of_mem (h : (name, v) ∈ fields) : ∃ w, lookup name fields = some w := by
  rw [← Option.isSome_iff_exists, lookup, Option.isSome_map, List.find?_isSome]
  exact ⟨_, h, by simp⟩

theorem lookup_eq_none_iff : lookup name fields = none ↔ ∀ v, (name, v) ∉ fields := by
  constructor
  · intro h v hmem
    obtain ⟨w, hw⟩ := lookup_isSome_of_mem hmem
    rw [h] at hw
    cases hw
  · intro h
    by_contra hsome
    obtain ⟨v, hv⟩ := Option.ne_none_iff_exists'.1 hsome
    exact h v (mem_of_lookup hv)

theorem lookup_eq_some_iff (hnodup : (fields.map Prod.fst).Nodup) :
    lookup name fields = some v ↔ (name, v) ∈ fields := by
  refine ⟨mem_of_lookup, fun hmem => ?_⟩
  obtain ⟨w, hw⟩ := lookup_isSome_of_mem hmem
  have hsame : (name, w) = (name, v) :=
    List.inj_on_of_nodup_map hnodup (mem_of_lookup hw) hmem rfl
  rw [hw, (Prod.mk.inj hsame).2]

/-- The same fields in some order, some of the optional ones left out that are null and others with
new names added. -/
def Rearranges (optional : List String) (fields fields' : List (String × Json)) : Prop :=
  ∃ kept dropped added, fields.Perm (kept ++ dropped) ∧ fields'.Perm (kept ++ added) ∧
    (∀ f ∈ dropped, f.1 ∈ optional ∧ f.2 = .null) ∧ ∀ f ∈ added, f.1 ∉ fields.map Prod.fst

theorem Rearranges.of_perm (h : fields.Perm fields') (optional : List String) :
    Rearranges optional fields fields' :=
  ⟨fields, [], [], by simp, by simpa using h.symm, nofun, nofun⟩

section

variable {optional : List String} (h : Rearranges optional fields fields')
  (hnodup : (fields.map Prod.fst).Nodup)

include h hnodup

theorem Rearranges.lookup_cases (hmem : (name, v) ∈ fields) :
    lookup name fields' = some v ∨
      (name ∈ optional ∧ v = .null ∧ lookup name fields' = none) := by
  obtain ⟨kept, dropped, added, hfields, hfields', hdropped, hadded⟩ := h
  have hname : name ∈ fields.map Prod.fst := List.mem_map_of_mem (f := Prod.fst) hmem
  have honce : ∀ w, (name, w) ∈ fields' → w = v := by
    intro w hw
    rcases List.mem_append.1 (hfields'.mem_iff.1 hw) with hw | hw
    · have hold : (name, w) ∈ fields := hfields.mem_iff.2 (List.mem_append_left _ hw)
      exact congrArg Prod.snd (List.inj_on_of_nodup_map hnodup hold hmem rfl)
    · exact absurd hname (hadded _ hw)
  cases hlookup : lookup name fields' with
  | some w => exact .inl (by rw [honce w (mem_of_lookup hlookup)])
  | none =>
    rcases List.mem_append.1 (hfields.mem_iff.1 hmem) with hkept | hdrop
    · obtain ⟨w, hw⟩ := lookup_isSome_of_mem (hfields'.mem_iff.2 (List.mem_append_left added hkept))
      rw [hlookup] at hw
      cases hw
    · exact .inr ⟨(hdropped _ hdrop).1, (hdropped _ hdrop).2, rfl⟩

theorem Rearranges.required?_eq {α : Type} {read : Json → Option α} {a : α}
    (hmem : (name, v) ∈ fields) (hname : name ∉ optional) (hread : read v = some a) :
    required? read (lookup name fields') = some a := by
  rw [(h.lookup_cases hnodup hmem).resolve_right fun hdropped => hname hdropped.1]
  exact hread

end

theorem putField_perm (h : name ∉ fields.map Prod.fst) :
    (putField name v fields).Perm ((name, v) :: fields) := by
  induction fields with
  | nil => exact .refl _
  | cons f rest ih =>
    rw [List.map_cons, List.mem_cons, not_or] at h
    rw [putField]
    split
    · exact .refl _
    · rw [if_neg h.1]
      exact ((ih h.2).cons f).trans (.swap _ _ _)

theorem Fields.foldl_put_perm (done : Fields)
    (h : ((done.toList ++ fields).map Prod.fst).Nodup) :
    (fields.foldl (fun done f => done.put f.1 f.2) done).toList.Perm (done.toList ++ fields) := by
  induction fields generalizing done with
  | nil => simp
  | cons f rest ih =>
    -- The name is not among those before it, so its field is added and replaces none.
    have hmiddle : (done.toList ++ f :: rest).Perm (f :: done.toList ++ rest) := List.perm_middle
    have hnodup := (hmiddle.map Prod.fst).nodup_iff.1 h
    have hfresh : f.1 ∉ done.toList.map Prod.fst := by
      rw [List.cons_append, List.map_cons, List.map_append, List.nodup_cons, List.mem_append,
        not_or] at hnodup
      exact hnodup.1.1
    have hput := (putField_perm (v := f.2) hfresh).append_right rest
    have hnext := ih (done.put f.1 f.2) ((hput.map Prod.fst).nodup_iff.2 hnodup)
    exact hnext.trans (hput.trans hmiddle.symm)

theorem exists_ofFields (h : (fields.map Prod.fst).Nodup) (optional : List String) :
    ∃ fields', ofFields fields = .object fields' ∧ Rearranges optional fields fields' := by
  have hperm := Fields.foldl_put_perm .empty (by simpa [Fields.empty] using h)
  exact ⟨_, rfl, .of_perm hperm.symm optional⟩

end BoardFilter.Json
