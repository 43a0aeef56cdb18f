import BoardFilter.Json.Reader
import BoardFilter.Proofs.Json.WholeNumerals

/-!
# What can be read

A value that was read has whole numbers of 64 bits at most and the fields of its objects in order,
each name once, and is nested no deeper than it may be.
-/

namespace BoardFilter.Json

/-- A value as it is held: nested at most to a depth, with numbers of 64 bits and ordered fields. -/
inductive Within : Nat → Json → Prop
  | null {depth : Nat} : Within depth .null
  | bool {depth : Nat} (b : Bool) : Within depth (.bool b)
  | int {depth : Nat} {n : Int} (h : IsWord n) : Within depth (.int n)
  | float {depth : Nat} (x : Binary64) : Within depth (.float x)
  | text {depth : Nat} (s : String) : Within depth (.text s)
  | array {depth : Nat} {items : List Json} (h : ∀ v ∈ items, Within depth v) :
      Within (depth + 1) (.array items)
  | object {depth : Nat} {fields : List (String × Json)}
      (hascending : fields.Pairwise (·.1 < ·.1)) (h : ∀ f ∈ fields, Within depth f.2) :
      Within (depth + 1) (.object fields)

inductive FloatFree : Json → Prop
  | null : FloatFree .null
  | bool (b : Bool) : FloatFree (.bool b)
  | int (n : Int) : FloatFree (.int n)
  | text (s : String) : FloatFree (.text s)
  | array {items : List Json} (h : ∀ v ∈ items, FloatFree v) : FloatFree (.array items)
  | object {fields : List (String × Json)} (h : ∀ f ∈ fields, FloatFree f.2) :
      FloatFree (.object fields)

section

variable {depth : Nat} {items : List Json} {fields : List (String × Json)}

@[simp] theorem within_null : Within depth .null := .null

@[simp] theorem within_text (s : String) : Within depth (.text s) := .text s

@[simp] theorem within_int_iff {n : Int} : Within depth (.int n) ↔ IsWord n :=
  ⟨fun | .int h => h, .int⟩

@[simp] theorem within_array_iff :
    Within (depth + 1) (.array items) ↔ ∀ v ∈ items, Within depth v :=
  ⟨fun | .array h => h, .array⟩

@[simp] theorem within_object_iff :
    Within (depth + 1) (.object fields) ↔
      fields.Pairwise (·.1 < ·.1) ∧ ∀ f ∈ fields, Within depth f.2 :=
  ⟨fun | .object hascending h => ⟨hascending, h⟩, fun h => .object h.1 h.2⟩

@[simp] theorem floatFree_null : FloatFree .null := .null

@[simp] theorem floatFree_int (n : Int) : FloatFree (.int n) := .int n

@[simp] theorem floatFree_text (s : String) : FloatFree (.text s) := .text s

@[simp] theorem floatFree_array_iff : FloatFree (.array items) ↔ ∀ v ∈ items, FloatFree v :=
  ⟨fun | .array h => h, .array⟩

@[simp] theorem floatFree_object_iff :
    FloatFree (.object fields) ↔ ∀ f ∈ fields, FloatFree f.2 :=
  ⟨fun | .object h => h, .object⟩

end

theorem Within.ascending {depth : Nat} {fields : List (String × Json)}
    (h : Within depth (.object fields)) : fields.Pairwise (·.1 < ·.1) := by
  cases h with
  | object hascending _ => exact hascending

theorem IsNumber.within {v : Json} (h : IsNumber v) (depth : Nat) : Within depth v := by
  cases h with
  | int h => exact .int h
  | float x => exact .float x

section

variable {fields : List (String × Json)}

theorem putField_of_pairwise {f : String × Json} {after : List (String × Json)}
    (h : (fields ++ f :: after).Pairwise (·.1 < ·.1)) :
    putField f.1 f.2 fields = fields ++ [f] := by
  have hlt : ∀ g ∈ fields, g.1 < f.1 :=
    fun g hg => (List.pairwise_append.1 h).2.2 g hg f List.mem_cons_self
  clear h
  induction fields with
  | nil => rfl
  | cons g rest ih =>
    have hg : g.1 < f.1 := hlt g List.mem_cons_self
    have hne : ¬ f.1 = g.1 := fun heq => String.lt_irrefl _ (heq ▸ hg)
    rw [putField, if_neg (String.lt_asymm hg), if_neg hne,
      ih fun x hx => hlt x (List.mem_cons_of_mem g hx)]
    rfl

end

section

variable {P : Json → Prop} {value : List Char → Option (Json × List Char)}
  (hvalue : ∀ s v r, value s = some (v, r) → P v)

include hvalue

theorem of_readItems? {steps : Nat} {done : List Json} {s : List Char} {p : List Json × List Char}
    (hdone : ∀ v ∈ done, P v) (h : readItems? value steps done s = some p) : ∀ v ∈ p.1, P v := by
  induction steps generalizing done s with
  | zero => cases h
  | succ steps ih =>
    rw [readItems?] at h
    split at h
    · cases h
    · next v r hv =>
      have hcons : ∀ w ∈ v :: done, P w :=
        List.forall_mem_cons.2 ⟨hvalue _ v r hv, hdone⟩
      split at h
      · exact ih hcons h
      · cases h
        exact fun w hw => hcons w (List.mem_reverse.1 hw)
      · cases h

theorem of_readFields? {steps : Nat} {done : Fields} {s : List Char} {p : Fields × List Char}
    (hdone : ∀ f ∈ done.toList, P f.2) (h : readFields? value steps done s = some p) :
    ∀ f ∈ p.1.toList, P f.2 := by
  induction steps generalizing done s with
  | zero => cases h
  | succ steps ih =>
    rw [readFields?] at h
    split at h
    · split at h
      · cases h
      · next name r hname =>
        split at h
        · split at h
          · cases h
          · next v r hv =>
            have hput : ∀ f ∈ (done.put (String.ofList name) v).toList, P f.2 := by
              intro f hf
              rcases of_mem_putField hf with rfl | hf
              · exact hvalue _ v r hv
              · exact hdone f hf
            simp only at h
            split at h
            · exact ih hput h
            · cases h
              exact hput
            · cases h
        · cases h
    · cases h

theorem of_readObject? {s : List Char} {p : Fields × List Char}
    (h : readObject? value s = some p) : ∀ f ∈ p.1.toList, P f.2 := by
  have hnone : ∀ f ∈ Fields.empty.toList, P f.2 := fun f hf => absurd hf List.not_mem_nil
  unfold readObject? at h
  split at h
  · cases h
    exact hnone
  · exact of_readFields? hvalue hnone h

end

theorem within_readScalar? {s r : List Char} {v : Json} (h : readScalar? s = some (v, r))
    (depth : Nat) : Within depth v := by
  unfold readScalar? at h
  split at h
  · cases h
    exact .null
  · cases h
    exact .bool true
  · cases h
    exact .bool false
  · obtain ⟨p, -, heq⟩ := Option.map_eq_some_iff.1 h
    cases heq
    exact .text _
  · exact (isNumber_readNumeral? h).within depth

theorem readValue?_brace (depth : Nat) (s : List Char) :
    readValue? (depth + 1) ('{' :: s) =
      (readObject? (readValue? depth) s).map fun p => (p.1.toJson, p.2) := by
  rw [readValue?]

theorem within_readValue? {depth : Nat} {s r : List Char} {v : Json}
    (h : readValue? depth s = some (v, r)) : Within depth v := by
  -- a bracket or a brace takes one of the levels that are left
  induction depth generalizing s v r with
  | zero =>
    unfold readValue? at h
    split at h
    · cases h
    · cases h
    · next heq => cases heq
    · next heq => cases heq
    · exact within_readScalar? h 0
  | succ depth ih =>
    unfold readValue? at h
    split at h
    · next heq => cases heq
    · next heq => cases heq
    · next heq =>
      cases heq
      split at h
      · cases h
        exact .array fun v hv => absurd hv List.not_mem_nil
      · obtain ⟨p, hp, heq⟩ := Option.map_eq_some_iff.1 h
        cases heq
        exact .array (of_readItems? (fun _ _ _ => ih) (fun v hv => absurd hv List.not_mem_nil) hp)
    · next heq =>
      cases heq
      obtain ⟨p, hp, heq⟩ := Option.map_eq_some_iff.1 h
      cases heq
      exact .object p.1.ascending (of_readObject? (fun _ _ _ => ih) hp)
    · exact within_readScalar? h (depth + 1)

theorem exists_brace_of_readValue? {depth : Nat} {s r : List Char} {fields : List (String × Json)}
    (h : readValue? depth s = some (.object fields, r)) : ∃ t, s = '{' :: t := by
  have hscalar : ∀ s, readScalar? s ≠ some (.object fields, r) := by
    intro s hs
    unfold readScalar? at hs
    split at hs
    · cases hs
    · cases hs
    · cases hs
    · obtain ⟨p, -, heq⟩ := Option.map_eq_some_iff.1 hs
      cases heq
    · cases isNumber_readNumeral? hs
  unfold readValue? at h
  split at h
  · cases h
  · cases h
  · split at h
    · cases h
    · obtain ⟨p, -, heq⟩ := Option.map_eq_some_iff.1 h
      cases heq
  · exact ⟨_, rfl⟩
  · exact absurd h (hscalar _)

theorem readValue?_of_parse? {s : String} {v : Json} (h : parse? s = some v) :
    ∃ r, readValue? depthLimit (skipGap s.toList) = some (v, r) := by
  rw [parse?, parseWithin?] at h
  split at h
  · next v' r hread =>
    split at h
    · cases h
      exact ⟨r, hread⟩
    · cases h
  · cases h

theorem within_parse? {s : String} {v : Json} (h : parse? s = some v) : Within depthLimit v := by
  obtain ⟨r, hread⟩ := readValue?_of_parse? h
  exact within_readValue? hread

theorem nodup_of_parse? {s : String} {fields : List (String × Json)}
    (h : parse? s = some (.object fields)) : (fields.map Prod.fst).Nodup := by
  rw [List.Nodup, List.pairwise_map]
  refine (within_parse? h).ascending.imp ?_
  intro f g hlt heq
  exact String.lt_irrefl _ (heq ▸ hlt)

theorem exists_brace_of_parse? {s : String} {fields : List (String × Json)}
    (h : parse? s = some (.object fields)) : ∃ t, skipGap s.toList = '{' :: t := by
  obtain ⟨r, hread⟩ := readValue?_of_parse? h
  exact exists_brace_of_readValue? hread

theorem exists_parseObject {s : String} {fields : List (String × Json)}
    (h : parse? s = some (.object fields)) :
    ∃ entries : Fields, entries.toList = fields ∧ parseObject s = .ok entries := by
  obtain ⟨t, ht⟩ := exists_brace_of_parse? h
  rw [parse?, parseWithin?, ht, depthLimit, readValue?_brace] at h
  cases hread : readObject? (readValue? 126) t with
  | none => simp [hread] at h
  | some p =>
    simp only [hread, Option.map_some] at h
    split at h
    · next hend =>
      cases h
      refine ⟨p.1, rfl, ?_⟩
      simp only [parseObject, ht, depthLimit, hread, hend, ↓reduceIte]
    · cases h

end BoardFilter.Json
