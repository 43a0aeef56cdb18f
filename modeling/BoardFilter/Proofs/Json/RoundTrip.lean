import BoardFilter.Json.Writer
import BoardFilter.Proofs.Json.Escapes
import BoardFilter.Proofs.Json.Nesting
import Mathlib.Data.List.DropRight

/-!
# Documents are read back

The text of a value is read back as the value, whatever follows, as long as its numbers are whole
and it is nested no deeper than is read.
-/

namespace BoardFilter.Json

theorem skipGap_cons {c : Char} (h : isGap c = false) (r : List Char) :
    skipGap (c :: r) = c :: r := by
  rw [skipGap, List.dropWhile_cons_of_neg (by simp [h])]

theorem skipGap_newline (level : Nat) (s : List Char) :
    skipGap (newline level ++ s) = skipGap s := by
  have hgap : ∀ c ∈ newline level, isGap c = true := by
    intro c hc
    rcases List.mem_cons.1 hc with rfl | hc
    · rfl
    · rw [(List.mem_replicate.1 hc).2]
      rfl
  rw [skipGap, skipGap, List.dropWhile_append_of_pos hgap]

theorem skipGap_close (level : Nat) {c : Char} (h : isGap c = false) (r : List Char) :
    skipGap (newline level ++ c :: r) = c :: r := by
  rw [skipGap_newline, skipGap_cons h]

theorem skipGap_skipGap (s : List Char) : skipGap (skipGap s) = skipGap s :=
  List.dropWhile_idempotent _ s

theorem readItems?_skipGap (value : List Char → Option (Json × List Char)) (steps : Nat)
    (done : List Json) (s : List Char) :
    readItems? value steps done (skipGap s) = readItems? value steps done s := by
  cases steps with
  | zero => rfl
  | succ steps => rw [readItems?, readItems?, skipGap_skipGap]

theorem readFields?_skipGap (value : List Char → Option (Json × List Char)) (steps : Nat)
    (done : Fields) (s : List Char) :
    readFields? value steps done (skipGap s) = readFields? value steps done s := by
  cases steps with
  | zero => rfl
  | succ steps => rw [readFields?, readFields?, skipGap_skipGap]

theorem endsNumeral_cons {c : Char} (h : c.isDigit = false ∧ c ≠ '.' ∧ c ≠ 'e' ∧ c ≠ 'E')
    (r : List Char) : EndsNumeral (c :: r) := by
  intro d hd
  cases hd
  exact h

theorem endsNumeral_comma (r : List Char) : EndsNumeral (',' :: r) :=
  endsNumeral_cons (by decide) r

theorem endsNumeral_newline (level : Nat) (r : List Char) : EndsNumeral (newline level ++ r) :=
  endsNumeral_cons (c := '\n') (by decide) _

theorem readScalar?_numeral {c : Char} (h : BeginsNumeral c) (r : List Char) :
    readScalar? (c :: r) = readNumeral? (c :: r) := by
  rw [readScalar?.eq_def]
  split
  · next heq => exact absurd (List.cons.inj heq).1 (h.ne rfl (by decide))
  · next heq => exact absurd (List.cons.inj heq).1 (h.ne rfl (by decide))
  · next heq => exact absurd (List.cons.inj heq).1 (h.ne rfl (by decide))
  · next heq => exact absurd (List.cons.inj heq).1 (h.ne rfl (by decide))
  · rfl

theorem readValue?_scalar (depth : Nat) {c : Char} (harray : c ≠ '[') (hobject : c ≠ '{')
    (r : List Char) : readValue? depth (c :: r) = readScalar? (c :: r) := by
  rw [readValue?.eq_def]
  split
  · next heq => exact absurd (List.cons.inj heq).1 harray
  · next heq => exact absurd (List.cons.inj heq).1 hobject
  · next heq => exact absurd (List.cons.inj heq).1 harray
  · next heq => exact absurd (List.cons.inj heq).1 hobject
  · rfl

theorem exists_cons_writeAt (level : Nat) {v : Json} (h : FloatFree v) :
    ∃ c r, writeAt level v = c :: r ∧ isGap c = false ∧ c ≠ ']' := by
  cases h with
  | null => exact ⟨'n', _, rfl, rfl, by decide⟩
  | bool b =>
    cases b with
    | true => exact ⟨'t', _, rfl, rfl, by decide⟩
    | false => exact ⟨'f', _, rfl, rfl, by decide⟩
  | int n =>
    obtain ⟨c, r, hr, hc⟩ := exists_cons_toString n
    refine ⟨c, r, by rw [writeAt, hr], ?_, hc.ne rfl (by decide)⟩
    simp only [isGap, hc.ne (d := ' ') rfl (by decide), hc.ne (d := '\t') rfl (by decide),
      hc.ne (d := '\n') rfl (by decide), hc.ne (d := '\r') rfl (by decide), decide_false,
      Bool.or_false]
  | text s => exact ⟨'"', _, by rw [writeAt, quoted], rfl, by decide⟩
  | @array items _ =>
    cases items with
    | nil => exact ⟨'[', _, by rw [writeAt], rfl, by decide⟩
    | cons v vs => exact ⟨'[', _, by rw [writeAt], rfl, by decide⟩
  | @object fields _ =>
    cases fields with
    | nil => exact ⟨'{', _, by rw [writeAt], rfl, by decide⟩
    | cons f fs => exact ⟨'{', _, by rw [writeAt], rfl, by decide⟩

/-- The text of the value, on any level and before any text that does not prolong a numeral. -/
def ReadsBack (depth : Nat) (v : Json) : Prop :=
  ∀ (level : Nat) (r : List Char), EndsNumeral r →
    readValue? depth (writeAt level v ++ r) = some (v, r)

theorem skipGap_writeItems (level : Nat) {v : Json} (hv : FloatFree v) (vs : List Json)
    (r : List Char) :
    skipGap (writeItems level (v :: vs) ++ r) =
      writeAt level v ++ (separator vs ++ (writeItems level vs ++ r)) := by
  obtain ⟨c, s, hs, hc, -⟩ := exists_cons_writeAt level hv
  simp only [writeItems, List.append_assoc, skipGap_newline, hs, List.cons_append]
  exact skipGap_cons hc _

theorem length_le_writeItems (level : Nat) (vs : List Json) :
    vs.length ≤ (writeItems level vs).length := by
  induction vs with
  | nil => exact Nat.zero_le _
  | cons v vs ih =>
    simp only [writeItems, newline, List.length_append, List.length_cons]
    omega

theorem readItems?_item {depth : Nat} (level : Nat) {v : Json} {vs : List Json}
    (h : FloatFree v ∧ ReadsBack depth v) {t : List Char}
    (hend : EndsNumeral (separator vs ++ (writeItems level vs ++ t))) (steps : Nat)
    (done : List Json) (r : List Char) :
    (skipGap (separator vs ++ (writeItems level vs ++ t)) = ',' :: r →
      readItems? (readValue? depth) (steps + 1) done (writeItems level (v :: vs) ++ t) =
        readItems? (readValue? depth) steps (v :: done) r) ∧
    (skipGap (separator vs ++ (writeItems level vs ++ t)) = ']' :: r →
      readItems? (readValue? depth) (steps + 1) done (writeItems level (v :: vs) ++ t) =
        some ((v :: done).reverse, r)) := by
  obtain ⟨hfree, hback⟩ := h
  have hread := hback level _ hend
  rw [readItems?, skipGap_writeItems level hfree]
  constructor
  · intro hcomma
    simp only [hread, hcomma]
  · intro hbracket
    simp only [hread, hbracket]

theorem readItems?_writeItems {depth : Nat} (level outer : Nat) {v : Json} {vs : List Json}
    (h : ∀ w ∈ v :: vs, FloatFree w ∧ ReadsBack depth w) {steps : Nat}
    (hsteps : vs.length < steps) (done : List Json) (r : List Char) :
    readItems? (readValue? depth) steps done
        (writeItems level (v :: vs) ++ (newline outer ++ ']' :: r)) =
      some (done.reverse ++ v :: vs, r) := by
  have hv := h v List.mem_cons_self
  induction vs generalizing v done steps with
  | nil =>
    cases steps with
    | zero => cases hsteps
    | succ steps =>
      have hend : EndsNumeral (separator ([] : List Json) ++
          (writeItems level [] ++ (newline outer ++ ']' :: r))) := by
        rw [writeItems]
        exact endsNumeral_newline outer _
      have hbracket : skipGap (separator ([] : List Json) ++
          (writeItems level [] ++ (newline outer ++ ']' :: r))) = ']' :: r := by
        rw [writeItems]
        exact skipGap_close outer rfl r
      rw [(readItems?_item level hv hend steps done r).2 hbracket, List.reverse_cons]
  | cons w vs ih =>
    cases steps with
    | zero => cases hsteps
    | succ steps =>
      have hend : EndsNumeral (separator (w :: vs) ++
          (writeItems level (w :: vs) ++ (newline outer ++ ']' :: r))) := endsNumeral_comma _
      have hcomma := (readItems?_item level hv hend steps done _).1 (skipGap_cons rfl _)
      have hnext := ih (fun x hx => h x (List.mem_cons_of_mem v hx)) (Nat.lt_of_succ_lt_succ hsteps)
        (v :: done) (h w (List.mem_cons_of_mem v List.mem_cons_self))
      rw [hcomma]
      refine hnext.trans ?_
      rw [List.reverse_cons, List.append_assoc, List.singleton_append]

theorem readValue?_items {depth : Nat} {s : List Char} (h : ∀ c ∈ (skipGap s).head?, c ≠ ']') :
    readValue? (depth + 1) ('[' :: s) =
      (readItems? (readValue? depth) ((skipGap s).length + 1) [] s).map
        fun p => (.array p.1, p.2) := by
  rw [readValue?]
  split
  · next heq => exact absurd rfl (h ']' (by rw [heq]; rfl))
  · rw [readItems?_skipGap]

theorem readsBack_array {depth : Nat} {items : List Json}
    (h : ∀ w ∈ items, FloatFree w ∧ ReadsBack depth w) : ReadsBack (depth + 1) (.array items) := by
  intro level r _
  cases items with
  | nil =>
    rw [writeAt]
    rfl
  | cons v vs =>
    obtain ⟨hfree, -⟩ := h v List.mem_cons_self
    have hgap := skipGap_writeItems (level + 1) hfree vs (newline level ++ ']' :: r)
    obtain ⟨c, s, hs, -, hc⟩ := exists_cons_writeAt (level + 1) hfree
    have hsteps : vs.length < (skipGap (writeItems (level + 1) (v :: vs) ++
        (newline level ++ ']' :: r))).length + 1 := by
      have hlen := length_le_writeItems (level + 1) vs
      simp only [hgap, List.length_append]
      omega
    have htext : writeAt level (.array (v :: vs)) ++ r =
        '[' :: (writeItems (level + 1) (v :: vs) ++ (newline level ++ ']' :: r)) := by
      simp only [writeAt, List.cons_append, List.append_assoc, List.nil_append]
    rw [htext, readValue?_items, readItems?_writeItems (level + 1) level h hsteps]
    · rfl
    · rw [hgap, hs]
      rintro d hd
      cases hd
      exact hc

theorem skipGap_writeFields (level : Nat) (f : String × Json) (fs : List (String × Json))
    (r : List Char) :
    skipGap (writeFields level (f :: fs) ++ r) =
      '"' :: (f.1.toList.flatMap escaped ++ '"' :: ':' :: ' ' ::
        (writeAt level f.2 ++ (separator fs ++ (writeFields level fs ++ r)))) := by
  simp only [writeFields, quoted, List.append_assoc, List.cons_append, List.nil_append,
    skipGap_newline]
  exact skipGap_cons rfl _

theorem length_le_writeFields (level : Nat) (fs : List (String × Json)) :
    fs.length ≤ (writeFields level fs).length := by
  induction fs with
  | nil => exact Nat.zero_le _
  | cons f fs ih =>
    simp only [writeFields, newline, List.length_append, List.length_cons]
    omega

theorem readFields?_field {depth : Nat} (level : Nat) {f : String × Json}
    {fs : List (String × Json)} (h : FloatFree f.2 ∧ ReadsBack depth f.2) {t : List Char}
    (hend : EndsNumeral (separator fs ++ (writeFields level fs ++ t))) (steps : Nat)
    (done : Fields) (r : List Char) :
    (skipGap (separator fs ++ (writeFields level fs ++ t)) = ',' :: r →
      readFields? (readValue? depth) (steps + 1) done (writeFields level (f :: fs) ++ t) =
        readFields? (readValue? depth) steps (done.put f.1 f.2) r) ∧
    (skipGap (separator fs ++ (writeFields level fs ++ t)) = '}' :: r →
      readFields? (readValue? depth) (steps + 1) done (writeFields level (f :: fs) ++ t) =
        some (done.put f.1 f.2, r)) := by
  obtain ⟨hfree, hback⟩ := h
  obtain ⟨c, s, hs, hc, -⟩ := exists_cons_writeAt level hfree
  generalize hrest : separator fs ++ (writeFields level fs ++ t) = rest at hend ⊢
  have hgap : skipGap (' ' :: (writeAt level f.2 ++ rest)) = writeAt level f.2 ++ rest := by
    rw [hs, List.cons_append]
    exact skipGap_cons hc _
  have hread := hback level rest hend
  rw [readFields?, skipGap_writeFields, hrest]
  constructor
  · intro hcomma
    simp only [readText?_quoted, List.reverse_nil, List.nil_append, skipGap_cons (c := ':') rfl,
      hgap, hread, hcomma, String.ofList_toList]
  · intro hbrace
    simp only [readText?_quoted, List.reverse_nil, List.nil_append, skipGap_cons (c := ':') rfl,
      hgap, hread, hbrace, String.ofList_toList]

theorem readFields?_writeFields {depth : Nat} (level outer : Nat) {f : String × Json}
    {fs : List (String × Json)} (h : ∀ g ∈ f :: fs, FloatFree g.2 ∧ ReadsBack depth g.2)
    {steps : Nat} (hsteps : fs.length < steps) {done : Fields}
    (hascending : (done.toList ++ f :: fs).Pairwise (·.1 < ·.1)) (r : List Char) :
    readFields? (readValue? depth) steps done
        (writeFields level (f :: fs) ++ (newline outer ++ '}' :: r)) =
      some (⟨done.toList ++ f :: fs, hascending⟩, r) := by
  have hf := h f List.mem_cons_self
  -- the names come in order, so every field is put after those that were read
  induction fs generalizing f done steps with
  | nil =>
    cases steps with
    | zero => cases hsteps
    | succ steps =>
      have hend : EndsNumeral (separator ([] : List (String × Json)) ++
          (writeFields level [] ++ (newline outer ++ '}' :: r))) := by
        rw [writeFields]
        exact endsNumeral_newline outer _
      have hbrace : skipGap (separator ([] : List (String × Json)) ++
          (writeFields level [] ++ (newline outer ++ '}' :: r))) = '}' :: r := by
        rw [writeFields]
        exact skipGap_close outer rfl r
      have hput : done.put f.1 f.2 = ⟨done.toList ++ [f], hascending⟩ :=
        Fields.ext (putField_of_pairwise hascending)
      rw [(readFields?_field level hf hend steps done r).2 hbrace, hput]
  | cons g fs ih =>
    cases steps with
    | zero => cases hsteps
    | succ steps =>
      have hend : EndsNumeral (separator (g :: fs) ++
          (writeFields level (g :: fs) ++ (newline outer ++ '}' :: r))) := endsNumeral_comma _
      have hcomma := (readFields?_field level hf hend steps done _).1 (skipGap_cons rfl _)
      have hput : (done.put f.1 f.2).toList = done.toList ++ [f] := putField_of_pairwise hascending
      have hcons : (done.put f.1 f.2).toList ++ g :: fs = done.toList ++ f :: g :: fs := by
        rw [hput, List.append_assoc, List.singleton_append]
      have hnext := ih (fun x hx => h x (List.mem_cons_of_mem f hx))
        (Nat.lt_of_succ_lt_succ hsteps) (hcons ▸ hascending)
        (h g (List.mem_cons_of_mem f List.mem_cons_self))
      rw [hcomma]
      refine hnext.trans ?_
      simp only [hcons]

theorem readObject?_fields {value : List Char → Option (Json × List Char)} {s : List Char}
    (h : ∀ c ∈ (skipGap s).head?, c ≠ '}') :
    readObject? value s = readFields? value ((skipGap s).length + 1) .empty s := by
  unfold readObject?
  split
  · next heq => exact absurd rfl (h '}' (by rw [heq]; rfl))
  · rw [readFields?_skipGap]

theorem readsBack_object {depth : Nat} {fields : List (String × Json)}
    (h : ∀ f ∈ fields, FloatFree f.2 ∧ ReadsBack depth f.2)
    (hascending : fields.Pairwise (·.1 < ·.1)) : ReadsBack (depth + 1) (.object fields) := by
  intro level r _
  cases fields with
  | nil =>
    rw [writeAt]
    rfl
  | cons f fs =>
    have hgap := skipGap_writeFields (level + 1) f fs (newline level ++ '}' :: r)
    have hsteps : fs.length < (skipGap (writeFields (level + 1) (f :: fs) ++
        (newline level ++ '}' :: r))).length + 1 := by
      have hlen := length_le_writeFields (level + 1) fs
      simp only [hgap, List.length_append, List.length_cons]
      omega
    have htext : writeAt level (.object (f :: fs)) ++ r =
        '{' :: (writeFields (level + 1) (f :: fs) ++ (newline level ++ '}' :: r)) := by
      simp only [writeAt, List.cons_append, List.append_assoc, List.nil_append]
    have hafter : (Fields.empty.toList ++ f :: fs).Pairwise (·.1 < ·.1) := hascending
    rw [htext, readValue?_brace, readObject?_fields,
      readFields?_writeFields (level + 1) level h hsteps hafter]
    · rfl
    · rw [hgap]
      rintro d hd
      cases hd
      decide

theorem readsBack_of_scalar {depth : Nat} {v : Json}
    (h : ∀ level r, EndsNumeral r → ∃ c s, writeAt level v ++ r = c :: s ∧ c ≠ '[' ∧ c ≠ '{' ∧
      readScalar? (c :: s) = some (v, r)) : ReadsBack depth v := by
  intro level r hr
  obtain ⟨c, s, hs, harray, hobject, hread⟩ := h level r hr
  rw [hs, readValue?_scalar depth harray hobject, hread]

theorem readsBack_int {depth : Nat} {n : Int} (hn : IsWord n) : ReadsBack depth (.int n) := by
  apply readsBack_of_scalar
  intro level r hr
  obtain ⟨c, s, hs, hc⟩ := exists_cons_toString n
  have hread := readNumeral?_int hn hr
  rw [hs, List.cons_append] at hread
  refine ⟨c, s ++ r, ?_, hc.ne rfl (by decide), hc.ne rfl (by decide), ?_⟩
  · rw [writeAt, hs, List.cons_append]
  · rw [readScalar?_numeral hc, hread]

theorem readsBack_text {depth : Nat} (s : String) : ReadsBack depth (.text s) := by
  apply readsBack_of_scalar
  intro level r _
  refine ⟨'"', s.toList.flatMap escaped ++ '"' :: r, ?_, by decide, by decide, ?_⟩
  · simp only [writeAt, quoted, List.cons_append, List.append_assoc, List.nil_append]
  · simp only [readScalar?, readText?_quoted, List.reverse_nil, List.nil_append, Option.map_some,
      String.ofList_toList]

theorem Within.readsBack {depth : Nat} {v : Json} (h : Within depth v) (hfree : FloatFree v) :
    ReadsBack depth v := by
  induction h with
  | null =>
    apply readsBack_of_scalar
    exact fun level r _ => ⟨'n', _, by rw [writeAt]; rfl, by decide, by decide, rfl⟩
  | bool b =>
    apply readsBack_of_scalar
    cases b with
    | true => exact fun level r _ => ⟨'t', _, by rw [writeAt]; rfl, by decide, by decide, rfl⟩
    | false => exact fun level r _ => ⟨'f', _, by rw [writeAt]; rfl, by decide, by decide, rfl⟩
  | int hn => exact readsBack_int hn
  | float x => cases hfree
  | text s => exact readsBack_text s
  | array h ih =>
    have hitems := floatFree_array_iff.1 hfree
    exact readsBack_array fun w hw => ⟨hitems w hw, ih w hw (hitems w hw)⟩
  | object hascending h ih =>
    have hfields := floatFree_object_iff.1 hfree
    exact readsBack_object (fun f hf => ⟨hfields f hf, ih f hf (hfields f hf)⟩) hascending

theorem parseWithin?_pretty {depth : Nat} {v : Json} (h : Within depth v) (hfree : FloatFree v) :
    parseWithin? depth (pretty v) = some v := by
  have hread := h.readsBack hfree 0 [] (fun c hc => by cases hc)
  obtain ⟨c, s, hs, hc, -⟩ := exists_cons_writeAt 0 hfree
  rw [List.append_nil, hs] at hread
  rw [parseWithin?, pretty, String.toList_ofList, hs, skipGap_cons hc, hread]
  rfl

theorem parse?_pretty {v : Json} (h : Within depthLimit v) (hfree : FloatFree v) :
    parse? (pretty v) = some v :=
  parseWithin?_pretty h hfree

end BoardFilter.Json
