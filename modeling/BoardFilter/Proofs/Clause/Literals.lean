import BoardFilter.Proofs.Clause.Grammar
import BoardFilter.Proofs.Number.Numeral
import BoardFilter.Proofs.Number.Operations
import BoardFilter.Proofs.Text.Trimming

/-!
# Literals of numbers

A literal that is read as a number does not begin with an operator and holds no range mark: a
numeral has one point at most, and a literal two numerals. Blanks behind it make no difference. So
it is the same number behind every operator and at both ends of a range. It is not NaN, unless it is
a ratio of two infinite numbers.
-/

namespace BoardFilter

namespace Decimal

theorem count_dot_of_digits {ds : List Char} (h : ∀ c ∈ ds, c.isDigit = true) :
    ds.count '.' = 0 :=
  List.count_eq_zero.2 fun hdot => absurd (h '.' hdot) (by decide)

theorem count_dot_spanSign (s : List Char) : (spanSign s).2.count '.' = s.count '.' := by
  unfold spanSign
  split <;> simp

theorem count_dot_spanDigits (s : List Char) : (spanDigits s).2.count '.' = s.count '.' := by
  have hdigits : (s.takeWhile Char.isDigit).count '.' = 0 :=
    count_dot_of_digits fun c hc => List.mem_takeWhile_imp hc
  rw [spanDigits, List.span_eq_takeWhile_dropWhile]
  conv_rhs => rw [← List.takeWhile_append_dropWhile (p := Char.isDigit) (l := s)]
  rw [List.count_append, hdigits, Nat.zero_add]

theorem count_dot_exponentOf? {s : List Char} {e : Int} (h : exponentOf? s = some e) :
    s.count '.' = 0 := by
  cases s with
  | nil => rfl
  | cons c r =>
    rw [exponentOf?] at h
    split at h
    · next hc =>
      have hdigits : ∀ d ∈ (spanSign r).2, d.isDigit = true := by
        dsimp only at h
        split at h
        · cases h
        · next hall => simp_all
      have hne : c ≠ '.' := by
        rintro rfl
        exact absurd hc (by decide)
      rw [List.count_cons_of_ne hne, ← count_dot_spanSign, count_dot_of_digits hdigits]
    · cases h

theorem count_dot_ofUnsigned? {negative : Bool} {s : List Char} {d : Decimal}
    (h : ofUnsigned? negative s = some d) : s.count '.' ≤ 1 := by
  unfold ofUnsigned? at h
  rw [← count_dot_spanDigits s]
  generalize spanDigits s = parts at h ⊢
  obtain ⟨whole, r⟩ := parts
  dsimp only at h ⊢
  split at h
  · next r =>
    split at h
    · cases h
    · obtain ⟨e, he, -⟩ := Option.map_eq_some_iff.1 h
      rw [List.count_cons_self, ← count_dot_spanDigits, count_dot_exponentOf? he]
  · split at h
    · cases h
    · obtain ⟨e, he, -⟩ := Option.map_eq_some_iff.1 h
      rw [count_dot_exponentOf? he]
      exact Nat.zero_le 1

end Decimal

namespace Binary64

theorem count_dot_of_word {word s : List Char} (hword : '.' ∉ word)
    (h : s.map Char.toLower = word) : s.count '.' = 0 := by
  have hle := List.count_le_count_map (l := s) (f := Char.toLower) (x := '.')
  have hnone : (s.map Char.toLower).count '.' = 0 := by
    rw [h]
    exact List.count_eq_zero.2 hword
  exact Nat.le_zero.1 (hle.trans_eq hnone)

theorem count_dot_ofText? {s : List Char} {x : Binary64} (h : ofText? s = some x) :
    s.count '.' ≤ 1 := by
  unfold ofText? at h
  rw [← Decimal.count_dot_spanSign s]
  generalize Decimal.spanSign s = parts at h ⊢
  obtain ⟨negative, r⟩ := parts
  dsimp only at h ⊢
  split at h
  · next hword =>
    rcases hword with hword | hword <;>
    · rw [count_dot_of_word (by decide) hword]
      exact Nat.zero_le 1
  · split at h
    · next hword =>
      rw [count_dot_of_word (by decide) hword]
      exact Nat.zero_le 1
    · obtain ⟨d, hd, -⟩ := Option.map_eq_some_iff.1 h
      exact Decimal.count_dot_ofUnsigned? hd

theorem ofText?_of_operator {c : Char} (h : c = '<' ∨ c = '>' ∨ c = '=') (r : List Char) :
    ofText? (c :: r) = none := by
  rcases h with rfl | rfl | rfl <;>
  · simp [ofText?, Decimal.spanSign, Decimal.ofUnsigned?, Decimal.spanDigits,
      List.span_eq_takeWhile_dropWhile]

end Binary64

namespace Text

theorem count_trimmed {c : Char} (h : isBlank c = false) (s : List Char) :
    (trimmed s).count c = s.count c := by
  have hnone : ∀ t : List Char, (∀ d ∈ t, isBlank d = true) → t.count c = 0 := fun t ht =>
    List.count_eq_zero.2 fun hc => by simp [ht c hc] at h
  obtain ⟨u, v, hu, hv, hs⟩ := exists_trimmed s
  conv_rhs => rw [← hs]
  rw [List.count_append, List.count_append, hnone u hu, hnone v hv, Nat.zero_add, Nat.add_zero]

theorem dropTail?_eq_some_iff {tail : String} {s d : List Char} :
    dropTail? tail s = some d ↔ d ++ tail.toList = s := by
  simp only [dropTail?, Option.map_eq_some_iff, List.isPrefixOf?_eq_some_iff_append_eq]
  constructor
  · rintro ⟨r, hr, rfl⟩
    rw [← List.reverse_reverse s, ← hr, List.reverse_append, List.reverse_reverse]
  · rintro rfl
    exact ⟨d.reverse, by rw [List.reverse_append], List.reverse_reverse d⟩

theorem trimmed_cons {c : Char} (h : isBlank c = false) (r : List Char) :
    trimmed (c :: r) = c :: dropEndWhile isBlank r := by
  have hone : ∀ d ∈ [c], isBlank d = false := by simpa using h
  rw [trimmed, dropWhile_of_head fun d hd => Option.some.inj hd ▸ h]
  exact dropEndWhile_append hone r

end Text

namespace Clause

theorem number?_eq_some_iff {s : List Char} {x : Binary64} :
    number? s = some x ↔ Binary64.ofText? (Text.trimmed s) = some x ∧ x.isNaN = false := by
  unfold number?
  cases Binary64.ofText? (Text.trimmed s) with
  | none => simp
  | some y =>
    cases hnan : y.isNaN with
    | true =>
      refine iff_of_false (by simp [hnan]) ?_
      rintro ⟨hy, hx⟩
      cases hy
      cases hnan.symm.trans hx
    | false =>
      simp only [hnan, Bool.false_eq_true, ↓reduceIte, Option.some.injEq]
      exact ⟨fun hy => ⟨hy, hy ▸ hnan⟩, And.left⟩

theorem number?_toDigits (n : Nat) : number? (Nat.toDigits 10 n) = some (.ofNat n) := by
  have hdigits : ∀ c ∈ Nat.toDigits 10 n, c.isDigit = true := fun _ => isDigit_of_mem_toDigits
  refine number?_eq_some_iff.2 ⟨?_, Binary64.isNaN_ofNat n⟩
  rw [Text.trimmed_of_no_blank fun c hc => Text.isBlank_of_isDigit (hdigits c hc),
    Binary64.ofText?_digits Nat.toDigits_ne_nil hdigits, Decimal.natOfDigits_toDigits]

theorem count_dot_number? {s : List Char} {x : Binary64} (h : number? s = some x) :
    s.count '.' ≤ 1 := by
  rw [← Text.count_trimmed (by decide)]
  exact Binary64.count_dot_ofText? (number?_eq_some_iff.1 h).1

theorem number?_append_blanks {t : List Char} (h : ∀ c ∈ t, Text.isBlank c = true)
    (s : List Char) : number? (s ++ t) = number? s := by
  rw [number?, Text.trimmed_append_blanks h, number?]

theorem isBlank_of_operator {c : Char} (h : c = '<' ∨ c = '>' ∨ c = '=') :
    Text.isBlank c = false := by
  rcases h with rfl | rfl | rfl <;> decide

theorem number?_of_operator {c : Char} (h : c = '<' ∨ c = '>' ∨ c = '=') (r : List Char) :
    number? (c :: r) = none := by
  rw [number?, Text.trimmed_cons (isBlank_of_operator h), Binary64.ofText?_of_operator h]

theorem not_operator_of_number?_append {c : Char} {s t r : List Char} {x : Binary64}
    (h : number? s = some x) (hs : s ++ t = c :: r) : ¬ (c = '<' ∨ c = '>' ∨ c = '=') := by
  intro hc
  cases s with
  | nil =>
    have hempty : number? [] = none := by decide
    rw [hempty] at h
    cases h
  | cons d s =>
    obtain ⟨rfl, -⟩ := List.cons.inj hs
    rw [number?_of_operator hc] at h
    cases h

theorem size?_cases (s : List Char) :
    ∃ unit ∈ ("", 1) :: sizeUnits, ∃ digits, Text.trimmed s = digits ++ unit.1.toList ∧
      size? s = (number? digits).map fun x => (x.mul (.ofNat unit.2)).round := by
  unfold size?
  dsimp only
  cases hfound : sizeUnits.findSome? fun u =>
      (Text.dropTail? u.1 (Text.trimmed s)).map (·, u.2) with
  | none => exact ⟨("", 1), by decide, Text.trimmed s, by simp, rfl⟩
  | some found =>
    obtain ⟨unit, hunit, hdrop⟩ := List.exists_of_findSome?_eq_some hfound
    obtain ⟨digits, hdigits, hpair⟩ := Option.map_eq_some_iff.1 hdrop
    have hsplit := Text.dropTail?_eq_some_iff.1 hdigits
    refine ⟨unit, List.mem_cons_of_mem _ hunit, digits, hsplit.symm, ?_⟩
    rw [← hpair]

theorem of_mem_units {unit : String × Nat} (h : unit ∈ ("", 1) :: sizeUnits) :
    '.' ∉ unit.1.toList ∧ 0 < unit.2 ∧ unit.2 ≤ 2 ^ 53 := by
  revert unit
  decide

theorem ratio?_plain {s : List Char} (h : ':' ∉ s) : ratio? s = number? s := by
  have hall : ∀ c ∈ s, decide (c ≠ ':') = true := fun c hc =>
    decide_eq_true (ne_of_mem_of_not_mem hc h)
  rw [ratio?, List.span_eq_takeWhile_dropWhile, List.dropWhile_eq_nil_iff.2 hall]

section

variable {width height : List Char} (hw : ':' ∉ width)

include hw

theorem ratio?_colon :
    ratio? (width ++ ':' :: height) =
      match number? width, number? height with
      | some w, some h => if h.same (.ofNat 0) then none else some (toHundredths (w.div h))
      | _, _ => none := by
  have hall : ∀ c ∈ width, decide (c ≠ ':') = true := fun c hc =>
    decide_eq_true (ne_of_mem_of_not_mem hc hw)
  have hspan : (width ++ ':' :: height).span (· ≠ ':') = (width, ':' :: height) := by
    rw [List.span_eq_takeWhile_dropWhile, List.takeWhile_append_of_pos hall,
      List.dropWhile_append_of_pos hall]
    simp
  rw [ratio?, hspan]
  rfl

theorem of_ratio?_colon {x : Binary64} (h : ratio? (width ++ ':' :: height) = some x) :
    ∃ w h, number? width = some w ∧ number? height = some h ∧ h.same (.ofNat 0) = false ∧
      x = toHundredths (w.div h) := by
  rw [ratio?_colon hw] at h
  split at h
  · next w h' hwidth hheight =>
    split at h
    · cases h
    · next hzero => exact ⟨w, h', hwidth, hheight, by simpa using hzero, (Option.some.inj h).symm⟩
  · cases h

end

/-- How a field comes to read a literal as a number. -/
inductive ReadAs : Field → List Char → Binary64 → Prop where
  | number {field : Field} {s : List Char} {x : Binary64} (h : number? s = some x) :
    ReadAs field s x
  | size {s digits : List Char} {unit : String × Nat} {x : Binary64}
    (hunit : unit ∈ ("", 1) :: sizeUnits) (hs : Text.trimmed s = digits ++ unit.1.toList)
    (hdigits : number? digits = some x) : ReadAs .fileSize s (x.mul (.ofNat unit.2)).round
  | ratio {width height : List Char} {w h : Binary64} (hcolon : ':' ∉ width)
    (hw : number? width = some w) (hh : number? height = some h)
    (hzero : h.same (.ofNat 0) = false) :
    ReadAs .aspectRatio (width ++ ':' :: height) (toHundredths (w.div h))

theorem readAs_of_numberOf? {field : Field} {s : List Char} {x : Binary64}
    (h : numberOf? field s = some x) : ReadAs field s x := by
  unfold numberOf? at h
  split at h
  · obtain ⟨unit, hunit, digits, hs, hsize⟩ := size?_cases s
    obtain ⟨y, hy, rfl⟩ := Option.map_eq_some_iff.1 (hsize.symm.trans h)
    exact .size hunit hs hy
  · by_cases hs : ':' ∈ s
    · obtain ⟨width, height, rfl, hcolon⟩ := List.eq_append_cons_of_mem hs
      obtain ⟨w, h', hw, hh, hzero, rfl⟩ := of_ratio?_colon hcolon h
      exact .ratio hcolon hw hh hzero
    · rw [ratio?_plain hs] at h
      exact .number h
  · exact .number h

theorem numberOf?_append_blanks (field : Field) {t : List Char}
    (ht : ∀ c ∈ t, Text.isBlank c = true) (s : List Char) :
    numberOf? field (s ++ t) = numberOf? field s := by
  unfold numberOf?
  split
  · rw [size?, Text.trimmed_append_blanks ht, size?]
  · have hcolon : ':' ∉ t := fun hmem => absurd (ht _ hmem) (by decide)
    by_cases hs : ':' ∈ s
    · obtain ⟨width, height, rfl, hw⟩ := List.eq_append_cons_of_mem hs
      rw [List.append_assoc, List.cons_append, ratio?_colon hw, ratio?_colon hw,
        number?_append_blanks ht]
    · rw [ratio?_plain hs, ratio?_plain (by simp [hs, hcolon]), number?_append_blanks ht]
  · exact number?_append_blanks ht s

theorem numberOf?_dropEndWhile (field : Field) (s : List Char) :
    numberOf? field (Text.dropEndWhile Text.isBlank s) = numberOf? field s := by
  conv_rhs => rw [← List.rdropWhile_append_rtakeWhile (p := Text.isBlank) (l := s)]
  rw [numberOf?_append_blanks field fun c hc => List.mem_rtakeWhile_imp hc,
    Text.dropEndWhile_eq_rdropWhile]

section

variable {field : Field} {s : List Char} {x : Binary64} (h : numberOf? field s = some x)

include h

theorem count_dot_numberOf? : s.count '.' ≤ 2 := by
  cases readAs_of_numberOf? h with
  | number h => exact Nat.le_succ_of_le (count_dot_number? h)
  | size hunit hs hdigits =>
    rw [← Text.count_trimmed (by decide), hs, List.count_append,
      List.count_eq_zero.2 (of_mem_units hunit).1]
    exact Nat.le_succ_of_le (count_dot_number? hdigits)
  | ratio _ hw hh _ =>
    rw [List.count_append, List.count_cons_of_ne (by decide)]
    exact Nat.add_le_add (count_dot_number? hw) (count_dot_number? hh)

theorem not_hasRangeMark_of_numberOf? : ¬ HasRangeMark s := by
  intro hmark
  have hle : rangeMark.toList.count '.' ≤ s.count '.' := hmark.sublist.count_le '.'
  have hthree : rangeMark.toList.count '.' = 3 := by decide
  have := count_dot_numberOf? h
  omega

theorem not_operator_of_numberOf? {c : Char} {r : List Char} (hs : s = c :: r) :
    ¬ (c = '<' ∨ c = '>' ∨ c = '=') := by
  cases readAs_of_numberOf? h with
  | number h => exact not_operator_of_number?_append h ((List.append_nil s).trans hs)
  | size _ htrimmed hdigits =>
    intro hc
    rw [hs, Text.trimmed_cons (isBlank_of_operator hc)] at htrimmed
    exact not_operator_of_number?_append hdigits htrimmed.symm hc
  | ratio _ hw _ _ => exact not_operator_of_number?_append hw hs

theorem follows_of_numberOf? (sign : String) : Follows sign s := by
  apply follows_of_head
  intro c hc
  obtain ⟨r, hs⟩ := List.head?_eq_some_iff.1 hc
  simpa only [not_or] using not_operator_of_numberOf? h hs

end

theorem splitComparison_of_numberOf? {field : Field} {s : List Char} {x : Binary64}
    (h : numberOf? field s = some x) {sign : String} {comparison : Comparison}
    (hsign : (sign, comparison) ∈ signs) :
    splitComparison (sign.toList ++ s) = (comparison, s) :=
  splitComparison_sign_append hsign (not_hasRangeMark_of_numberOf? h)
    (follows_of_numberOf? h sign)

/-- A ratio of two infinite numbers, which is the only ratio that is no number. -/
def InfiniteRatio (s : List Char) : Prop :=
  ∃ width height w h, s = width ++ ':' :: height ∧ ':' ∉ width ∧ number? width = some w ∧
    number? height = some h ∧ w.isInfinite = true ∧ h.isInfinite = true

def Accepts (field : Field) (literal : String) : Prop :=
  (numberOf? field literal.toList).isSome = true ∧
    ¬ (field = .aspectRatio ∧ InfiniteRatio literal.toList)

theorem isNaN_of_numberOf? {field : Field} {s : List Char} {x : Binary64}
    (h : numberOf? field s = some x) (hfinite : ¬ (field = .aspectRatio ∧ InfiniteRatio s)) :
    x.isNaN = false := by
  cases readAs_of_numberOf? h with
  | number h => exact (number?_eq_some_iff.1 h).2
  | size hunit _ hdigits =>
    obtain ⟨-, hpos, hle⟩ := of_mem_units hunit
    have hnumber := (number?_eq_some_iff.1 hdigits).2
    exact Binary64.isNaN_round (Binary64.isNaN_mul_ofNat hnumber hpos hle)
  | @ratio width height w h' hcolon hw hh hzero =>
    apply isNaN_toHundredths
    apply Binary64.isNaN_div (number?_eq_some_iff.1 hw).2 (number?_eq_some_iff.1 hh).2 hzero
    rintro ⟨hwi, hhi⟩
    exact hfinite ⟨rfl, width, height, w, h', rfl, hcolon, hw, hh, hwi, hhi⟩

theorem Accepts.exists_place {field : Field} {literal : String} (h : Accepts field literal) :
    ∃ x place, numberOf? field literal.toList = some x ∧ x.rank? = some place := by
  obtain ⟨x, hx⟩ := Option.isSome_iff_exists.1 h.1
  obtain ⟨place, hplace⟩ := Binary64.exists_rank (isNaN_of_numberOf? hx h.2)
  exact ⟨x, place, hx, hplace⟩

end Clause

end BoardFilter
