import BoardFilter.Clause.Reader
import Mathlib.Data.List.Infix

/-!
# Splitting tokens

What is split off a token is found by the texts that it begins with. No spelling of a field begins
another one, and an operator is found before those that begin it, so what was written in front of a
literal is what is split off it. A literal with a range mark anywhere is left whole.
-/

namespace BoardFilter

namespace Text

variable {lead : String} {s rest : List Char}

theorem dropLead?_eq_some_iff : dropLead? lead s = some rest ↔ lead.toList ++ rest = s :=
  List.isPrefixOf?_eq_some_iff_append_eq

theorem dropLead?_eq_none_iff : dropLead? lead s = none ↔ ¬ lead.toList <+: s := by
  rw [Option.eq_none_iff_forall_ne_some]
  simp only [ne_eq, dropLead?_eq_some_iff]
  exact not_exists.symm

theorem dropLead?_append (lead : String) (s : List Char) :
    dropLead? lead (lead.toList ++ s) = some s := dropLead?_eq_some_iff.2 rfl

theorem splitAtLead_go_ne_nil (separator : String) (n : Nat) (s piece : List Char) :
    splitAtLead.go separator n s piece ≠ [] := by
  induction n generalizing s piece with
  | zero => simp [splitAtLead.go]
  | succ n ih =>
    cases s with
    | nil => simp [splitAtLead.go]
    | cons c r =>
      rw [splitAtLead.go]
      split
      · exact List.cons_ne_nil _ _
      · exact ih r (c :: piece)

theorem one_lt_length_splitAtLead_go {separator : String} (hne : separator.toList ≠ []) {n : Nat}
    {s : List Char} (hlen : s.length ≤ n) (piece : List Char) :
    1 < (splitAtLead.go separator n s piece).length ↔ separator.toList <:+: s := by
  induction n generalizing s piece with
  | zero =>
    rw [List.length_eq_zero_iff.1 (Nat.le_zero.1 hlen)]
    simp [splitAtLead.go, hne]
  | succ n ih =>
    cases s with
    | nil => simp [splitAtLead.go, hne]
    | cons c r =>
      rw [splitAtLead.go]
      cases hdrop : dropLead? separator (c :: r) with
      | some rest =>
        have hpos := List.length_pos_iff.2 (splitAtLead_go_ne_nil separator n rest [])
        have hinfix : separator.toList <:+: c :: r :=
          List.IsPrefix.isInfix ⟨rest, dropLead?_eq_some_iff.1 hdrop⟩
        simp only [List.length_cons]
        exact iff_of_true (by omega) hinfix
      | none =>
        have hlen' : r.length ≤ n := by simpa using hlen
        rw [List.infix_cons_iff, or_iff_right (dropLead?_eq_none_iff.1 hdrop)]
        exact ih hlen' (c :: piece)

theorem one_lt_length_splitAtLead {separator : String} (hne : separator.toList ≠ [])
    (s : List Char) : 1 < (splitAtLead separator s).length ↔ separator.toList <:+: s :=
  one_lt_length_splitAtLead_go hne (Nat.le_refl _) []

theorem splitAtLead_go_eq_single {separator : String} {n : Nat} {s : List Char}
    (hlen : s.length ≤ n) (h : ¬ separator.toList <:+: s) (piece : List Char) :
    splitAtLead.go separator n s piece = [piece.reverse ++ s] := by
  induction n generalizing s piece with
  | zero => simp [List.length_eq_zero_iff.1 (Nat.le_zero.1 hlen), splitAtLead.go]
  | succ n ih =>
    cases s with
    | nil => simp [splitAtLead.go]
    | cons c r =>
      have hdrop : dropLead? separator (c :: r) = none :=
        dropLead?_eq_none_iff.2 fun hpre => h hpre.isInfix
      have hr : ¬ separator.toList <:+: r := fun hin => h (List.infix_cons hin)
      rw [splitAtLead.go, hdrop]
      dsimp only
      rw [ih (by simpa using hlen) hr]
      simp

theorem splitAtLead_append {separator : String} (hne : separator.toList ≠ []) {u v : List Char}
    (hu : ∀ w, w ≠ [] → w <:+ u → ¬ separator.toList <+: w ++ (separator.toList ++ v))
    (hv : ¬ separator.toList <:+: v) :
    splitAtLead separator (u ++ (separator.toList ++ v)) = [u, v] := by
  have hgo : ∀ u n piece, (u ++ (separator.toList ++ v)).length ≤ n →
      (∀ w, w ≠ [] → w <:+ u → ¬ separator.toList <+: w ++ (separator.toList ++ v)) →
      splitAtLead.go separator n (u ++ (separator.toList ++ v)) piece =
        [piece.reverse ++ u, v] := by
    intro u
    induction u with
    | nil =>
      intro n piece hlen _
      obtain ⟨c, r, hsep⟩ := List.exists_cons_of_ne_nil hne
      obtain ⟨n, rfl⟩ : ∃ k, n = k + 1 := ⟨n - 1, by simp [hsep] at hlen; omega⟩
      have hdrop := dropLead?_append separator v
      rw [List.nil_append]
      rw [hsep] at hlen hdrop ⊢
      rw [List.cons_append] at hdrop ⊢
      rw [splitAtLead.go, hdrop]
      dsimp only
      rw [splitAtLead_go_eq_single (by simp at hlen; omega) hv]
      simp
    | cons c u ih =>
      intro n piece hlen hu
      obtain ⟨n, rfl⟩ : ∃ k, n = k + 1 := ⟨n - 1, by simp at hlen; omega⟩
      have hdrop : dropLead? separator (c :: (u ++ (separator.toList ++ v))) = none :=
        dropLead?_eq_none_iff.2 (hu (c :: u) (by simp) (List.suffix_refl _))
      rw [List.cons_append, splitAtLead.go, hdrop]
      dsimp only
      rw [ih n (c :: piece) (by simp at hlen ⊢; omega)
        fun w hw hsuffix => hu w hw (hsuffix.trans (List.suffix_cons c u))]
      simp
  exact hgo u _ [] (Nat.le_refl _) hu

theorem of_splitAtLead_go_eq_pair {separator : String} (hne : separator.toList ≠ []) {n : Nat}
    {s piece u v : List Char} (hlen : s.length ≤ n)
    (h : splitAtLead.go separator n s piece = [u, v]) :
    ∃ t, u = piece.reverse ++ t ∧ s = t ++ (separator.toList ++ v) ∧
      (∀ w, w ≠ [] → w <:+ t → ¬ separator.toList <+: w ++ (separator.toList ++ v)) ∧
      ¬ separator.toList <:+: v := by
  induction n generalizing s piece with
  | zero => simp [splitAtLead.go] at h
  | succ n ih =>
    cases s with
    | nil => simp [splitAtLead.go] at h
    | cons c r =>
      rw [splitAtLead.go] at h
      cases hdrop : dropLead? separator (c :: r) with
      | some rest =>
        have hsplit := dropLead?_eq_some_iff.1 hdrop
        have hrest : rest.length ≤ n := by
          have hpos := List.length_pos_iff.2 hne
          have hlength := congrArg List.length hsplit
          rw [List.length_append] at hlength
          omega
        simp only [hdrop, List.cons.injEq] at h
        obtain ⟨hu, hv⟩ := h
        have hnone : ¬ separator.toList <:+: rest := by
          rw [← one_lt_length_splitAtLead_go hne hrest [], hv]
          simp
        rw [splitAtLead_go_eq_single hrest hnone] at hv
        obtain rfl : rest = v := by simpa using hv
        refine ⟨[], by simpa using hu.symm, hsplit.symm, ?_, hnone⟩
        exact fun w hw hsuffix => absurd (List.suffix_nil.1 hsuffix) hw
      | none =>
        simp only [hdrop] at h
        obtain ⟨t, hu, rfl, hfirst, hv⟩ := ih (by simpa using hlen) h
        refine ⟨c :: t, by simpa using hu, rfl, fun w hw hsuffix => ?_, hv⟩
        rcases List.suffix_cons_iff.1 hsuffix with rfl | hsuffix
        · exact dropLead?_eq_none_iff.1 hdrop
        · exact hfirst w hw hsuffix

theorem infix_append_of_not_mem {mark : Char} {w u : List Char} (h : mark ∉ u) (v : List Char) :
    mark :: w <:+: u ++ v ↔ mark :: w <:+: v := by
  induction u with
  | nil => rfl
  | cons c r ih =>
    have hne : ¬ mark :: w <+: c :: (r ++ v) := by
      rw [List.cons_prefix_cons]
      rintro ⟨rfl, -⟩
      exact h (by simp)
    rw [List.cons_append, List.infix_cons_iff, or_iff_right hne]
    exact ih fun hr => h (by simp [hr])

end Text

namespace Field

variable {lead : String × Field}

theorem spellings_prefix_free {p q : String × Field} (hp : p ∈ spellings) (hq : q ∈ spellings)
    (h : p.1.toList <+: q.1.toList) : p = q := by
  have hfree : (spellings.all fun p => spellings.all fun q =>
      !p.1.toList.isPrefixOf q.1.toList || decide (p = q)) = true := by decide +kernel
  have hpq := List.all_eq_true.1 (List.all_eq_true.1 hfree p hp) q hq
  simpa [List.isPrefixOf_iff_prefix.2 h] using hpq

theorem ofLead?_append (h : lead ∈ spellings) (rest : List Char) :
    ofLead? (lead.1.toList ++ rest) = some (lead.2, rest) := by
  have hsome : (ofLead? (lead.1.toList ++ rest)).isSome = true := by
    rw [ofLead?, List.findSome?_isSome_iff]
    exact ⟨lead, h, by rw [Text.dropLead?_append]; rfl⟩
  obtain ⟨found, hfound⟩ := Option.isSome_iff_exists.1 hsome
  obtain ⟨other, hmem, hother⟩ := List.exists_of_findSome?_eq_some hfound
  obtain ⟨rest', hdrop, hpair⟩ := Option.map_eq_some_iff.1 hother
  have hsplit := Text.dropLead?_eq_some_iff.1 hdrop
  -- both spellings begin the token, so one of them begins the other
  have hsame : other = lead := by
    rcases List.prefix_or_prefix_of_prefix ⟨rest', hsplit⟩ ⟨rest, rfl⟩ with hpre | hpre
    · exact spellings_prefix_free hmem h hpre
    · exact (spellings_prefix_free h hmem hpre).symm
  rw [hsame] at hsplit hpair
  rw [hfound, ← hpair, List.append_cancel_left hsplit]

theorem ofLead?_eq_none_iff {s : List Char} :
    ofLead? s = none ↔ ∀ lead ∈ spellings, ¬ lead.1.toList <+: s := by
  simp only [ofLead?, List.findSome?_eq_none_iff, Option.map_eq_none_iff,
    Text.dropLead?_eq_none_iff]

theorem ne_tag_of_mem_spellings (h : lead ∈ spellings) : lead.2 ≠ .tag := by
  have hnone : (spellings.all fun s => decide (s.2 ≠ .tag)) = true := by decide
  exact of_decide_eq_true (List.all_eq_true.1 hnone lead h)

end Field

namespace Clause

def signs : List (String × Comparison) := ("", .equals) :: Comparison.operators

def Follows (sign : String) (value : List Char) : Prop :=
  (sign = "" → ∀ c ∈ value.head?, c ≠ '<' ∧ c ≠ '>' ∧ c ≠ '=') ∧
  (sign = "<" ∨ sign = ">" → value.head? ≠ some '=')

theorem follows_of_head {value : List Char}
    (h : ∀ c ∈ value.head?, c ≠ '<' ∧ c ≠ '>' ∧ c ≠ '=') (sign : String) : Follows sign value :=
  ⟨fun _ => h, fun _ heq => (h '=' heq).2.2 rfl⟩

def HasRangeMark (s : List Char) : Prop := rangeMark.toList <:+: s

theorem splitComparison_of_rangeMark {s : List Char} (h : HasRangeMark s) :
    splitComparison s = (.range, s) := by
  have hmany : 1 < (rangeParts s).length := (Text.one_lt_length_splitAtLead (by decide) s).2 h
  rw [splitComparison, if_pos hmany]

/-- Two texts without a range mark are told apart again, if the first does not end as a mark
begins. -/
theorem rangeParts_append {a b : List Char} (ha : ¬ HasRangeMark a) (hend : a.getLast? ≠ some '.')
    (hb : ¬ HasRangeMark b) : rangeParts (a ++ (rangeMark.toList ++ b)) = [a, b] := by
  apply Text.splitAtLead_append (by decide) _ hb
  rintro w hw hsuffix hpre
  rcases List.prefix_or_prefix_of_prefix hpre (List.prefix_append w _) with h | h
  · exact ha (h.isInfix.trans hsuffix.isInfix)
  · -- a part of the mark ends as the mark does
    have hdots : ∀ c ∈ w, c = '.' := fun c hc => by
      have hmem := h.subset hc
      simpa [rangeMark] using hmem
    obtain ⟨c, hc⟩ := List.getLast?_isSome.2 hw |> Option.isSome_iff_exists.1
    obtain ⟨t, ht⟩ := hsuffix
    apply hend
    rw [← ht, List.getLast?_append, hc, Option.some_or, hdots c (List.mem_of_getLast? hc)]

/-- A text of two parts: the first range mark in it stands between them, and there is no other. -/
structure HasParts (s a b : List Char) : Prop where
  text : s = a ++ (rangeMark.toList ++ b)
  first : ¬ HasRangeMark a ∧ a.getLast? ≠ some '.'
  second : ¬ HasRangeMark b

theorem rangeParts_eq_pair_iff {s a b : List Char} : rangeParts s = [a, b] ↔ HasParts s a b := by
  constructor
  · intro h
    obtain ⟨t, ht, hs, hfirst, hb⟩ :=
      Text.of_splitAtLead_go_eq_pair (by decide) (Nat.le_refl s.length) h
    rw [List.reverse_nil, List.nil_append] at ht
    subst ht
    refine ⟨hs, ⟨fun hmark => ?_, fun hend => ?_⟩, hb⟩
    · obtain ⟨w, hpre, hsuffix⟩ := List.infix_iff_prefix_suffix.1 hmark
      have hw : w ≠ [] := by
        rintro rfl
        exact absurd (List.prefix_nil.1 hpre) (by decide)
      exact hfirst w hw hsuffix (hpre.trans (List.prefix_append w _))
    · -- a dot at the end and the two that follow it are a mark that begins earlier
      obtain ⟨u, rfl⟩ := List.getLast?_eq_some_iff.1 hend
      exact hfirst ['.'] (by decide) (List.suffix_append u _) ⟨'.' :: b, rfl⟩
  · rintro ⟨rfl, hfirst, hb⟩
    exact rangeParts_append hfirst.1 hfirst.2 hb

theorem HasParts.unique {s a b a' b' : List Char} (h : HasParts s a b) (h' : HasParts s a' b') :
    a = a' ∧ b = b' := by
  have hsame : [a, b] = [a', b'] :=
    (rangeParts_eq_pair_iff.2 h).symm.trans (rangeParts_eq_pair_iff.2 h')
  simpa only [List.cons.injEq, and_true] using hsame

theorem ne_range_of_mem_signs {sign : String × Comparison} (h : sign ∈ signs) :
    sign.2 ≠ .range := by
  have hnone : (signs.all fun s => decide (s.2 ≠ .range)) = true := by decide
  exact of_decide_eq_true (List.all_eq_true.1 hnone sign h)

theorem dot_not_mem_sign {sign : String × Comparison} (h : sign ∈ signs) :
    '.' ∉ sign.1.toList := by
  have hnone : (signs.all fun s => decide ('.' ∉ s.1.toList)) = true := by decide
  exact of_decide_eq_true (List.all_eq_true.1 hnone sign h)

theorem hasRangeMark_sign_append {sign : String × Comparison} (h : sign ∈ signs)
    (value : List Char) : HasRangeMark (sign.1.toList ++ value) ↔ HasRangeMark value :=
  Text.infix_append_of_not_mem (dot_not_mem_sign h) value

theorem findSome?_operators {sign : String × Comparison} (h : sign ∈ signs) {value : List Char}
    (hf : Follows sign.1 value) :
    (Comparison.operators.findSome? fun o =>
      (Text.dropLead? o.1 (sign.1.toList ++ value)).map (o.2, ·)).getD
        (.equals, sign.1.toList ++ value) = (sign.2, value) := by
  simp only [signs, Comparison.operators, List.mem_cons, List.not_mem_nil, or_false] at h
  rcases h with rfl | rfl | rfl | rfl | rfl | rfl
  · cases value with
    | nil => rfl
    | cons c r =>
      obtain ⟨hlt, hgt, heq⟩ := hf.1 rfl c rfl
      simp [Comparison.operators, Text.dropLead?, List.isPrefixOf?, hlt.symm, hgt.symm, heq.symm]
  · simp [Comparison.operators, Text.dropLead?, List.isPrefixOf?]
  · simp [Comparison.operators, Text.dropLead?, List.isPrefixOf?]
  · cases value with
    | nil => rfl
    | cons c r =>
      have hne : c ≠ '=' := by simpa using hf.2 (Or.inl rfl)
      simp [Comparison.operators, Text.dropLead?, List.isPrefixOf?, hne.symm]
  · cases value with
    | nil => rfl
    | cons c r =>
      have hne : c ≠ '=' := by simpa using hf.2 (Or.inr rfl)
      simp [Comparison.operators, Text.dropLead?, List.isPrefixOf?, hne.symm]
  · simp [Comparison.operators, Text.dropLead?, List.isPrefixOf?]

theorem splitComparison_sign_append {sign : String × Comparison} (h : sign ∈ signs)
    {value : List Char} (hrange : ¬ HasRangeMark value) (hf : Follows sign.1 value) :
    splitComparison (sign.1.toList ++ value) = (sign.2, value) := by
  have hone : ¬ 1 < (rangeParts (sign.1.toList ++ value)).length := by
    rw [rangeParts, Text.one_lt_length_splitAtLead (by decide)]
    rwa [← hasRangeMark_sign_append h] at hrange
  have hfound := findSome?_operators h hf
  rw [splitComparison, if_neg hone]
  cases hop : Comparison.operators.findSome? fun o =>
      (Text.dropLead? o.1 (sign.1.toList ++ value)).map (o.2, ·) with
  | none => simpa [hop] using hfound
  | some found => simpa [hop] using hfound

theorem exists_sign (s : List Char) :
    ∃ sign ∈ signs, ∃ value, s = sign.1.toList ++ value ∧ Follows sign.1 value := by
  rcases s with _ | ⟨c, r⟩
  · exact ⟨("", .equals), by decide, [], rfl, by simp [Follows]⟩
  by_cases heq : c = '='
  · exact ⟨("=", .equals), by decide, r, by rw [heq]; rfl, by simp [Follows]⟩
  by_cases hlt : c = '<'
  · by_cases hr : r.head? = some '='
    · obtain ⟨r, rfl⟩ := List.head?_eq_some_iff.1 hr
      exact ⟨("<=", .lessOrEqual), by decide, r, by rw [hlt]; rfl, by simp [Follows]⟩
    · exact ⟨("<", .less), by decide, r, by rw [hlt]; rfl, by simp [Follows, hr]⟩
  by_cases hgt : c = '>'
  · by_cases hr : r.head? = some '='
    · obtain ⟨r, rfl⟩ := List.head?_eq_some_iff.1 hr
      exact ⟨(">=", .greaterOrEqual), by decide, r, by rw [hgt]; rfl, by simp [Follows]⟩
    · exact ⟨(">", .greater), by decide, r, by rw [hgt]; rfl, by simp [Follows, hr]⟩
  exact ⟨("", .equals), by decide, c :: r, rfl, by simp [Follows, heq, hlt, hgt]⟩

theorem splitComparison_cases {s literal : List Char} {comparison : Comparison}
    (h : splitComparison s = (comparison, literal)) :
    (HasRangeMark s ∧ comparison = .range ∧ literal = s) ∨
      (¬ HasRangeMark s ∧ ∃ sign ∈ signs, comparison = sign.2 ∧ s = sign.1.toList ++ literal ∧
        Follows sign.1 literal) := by
  by_cases hmark : HasRangeMark s
  · rw [splitComparison_of_rangeMark hmark, Prod.mk.injEq] at h
    exact .inl ⟨hmark, h.1.symm, h.2.symm⟩
  · obtain ⟨sign, hsign, value, hs, hf⟩ := exists_sign s
    have hvalue : ¬ HasRangeMark value := by
      rwa [hs, hasRangeMark_sign_append hsign] at hmark
    rw [hs, splitComparison_sign_append hsign hvalue hf, Prod.mk.injEq] at h
    exact .inr ⟨hmark, sign, hsign, h.1.symm, h.2 ▸ hs, h.2 ▸ hf⟩

end Clause

end BoardFilter
