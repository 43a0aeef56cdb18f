import BoardFilter.Proofs.Json.RoundTrip
import BoardFilter.Proofs.Number.NumeralCase

/-!
# Documents within documents

What was read of a text is read of every longer one, unless it ends in a numeral that goes on. So a
document, which is never blank, may stand as an item or a field of another one. This takes one level
more.
-/

namespace BoardFilter.Json

open Decimal (spanDigits spanSign)

variable {t : List Char}

theorem readHex4?_append {s r : List Char} {n : Nat} (h : readHex4? s = some (n, r)) :
    readHex4? (s ++ t) = some (n, r ++ t) := by
  unfold readHex4? at h
  split at h
  · next a b c d rest =>
    split at h
    · next ha hb hc hd =>
      cases h
      simp only [List.cons_append, readHex4?, ha, hb, hc, hd]
    · cases h
  · cases h

theorem readUnit?_append {s r : List Char} {c : Char} (h : readUnit? s = some (c, r)) :
    readUnit? (s ++ t) = some (c, r ++ t) := by
  unfold readUnit? at h
  split at h
  · cases h
  · next unit rest hfirst =>
    rw [readUnit?, readHex4?_append hfirst]
    split at h
    · next hplain =>
      cases h
      simp only [if_pos hplain]
    split at h
    · cases h
    next hplain hlow =>
    simp only [if_neg hplain, if_neg hlow]
    split at h
    · split at h
      · next hsecond =>
        split at h
        · next hpair =>
          obtain ⟨rfl, rfl⟩ := Prod.mk.inj (Option.some.inj h)
          simp only [List.cons_append, readHex4?_append hsecond, if_pos hpair]
        · cases h
      · cases h
    · cases h

theorem readText?_append {done s : List Char} {p : List Char × List Char}
    (h : readText? done s = some p) : readText? done (s ++ t) = some (p.1, p.2 ++ t) := by
  -- A text goes on behind a unit, a plain escape and a plain character; in the other cases it ends
  -- or is no text.
  induction done, s using readText?.induct with
  | case1 done =>
    rw [readText?] at h
    cases h
  | case2 done r =>
    rw [readText?] at h
    cases h
    rw [List.cons_append, readText?]
  | case3 done r c rest hunit _ ih =>
    rw [readText?_unit hunit] at h
    rw [List.cons_append, List.cons_append, readText?_unit (readUnit?_append hunit)]
    exact ih h
  | case4 done r hunit =>
    rw [readText?] at h
    split at h
    · next hsome =>
      rw [hunit] at hsome
      cases hsome
    · cases h
  | case5 done e r _ c hescape ih =>
    rw [readText?_plainEscape hescape] at h
    rw [List.cons_append, List.cons_append, readText?_plainEscape hescape]
    exact ih h
  | case6 done e r hu hescape =>
    rw [readText?, hescape] at h
    · cases h
    · exact hu
  | case7 done c r hquote hunit hescape hbad =>
    rw [readText?, if_pos hbad] at h
    · cases h
    · exact hquote
    · exact hunit
    · exact hescape
  | case8 done c r hquote hunit hescape hplain ih =>
    rw [not_or, Nat.not_lt] at hplain
    rw [readText?_cons hquote hplain.2 hplain.1] at h
    rw [List.cons_append, readText?_cons hquote hplain.2 hplain.1]
    exact ih h

theorem spanDigits_eq (s : List Char) :
    s = (spanDigits s).1 ++ (spanDigits s).2 ∧ (∀ c ∈ (spanDigits s).1, c.isDigit = true) ∧
      ∀ c ∈ (spanDigits s).2.head?, c.isDigit = false := by
  rw [spanDigits, List.span_eq_takeWhile_dropWhile]
  refine ⟨List.takeWhile_append_dropWhile.symm, fun c => List.mem_takeWhile_imp, fun c hc => ?_⟩
  have hnot := List.head?_dropWhile_not Char.isDigit s
  rw [Option.mem_def.1 hc] at hnot
  simpa using hnot

theorem spanDigits_append_of_ends (s : List Char) (ht : EndsNumeral t) :
    spanDigits (s ++ t) = ((spanDigits s).1, (spanDigits s).2 ++ t) := by
  obtain ⟨heq, hdigits, hend⟩ := spanDigits_eq s
  have hrest : ∀ c ∈ ((spanDigits s).2 ++ t).head?, c.isDigit = false := by
    cases hs : (spanDigits s).2 with
    | nil => exact fun c hc => (ht c hc).1
    | cons d r =>
      rw [hs] at hend
      exact hend
  conv_lhs => rw [heq, List.append_assoc]
  exact spanDigits_append hdigits hrest

theorem spanSign_append {s : List Char} (hs : s ≠ []) :
    spanSign (s ++ t) = ((spanSign s).1, (spanSign s).2 ++ t) := by
  obtain ⟨c, r, rfl⟩ := List.exists_cons_of_ne_nil hs
  rw [List.cons_append]
  by_cases hminus : c = '-'
  · rw [hminus]
    rfl
  by_cases hplus : c = '+'
  · rw [hplus]
    rfl
  rw [Decimal.spanSign_of_unsigned hminus hplus, Decimal.spanSign_of_unsigned hminus hplus]
  rfl

theorem map_pair_append {o : Option Json} {s r : List Char} {v : Json}
    (h : o.map (·, s) = some (v, r)) : o.map (·, s ++ t) = some (v, r ++ t) := by
  obtain ⟨w, rfl, heq⟩ := Option.map_eq_some_iff.1 h
  cases heq
  rfl

theorem ite_map_pair_append {p : Prop} [Decidable p] {o o' : Option Json} {s r : List Char}
    {v : Json} (h : (if p then o.map (·, s) else o'.map (·, s)) = some (v, r)) :
    (if p then o.map (·, s ++ t) else o'.map (·, s ++ t)) = some (v, r ++ t) := by
  split at h
  · next hp =>
    rw [if_pos hp]
    exact map_pair_append h
  · next hp =>
    rw [if_neg hp]
    exact map_pair_append h

theorem readExponent?_append {negative : Bool} {significand : Nat} {exponent : Int}
    {s r : List Char} {v : Json} (ht : EndsNumeral t)
    (h : readExponent? negative significand exponent s = some (v, r)) :
    readExponent? negative significand exponent (s ++ t) = some (v, r ++ t) := by
  cases s with
  | nil =>
    rw [readExponent?] at h
    have hmap := map_pair_append (t := t) h
    rw [List.nil_append] at hmap ⊢
    cases t with
    | nil => exact hmap
    | cons c t =>
      obtain ⟨-, -, he, hE⟩ := ht c rfl
      rw [readExponent?, if_neg (not_or.2 ⟨he, hE⟩)]
      exact hmap
  | cons c s =>
    rw [readExponent?] at h
    rw [List.cons_append, readExponent?]
    split at h
    · next hexp =>
      simp only at h
      rw [if_pos hexp]
      have hne : s ≠ [] := by
        rintro rfl
        exact absurd h (by simp [spanSign, spanDigits])
      simp only [spanSign_append hne, spanDigits_append_of_ends _ ht]
      split at h
      · cases h
      · next hdigits =>
        rw [if_neg hdigits]
        exact map_pair_append h
    · next hexp =>
      rw [if_neg hexp]
      exact map_pair_append h

theorem readUnsigned?_append {negative : Bool} {s r : List Char} {v : Json} (ht : EndsNumeral t)
    (h : readUnsigned? negative s = some (v, r)) :
    readUnsigned? negative (s ++ t) = some (v, r ++ t) := by
  rw [readUnsigned?] at h ⊢
  rw [spanDigits_append_of_ends s ht]
  generalize spanDigits s = parts at h ⊢
  obtain ⟨whole, rest⟩ := parts
  simp only at h ⊢
  split at h
  · cases h
  next hwhole =>
  rw [if_neg hwhole]
  generalize gather 0 whole = gathered at h ⊢
  obtain ⟨significand, left⟩ := gathered
  simp only at h ⊢
  split at h
  · next rest =>
    simp only [List.cons_append, spanDigits_append_of_ends rest ht]
    split at h
    · cases h
    · next hfraction =>
      rw [if_neg hfraction]
      exact readExponent?_append ht h
  · next c rest hpoint =>
    rw [List.cons_append]
    split
    · next heq =>
      cases heq
      exact absurd rfl hpoint
    · next heq =>
      obtain ⟨rfl, rfl⟩ := List.cons.inj heq
      split at h
      · next hexp =>
        rw [if_pos hexp]
        exact readExponent?_append ht h
      · next hexp =>
        rw [if_neg hexp]
        exact ite_map_pair_append h
    · next heq => cases heq
  · have hbare := ite_map_pair_append (t := t) h
    rw [List.nil_append] at hbare ⊢
    split
    · exact absurd rfl (ht '.' rfl).2.1
    · next c rest _ =>
      obtain ⟨-, -, he, hE⟩ := ht c rfl
      rw [if_neg (not_or.2 ⟨he, hE⟩)]
      exact hbare
    · exact hbare

theorem exists_begins_of_readNumeral? {s r : List Char} {v : Json}
    (h : readNumeral? s = some (v, r)) : ∃ c s', s = c :: s' ∧ BeginsNumeral c := by
  cases s with
  | nil => cases h
  | cons c s =>
    refine ⟨c, s, rfl, ?_⟩
    by_cases hminus : c = '-'
    · exact .inr hminus
    refine .inl (by_contra fun hdigit => ?_)
    have hwhole : (spanDigits (c :: s)).1 = [] := by
      rw [spanDigits, List.span_eq_takeWhile_dropWhile, List.takeWhile_cons_of_neg hdigit]
    rw [readNumeral?, readUnsigned?] at h
    · simp [hwhole] at h
    · rintro rest heq
      exact hminus (List.cons.inj heq).1

theorem readNumeral?_append {s r : List Char} {v : Json} (ht : EndsNumeral t)
    (h : readNumeral? s = some (v, r)) : readNumeral? (s ++ t) = some (v, r ++ t) := by
  obtain ⟨c, s, rfl, hc | rfl⟩ := exists_begins_of_readNumeral? h
  · rw [readNumeral?_of_digit hc] at h
    rw [List.cons_append, readNumeral?_of_digit hc]
    exact readUnsigned?_append ht h
  · exact readUnsigned?_append ht h

theorem readScalar?_append {s r : List Char} {v : Json} (ht : EndsNumeral t)
    (h : readScalar? s = some (v, r)) : readScalar? (s ++ t) = some (v, r ++ t) := by
  unfold readScalar? at h
  split at h
  · cases h
    rfl
  · cases h
    rfl
  · cases h
    rfl
  · obtain ⟨p, hp, heq⟩ := Option.map_eq_some_iff.1 h
    cases heq
    rw [List.cons_append, readScalar?, readText?_append hp, Option.map_some]
  · have hnumeral := readNumeral?_append ht h
    obtain ⟨c, s, rfl, hc⟩ := exists_begins_of_readNumeral? h
    rw [List.cons_append] at hnumeral ⊢
    rw [readScalar?_numeral hc, hnumeral]

theorem skipGap_append_of_cons {c : Char} {s r : List Char} (h : skipGap s = c :: r) :
    skipGap (s ++ t) = c :: (r ++ t) := by
  rw [skipGap] at h
  rw [skipGap, List.dropWhile_append, h]
  rfl

theorem skipGap_append_of_nil {s : List Char} (h : skipGap s = []) :
    skipGap (s ++ t) = skipGap t := by
  rw [skipGap] at h
  rw [skipGap, List.dropWhile_append, h]
  rfl

/-- Before any text with which no numeral goes on, `later` reads what `value` reads. -/
structure Extends (value later : List Char → Option (Json × List Char)) : Prop where
  nil : value [] = none
  append {s r t : List Char} {v : Json} (ht : EndsNumeral t) (h : value s = some (v, r)) :
    later (s ++ t) = some (v, r ++ t)

section

variable {value later : List Char → Option (Json × List Char)} (hvalue : Extends value later)

include hvalue

theorem Extends.skipped {s r : List Char} {v : Json} (ht : EndsNumeral t)
    (h : value (skipGap s) = some (v, r)) :
    (∃ c s', skipGap s = c :: s') ∧ later (skipGap (s ++ t)) = some (v, r ++ t) := by
  cases hs : skipGap s with
  | nil =>
    rw [hs, hvalue.nil] at h
    cases h
  | cons c s' =>
    rw [hs] at h
    rw [skipGap_append_of_cons hs]
    exact ⟨⟨c, s', rfl⟩, hvalue.append ht h⟩

theorem readItems?_append {steps steps' : Nat} (hsteps : steps ≤ steps') {done items : List Json}
    {s r : List Char} (ht : EndsNumeral t)
    (h : readItems? value steps done s = some (items, r)) :
    readItems? later steps' done (s ++ t) = some (items, r ++ t) := by
  induction steps generalizing steps' done s with
  | zero => cases h
  | succ steps ih =>
    obtain ⟨steps', rfl⟩ :=
      Nat.exists_eq_add_of_le' (Nat.lt_of_lt_of_le (Nat.succ_pos steps) hsteps)
    rw [readItems?] at h
    split at h
    · cases h
    next v rest hread =>
    obtain ⟨-, hlater⟩ := hvalue.skipped ht hread
    rw [readItems?, hlater]
    split at h
    · next hcomma =>
      simp only [skipGap_append_of_cons hcomma]
      exact ih (Nat.le_of_succ_le_succ hsteps) h
    · next hbracket =>
      cases h
      simp only [skipGap_append_of_cons hbracket]
    · cases h

theorem readFields?_append {steps steps' : Nat} (hsteps : steps ≤ steps')
    {done fields : Fields} {s r : List Char} (ht : EndsNumeral t)
    (h : readFields? value steps done s = some (fields, r)) :
    readFields? later steps' done (s ++ t) = some (fields, r ++ t) := by
  induction steps generalizing steps' done s with
  | zero => cases h
  | succ steps ih =>
    obtain ⟨steps', rfl⟩ :=
      Nat.exists_eq_add_of_le' (Nat.lt_of_lt_of_le (Nat.succ_pos steps) hsteps)
    rw [readFields?] at h
    split at h
    · next hquote =>
      split at h
      · cases h
      next name afterName hname =>
      split at h
      · next hcolon =>
        split at h
        · cases h
        next v rest hread =>
        obtain ⟨-, hlater⟩ := hvalue.skipped ht hread
        rw [readFields?]
        simp only [skipGap_append_of_cons hquote, readText?_append hname,
          skipGap_append_of_cons hcolon, hlater]
        simp only at h
        split at h
        · next hcomma =>
          simp only [skipGap_append_of_cons hcomma]
          exact ih (Nat.le_of_succ_le_succ hsteps) h
        · next hbrace =>
          cases h
          simp only [skipGap_append_of_cons hbrace]
        · cases h
      · cases h
    · cases h

theorem readObject?_append {fields : Fields} {s r : List Char} (ht : EndsNumeral t)
    (h : readObject? value s = some (fields, r)) :
    readObject? later (s ++ t) = some (fields, r ++ t) := by
  cases hs : skipGap s with
  | nil =>
    rw [readObject?_fields (by simp [hs]), readFields?, hs] at h
    cases h
  | cons c rest =>
    have hlater := skipGap_append_of_cons (t := t) hs
    by_cases hclose : c = '}'
    · subst hclose
      rw [readObject?, hs] at h
      cases h
      rw [readObject?, hlater]
      rfl
    · rw [readObject?_fields (by simpa [hs] using hclose)] at h
      have hsteps : (skipGap s).length + 1 ≤ (skipGap (s ++ t)).length + 1 := by
        simp [hs, hlater]
      rw [readObject?_fields (by simpa [hlater] using hclose),
        readFields?_append hvalue hsteps ht h]

end

section

variable {depth later : Nat} (hvalue : Extends (readValue? depth) (readValue? later))

include hvalue

theorem readValue?_bracket_append {s r : List Char} {v : Json} (ht : EndsNumeral t)
    (h : readValue? (depth + 1) ('[' :: s) = some (v, r)) :
    readValue? (later + 1) ('[' :: (s ++ t)) = some (v, r ++ t) := by
  cases hs : skipGap s with
  | nil =>
    rw [readValue?_items (by simp [hs]), readItems?, hs, hvalue.nil] at h
    cases h
  | cons c rest =>
    have hlater := skipGap_append_of_cons (t := t) hs
    by_cases hclose : c = ']'
    · subst hclose
      rw [readValue?, hs] at h
      cases h
      rw [readValue?, hlater]
      rfl
    · rw [readValue?_items (by simpa [hs] using hclose)] at h
      obtain ⟨p, hp, heq⟩ := Option.map_eq_some_iff.1 h
      cases heq
      have hsteps : (skipGap s).length + 1 ≤ (skipGap (s ++ t)).length + 1 := by
        simp [hs, hlater]
      rw [readValue?_items (by simpa [hlater] using hclose), readItems?_append hvalue hsteps ht hp]
      rfl

theorem readValue?_brace_append {s r : List Char} {v : Json} (ht : EndsNumeral t)
    (h : readValue? (depth + 1) ('{' :: s) = some (v, r)) :
    readValue? (later + 1) ('{' :: (s ++ t)) = some (v, r ++ t) := by
  rw [readValue?_brace] at h ⊢
  obtain ⟨⟨fields, r⟩, hread, heq⟩ := Option.map_eq_some_iff.1 h
  cases heq
  rw [readObject?_append hvalue ht hread]
  rfl

end

theorem extends_readValue? {depth later : Nat} (hle : depth ≤ later) :
    Extends (readValue? depth) (readValue? later) := by
  -- On the lowest level nothing but scalars can be read. On every other one the items and the
  -- fields are read on the level below.
  induction depth generalizing later with
  | zero =>
    refine ⟨rfl, fun {s r t v} ht h => ?_⟩
    cases s with
    | nil => cases h
    | cons c s =>
      by_cases harray : c = '['
      · subst harray
        cases h
      by_cases hobject : c = '{'
      · subst hobject
        cases h
      rw [readValue?_scalar 0 harray hobject] at h
      rw [List.cons_append, readValue?_scalar later harray hobject, ← List.cons_append]
      exact readScalar?_append ht h
  | succ depth ih =>
    obtain ⟨later, rfl⟩ := Nat.exists_eq_add_of_le' (Nat.lt_of_lt_of_le (Nat.succ_pos depth) hle)
    have hvalue := ih (Nat.le_of_succ_le_succ hle)
    refine ⟨rfl, fun {s r t v} ht h => ?_⟩
    cases s with
    | nil => cases h
    | cons c s =>
      by_cases harray : c = '['
      · subst harray
        exact readValue?_bracket_append hvalue ht h
      by_cases hobject : c = '{'
      · subst hobject
        exact readValue?_brace_append hvalue ht h
      rw [readValue?_scalar _ harray hobject] at h
      rw [List.cons_append, readValue?_scalar _ harray hobject, ← List.cons_append]
      exact readScalar?_append ht h

def inList (s : String) : String := "[" ++ s ++ "]"

def underName (name s : String) : String :=
  "\x7b" ++ String.ofList (quoted name.toList) ++ ":" ++ s ++ "\x7d"

theorem parseWithin?_eq_some_iff {depth : Nat} {s : String} {v : Json} :
    parseWithin? depth s = some v ↔
      ∃ r, readValue? depth (skipGap s.toList) = some (v, r) ∧ skipGap r = [] := by
  rw [parseWithin?]
  cases readValue? depth (skipGap s.toList) with
  | none => simp
  | some p =>
    obtain ⟨w, r⟩ := p
    simp only [Option.some.injEq, Prod.mk.injEq]
    constructor
    · intro h
      split at h
      · next hempty => exact ⟨r, ⟨Option.some.inj h, rfl⟩, List.isEmpty_iff.1 hempty⟩
      · cases h
    · rintro ⟨r', ⟨rfl, rfl⟩, hgap⟩
      rw [hgap]
      rfl

theorem parseWithin?_of_le {depth later : Nat} (hle : depth ≤ later) {s : String} {v : Json}
    (h : parseWithin? depth s = some v) : parseWithin? later s = some v := by
  obtain ⟨r, hread, hgap⟩ := parseWithin?_eq_some_iff.1 h
  have hlater := (extends_readValue? hle).append (t := []) nofun hread
  rw [List.append_nil, List.append_nil] at hlater
  exact parseWithin?_eq_some_iff.2 ⟨r, hlater, hgap⟩

theorem exists_cons_skipGap_of_readValue? {depth : Nat} {s r : List Char} {v : Json}
    (h : readValue? depth (skipGap s) = some (v, r)) :
    ∃ c s', skipGap s = c :: s' ∧ c ≠ ']' := by
  obtain ⟨⟨c, s', hs⟩, -⟩ := (extends_readValue? (le_refl depth)).skipped (t := []) nofun h
  refine ⟨c, s', hs, ?_⟩
  rintro rfl
  rw [hs, readValue?_scalar depth (by decide) (by decide)] at h
  cases h

theorem isBlank_of_readScalar? {c : Char} {s r : List Char} {v : Json}
    (h : readScalar? (c :: s) = some (v, r)) : Text.isBlank c = false := by
  unfold readScalar? at h
  split at h
  · next heq =>
    cases heq
    decide
  · next heq =>
    cases heq
    decide
  · next heq =>
    cases heq
    decide
  · next heq =>
    cases heq
    decide
  · obtain ⟨d, s', heq, hd | rfl⟩ := exists_begins_of_readNumeral? h
    · cases heq
      exact Text.isBlank_of_isDigit hd
    · cases heq
      decide

theorem isBlankText_of_parse? {s : String} {v : Json} (h : parse? s = some v) :
    Text.isBlankText s = false := by
  obtain ⟨r, hread, -⟩ := parseWithin?_eq_some_iff.1 h
  obtain ⟨c, s', hs, -⟩ := exists_cons_skipGap_of_readValue? hread
  have hmem : c ∈ s.toList :=
    (List.dropWhile_suffix isGap).subset (by rw [← skipGap, hs]; exact List.mem_cons_self)
  have hblank : Text.isBlank c = false := by
    by_cases harray : c = '['
    · rw [harray]
      decide
    by_cases hobject : c = '{'
    · rw [hobject]
      decide
    rw [hs, readValue?_scalar _ harray hobject] at hread
    exact isBlank_of_readScalar? hread
  by_contra hall
  rw [Bool.not_eq_false, Text.isBlankText, List.all_eq_true] at hall
  rw [hall c hmem] at hblank
  cases hblank

theorem parseWithin?_inList {depth : Nat} {s : String} {v : Json}
    (h : parseWithin? depth s = some v) :
    parseWithin? (depth + 1) (inList s) = some (.array [v]) := by
  obtain ⟨r, hread, hgap⟩ := parseWithin?_eq_some_iff.1 h
  obtain ⟨c, s', hs, hopen⟩ := exists_cons_skipGap_of_readValue? hread
  have hchars : (inList s).toList = '[' :: (s.toList ++ [']']) := by
    simp [inList]
  have hitem := ((extends_readValue? (le_refl depth)).skipped (t := [']'])
    (endsNumeral_cons (by decide) []) hread).2
  have hfirst : ∀ d ∈ (skipGap (s.toList ++ [']'])).head?, d ≠ ']' := by
    rw [skipGap_append_of_cons hs]
    rintro d hd
    cases hd
    exact hopen
  have hclose : skipGap (r ++ [']']) = [']'] := skipGap_append_of_nil hgap
  refine parseWithin?_eq_some_iff.2 ⟨[], ?_, rfl⟩
  rw [hchars, skipGap_cons rfl, readValue?_items hfirst, readItems?, hitem]
  simp only [hclose, List.reverse_singleton, Option.map_some]

theorem parseWithin?_underName {depth : Nat} (name : String) {s : String} {v : Json}
    (h : parseWithin? depth s = some v) :
    parseWithin? (depth + 1) (underName name s) = some (.object [(name, v)]) := by
  obtain ⟨r, hread, hgap⟩ := parseWithin?_eq_some_iff.1 h
  have hchars : (underName name s).toList =
      '{' :: '"' :: (name.toList.flatMap escaped ++ '"' :: ':' :: (s.toList ++ ['}'])) := by
    simp [underName, quoted]
  have hvalue := ((extends_readValue? (le_refl depth)).skipped (t := ['}'])
    (endsNumeral_cons (by decide) []) hread).2
  have hclose : skipGap (r ++ ['}']) = ['}'] := skipGap_append_of_nil hgap
  refine parseWithin?_eq_some_iff.2 ⟨[], ?_, rfl⟩
  rw [hchars, skipGap_cons rfl, readValue?_brace, readObject?_fields, readFields?,
    skipGap_cons rfl]
  · simp only [readText?_quoted, List.reverse_nil, List.nil_append, skipGap_cons (c := ':') rfl,
      hvalue, hclose, String.ofList_toList, Option.map_some]
    rfl
  · rw [skipGap_cons rfl]
    rintro d hd
    cases hd
    decide

end BoardFilter.Json
