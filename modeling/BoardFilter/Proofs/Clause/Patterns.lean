import BoardFilter.Proofs.Clause.RoundTrip
import Mathlib.Data.List.Forall2

/-!
# Patterns of tags

A pattern covers a text just if the text is the pattern with a run of characters that are not blank
in the place of each star. The same texts are matched by the regular expression of the pattern. That
expression is made by escaping the whole pattern and then opening every escaped star, which is right
because an escaped star is never a part of another escape.
-/

namespace BoardFilter

namespace Glob

/-- The parts of a text that a character of a pattern stands for. -/
def Stands (c : Char) (part : List Char) : Prop :=
  if c = '*' then ∀ d ∈ part, Text.isBlank d = false else part = [c]

/-- The text falls into parts, one for each character of the pattern. -/
def Fills (pattern text : List Char) : Prop :=
  ∃ parts, List.Forall₂ Stands pattern parts ∧ parts.flatten = text

theorem stands_star {part : List Char} :
    Stands '*' part ↔ ∀ d ∈ part, Text.isBlank d = false := by rw [Stands, if_pos rfl]

theorem stands_char {c : Char} (h : c ≠ '*') {part : List Char} : Stands c part ↔ part = [c] := by
  rw [Stands, if_neg h]

theorem fills_nil {text : List Char} : Fills [] text ↔ text = [] := by
  simp [Fills, eq_comm]

theorem fills_cons {c : Char} {pattern text : List Char} :
    Fills (c :: pattern) text ↔
      ∃ part rest, Stands c part ∧ Fills pattern rest ∧ part ++ rest = text := by
  constructor
  · rintro ⟨parts, hparts, rfl⟩
    cases hparts with
    | @cons _ part _ parts hpart hrest =>
      exact ⟨part, parts.flatten, hpart, ⟨parts, hrest, rfl⟩, by rw [List.flatten_cons]⟩
  · rintro ⟨part, rest, hpart, ⟨parts, hparts, rfl⟩, rfl⟩
    exact ⟨part :: parts, .cons hpart hparts, by rw [List.flatten_cons]⟩

theorem Covers.star_append {pattern part text : List Char}
    (hpart : ∀ d ∈ part, Text.isBlank d = false) (h : Covers pattern text) :
    Covers ('*' :: pattern) (part ++ text) := by
  induction part with
  | nil => exact .starEnd h
  | cons d part ih =>
    exact .starMore (hpart d (by simp)) (ih fun e he => hpart e (by simp [he]))

theorem Covers.fills {pattern text : List Char} (h : Covers pattern text) :
    Fills pattern text := by
  induction h with
  | done => exact fills_nil.2 rfl
  | @char c p t hc _ ih => exact fills_cons.2 ⟨[c], t, (stands_char hc).2 rfl, ih, rfl⟩
  | @starEnd p t _ ih => exact fills_cons.2 ⟨[], t, stands_star.2 (by simp), ih, rfl⟩
  | @starMore c p t hc _ ih =>
    obtain ⟨part, rest, hpart, hrest, rfl⟩ := fills_cons.1 ih
    refine fills_cons.2 ⟨c :: part, rest, stands_star.2 ?_, hrest, rfl⟩
    simpa [hc] using stands_star.1 hpart

theorem covers_of_fills {pattern text : List Char} (h : Fills pattern text) :
    Covers pattern text := by
  induction pattern generalizing text with
  | nil => exact fills_nil.1 h ▸ .done
  | cons c pattern ih =>
    obtain ⟨part, rest, hpart, hrest, rfl⟩ := fills_cons.1 h
    by_cases hc : c = '*'
    · subst hc
      exact (ih hrest).star_append (stands_star.1 hpart)
    · rw [(stands_char hc).1 hpart]
      exact .char hc (ih hrest)

theorem covers_iff_fills {pattern text : List Char} :
    covers pattern text = true ↔ Fills pattern text := by
  rw [matches_iff]
  exact ⟨Covers.fills, covers_of_fills⟩

end Glob

namespace Expression

def special : List Char :=
  ['\\', '.', '+', '*', '?', '(', ')', '|', '[', ']', '{', '}', '^', '$', '#', '&', '-', '~']

def escaped (s : List Char) : List Char :=
  s.flatMap fun c => if c ∈ special then ['\\', c] else [c]

def opened : List Char → List Char
  | '\\' :: '*' :: r => '\\' :: 'S' :: '*' :: opened r
  | c :: r => c :: opened r
  | [] => []

/-- The regular expression of a pattern, which has to match from the first character to the last. -/
def ofPattern (pattern : List Char) : List Char := '^' :: (opened (escaped pattern) ++ ['$'])

inductive Spans : List Char → List Char → Prop where
  | stop : Spans ['$'] []
  | run {e part t : List Char} (h : ∀ d ∈ part, Text.isBlank d = false) (rest : Spans e t) :
    Spans ('\\' :: 'S' :: '*' :: e) (part ++ t)
  | escape {c : Char} {e t : List Char} (h : c ∈ special) (rest : Spans e t) :
    Spans ('\\' :: c :: e) (c :: t)
  | char {c : Char} {e t : List Char} (h : c ∉ special) (rest : Spans e t) :
    Spans (c :: e) (c :: t)

def Matches (expression text : List Char) : Prop :=
  ∃ e, expression = '^' :: e ∧ Spans e text

theorem opened_cons {c : Char} {r : List Char} (h : c = '\\' → r.head? ≠ some '*') :
    opened (c :: r) = c :: opened r := by
  rw [opened]
  rintro r' rfl rfl
  exact h rfl rfl

theorem escaped_cons (c : Char) (s : List Char) :
    escaped (c :: s) = (if c ∈ special then ['\\', c] else [c]) ++ escaped s := by
  rw [escaped, List.flatMap_cons]
  rfl

theorem head?_escaped (s : List Char) : (escaped s).head? ≠ some '*' := by
  cases s with
  | nil => simp [escaped]
  | cons c s =>
    rw [escaped_cons]
    split
    · simp
    · next hc =>
      rintro h
      have hstar : c = '*' := by simpa using h
      exact hc (hstar ▸ by decide)

def piece (c : Char) : List Char :=
  if c = '*' then ['\\', 'S', '*'] else if c ∈ special then ['\\', c] else [c]

theorem opened_escaped (pattern : List Char) :
    opened (escaped pattern) = pattern.flatMap piece := by
  induction pattern with
  | nil => rfl
  | cons c pattern ih =>
    rw [escaped_cons, List.flatMap_cons, ← ih]
    by_cases hstar : c = '*'
    · subst hstar
      rfl
    by_cases hc : c ∈ special
    · rw [if_pos hc, piece, if_neg hstar, if_pos hc]
      have hfirst : (c :: escaped pattern).head? ≠ some '*' := by simpa using hstar
      change opened ('\\' :: c :: escaped pattern) = _
      rw [opened_cons fun _ => hfirst, opened_cons fun _ => head?_escaped pattern]
      rfl
    · rw [if_neg hc, piece, if_neg hstar, if_neg hc]
      exact opened_cons fun _ => head?_escaped pattern

theorem spans_star {e t : List Char} :
    Spans ('\\' :: 'S' :: '*' :: e) t ↔
      ∃ part rest, (∀ d ∈ part, Text.isBlank d = false) ∧ Spans e rest ∧ part ++ rest = t := by
  constructor
  · intro h
    cases h with
    | @run _ part rest hpart hrest => exact ⟨part, rest, hpart, hrest, rfl⟩
    | escape h => exact absurd h (by decide)
    | char h => exact absurd (by decide) h
  · rintro ⟨part, rest, hpart, hrest, rfl⟩
    exact .run hpart hrest

theorem spans_escape {c : Char} (hc : c ∈ special) {e t : List Char} :
    Spans ('\\' :: c :: e) t ↔ ∃ rest, Spans e rest ∧ c :: rest = t := by
  constructor
  · intro h
    cases h with
    | run => exact absurd hc (by decide)
    | @escape _ _ rest _ hrest => exact ⟨rest, hrest, rfl⟩
    | char h => exact absurd (by decide) h
  · rintro ⟨rest, hrest, rfl⟩
    exact .escape hc hrest

theorem spans_char {c : Char} (hc : c ∉ special) {e t : List Char} :
    Spans (c :: e) t ↔ ∃ rest, Spans e rest ∧ c :: rest = t := by
  constructor
  · intro h
    cases h with
    | stop => exact absurd (by decide) hc
    | run => exact absurd (by decide) hc
    | escape => exact absurd (by decide) hc
    | @char _ _ rest _ hrest => exact ⟨rest, hrest, rfl⟩
  · rintro ⟨rest, hrest, rfl⟩
    exact .char hc hrest

theorem spans_iff_fills {pattern text : List Char} :
    Spans (pattern.flatMap piece ++ ['$']) text ↔ Glob.Fills pattern text := by
  induction pattern generalizing text with
  | nil =>
    rw [Glob.fills_nil]
    constructor
    · intro h
      cases h with
      | stop => rfl
      | char h => exact absurd (by decide) h
    · rintro rfl
      exact .stop
  | cons c pattern ih =>
    rw [List.flatMap_cons, List.append_assoc, Glob.fills_cons]
    simp only [← ih]
    by_cases hstar : c = '*'
    · subst hstar
      simp only [Glob.stands_star]
      exact spans_star
    simp only [Glob.stands_char hstar, exists_and_left, exists_eq_left, List.singleton_append]
    by_cases hc : c ∈ special
    · rw [piece, if_neg hstar, if_pos hc]
      exact spans_escape hc
    · rw [piece, if_neg hstar, if_neg hc]
      exact spans_char hc

theorem matches_ofPattern_iff {pattern text : List Char} :
    Matches (ofPattern pattern) text ↔ Glob.Fills pattern text := by
  rw [← spans_iff_fills, ← opened_escaped]
  constructor
  · rintro ⟨e, he, h⟩
    exact (List.cons.inj he).2 ▸ h
  · exact fun h => ⟨_, rfl, h⟩

end Expression

namespace Clause

theorem parse_of_tag {token : String} (h : (parse token).field = .tag) :
    parse token = build .tag .equals (parse token).raw.toList (parse token).inverted
      (parse token).optional := by
  obtain ⟨optional, inverted, body, -, -, hparse⟩ := exists_body token
  rcases readBody_cases optional inverted body with htag | ⟨lead, hlead, _, _, _, -, -, hbuild⟩
  · rw [hparse, htag, raw_build]
    rfl
  · rw [hparse, hbuild] at h
    exact absurd h (Field.ne_tag_of_mem_spellings hlead)

variable {literal : String} (optional : Bool) (post : Post)

theorem holds_of_operand {operand : Operand}
    (h : operandOf .tag .equals literal.toList = operand) :
    (build .tag .equals literal.toList false optional).holds post =
      test ⟨.tag, .equals, rawOf .tag literal.toList operand, operand, false, optional⟩ post := by
  rw [build, h, holds, Bool.bne_false]

theorem holds_pattern (h : '*' ∈ literal.toList) :
    (build .tag .equals literal.toList false optional).holds post = true ↔
      ∃ tag ∈ post.tags.all, Glob.Fills literal.toList tag.toList := by
  have hread : operandOf .tag .equals literal.toList = .pattern literal.toList := by
    change (if literal.toList.contains '*' then _ else _) = _
    rw [if_pos (by simpa using h)]
  rw [holds_of_operand optional post hread, test]
  simp only [List.any_eq_true, Glob.covers_iff_fills]

theorem holds_exact (h : '*' ∉ literal.toList) :
    (build .tag .equals literal.toList false optional).holds post = true ↔
      literal ∈ post.tags.all := by
  rw [holds_of_operand optional post (operandOf_of_no_star h .equals), test]
  simp only [Tags.contains, List.contains_eq_mem, decide_eq_true_eq]

/-- A clause on tags asks for its literal as it stands, or if there is a star in it for a tag that
falls into the characters of the literal and a run for each star, which are those tags that its
regular expression matches. Every token that is read as a clause on tags is such a clause. -/
theorem tag_clause_holds_iff :
    (∀ token, (parse token).field = .tag →
      parse token = build .tag .equals (parse token).raw.toList (parse token).inverted
        (parse token).optional) ∧
    ∀ (literal : String) (optional : Bool) (post : Post),
      ('*' ∈ literal.toList →
        ((build .tag .equals literal.toList false optional).holds post = true ↔
          ∃ tag ∈ post.tags.all, Glob.Fills literal.toList tag.toList) ∧
        ((build .tag .equals literal.toList false optional).holds post = true ↔
          ∃ tag ∈ post.tags.all,
            Expression.Matches (Expression.ofPattern literal.toList) tag.toList)) ∧
      ('*' ∉ literal.toList →
        ((build .tag .equals literal.toList false optional).holds post = true ↔
          literal ∈ post.tags.all)) := by
  refine ⟨fun token => parse_of_tag, fun literal optional post => ⟨fun h => ?_, fun h => ?_⟩⟩
  · refine ⟨holds_pattern optional post h, ?_⟩
    simp only [Expression.matches_ofPattern_iff]
    exact holds_pattern optional post h
  · exact holds_exact optional post h

/-- The backslash before the star and the brackets stand for themselves, and one star stands for
nothing. -/
theorem tag_clause_holds_iff_of_literals :
    (parse "~a\\*[x]*").field = .tag ∧ '*' ∈ "a\\*[x]*".toList ∧
      (build .tag .equals "a\\*[x]*".toList false true).holds
        { tags := .ofFlat "solo a\\bc[x]" } = true ∧
      '*' ∉ "a\\bc".toList ∧
      (build .tag .equals "a\\bc".toList false false).holds
        { tags := .ofFlat "solo a\\bc[x]" } ≠ true := by
  have hstar : '*' ∈ "a\\*[x]*".toList := by decide
  have hnone : '*' ∉ "a\\bc".toList := by decide
  have htags : (Tags.ofFlat "solo a\\bc[x]").all = ["solo", "a\\bc[x]"] := by decide +kernel
  have hfills : Glob.Fills "a\\*[x]*".toList "a\\bc[x]".toList := by
    have hliteral : "a\\*[x]*".toList = ['a', '\\', '*', '[', 'x', ']', '*'] := by decide
    have hchar : ∀ {c : Char}, c ≠ '*' → Glob.Stands c [c] := fun h => (Glob.stands_char h).2 rfl
    have hrun : ∀ part ∈ [['b', 'c'], []], Glob.Stands '*' part := by
      intro part hpart
      rw [Glob.stands_star]
      rcases List.mem_pair.1 hpart with rfl | rfl
      · simp [Text.isBlank, Text.inRanges, Text.blankRanges]
      · simp
    rw [hliteral]
    refine ⟨[['a'], ['\\'], ['b', 'c'], ['['], ['x'], [']'], []], ?_, by decide⟩
    exact .cons (hchar (by decide)) <| .cons (hchar (by decide)) <|
      .cons (hrun _ (by simp)) <| .cons (hchar (by decide)) <|
      .cons (hchar (by decide)) <| .cons (hchar (by decide)) <|
      .cons (hrun _ (by simp)) .nil
  refine ⟨by decide +kernel, hstar, ?_, hnone, ?_⟩
  · exact (((tag_clause_holds_iff.2 _ true _).1 hstar).1).2 ⟨_, by rw [htags]; simp, hfills⟩
  · rw [ne_eq, (tag_clause_holds_iff.2 _ false _).2 hnone, htags]
    decide

end Clause

end BoardFilter
