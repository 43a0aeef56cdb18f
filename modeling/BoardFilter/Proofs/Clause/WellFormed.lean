import BoardFilter.Proofs.Clause.Unanswered

/-!
# Well-formed clauses

What a clause compares with is what its field reads its literal as: one number, or the lesser and
the greater of two. The readers refuse what is no number, but a ratio of two infinite numbers is
accepted although it is NaN, and in a range it is dropped for the other end. All other clauses hold
numbers only, and ordered ones where there are two.
-/

namespace BoardFilter

namespace Clause

/-- The numbers of a clause are those that its field reads its literal as. -/
structure FollowsLiteral (c : Clause) (literal : String) : Prop where
  number : ∀ x, c.operand = .number x →
    c.comparison ≠ .range ∧ numberOf? c.field literal.toList = some x
  range : ∀ low high, c.operand = .range low high →
    c.comparison = .range ∧ ∃ a b x y, HasParts literal.toList a b ∧
      numberOf? c.field a = some x ∧ numberOf? c.field b = some y ∧
        low = x.min y ∧ high = x.max y

theorem followsLiteral (q : Question) (inverted optional : Bool) :
    (q.clause inverted optional).FollowsLiteral q.literal where
  number _ hoperand := numeric?_eq_number_iff.1 (numeric?_of_operandOf hoperand rfl)
  range _ _ hoperand := numeric?_eq_range_iff.1 (numeric?_of_operandOf hoperand rfl)

theorem InfiniteRatio.numberOf?_eq {s : List Char} (h : InfiniteRatio s) :
    numberOf? .aspectRatio s = some .nan := by
  obtain ⟨width, height, w, h, rfl, hcolon, hw, hh, hwi, hhi⟩ := h
  change ratio? _ = _
  rw [ratio?_colon hcolon, hw, hh]
  dsimp only
  rw [Binary64.same_zero_of_isInfinite hhi, if_neg Bool.false_ne_true]
  cases w with
  | nan | finite => cases hwi
  | infinite s =>
    cases h with
    | nan | finite => cases hhi
    | infinite t => rfl

/-- The clause compares with numbers only. The two of a range are in order, and its literal has two
parts that are numbers of the field each by itself. -/
structure WellFormed (c : Clause) (literal : String) : Prop where
  number : ∀ x, c.operand = .number x → c.comparison ≠ .range ∧ x.isNaN = false
  range : ∀ low high, c.operand = .range low high →
    c.comparison = .range ∧ low.isNaN = false ∧ high.isNaN = false ∧ low.le high = true ∧
      ∃ a b x y, HasParts literal.toList a b ∧ numberOf? c.field a = some x ∧ x.isNaN = false ∧
        numberOf? c.field b = some y ∧ y.isNaN = false

/-- The literal is read for a ratio, as it stands or in two parts, and holds a ratio of two infinite
numbers. -/
inductive Question.HasInfiniteRatio : Question → Prop
  | whole {comparison : Comparison} {literal : String} (hone : comparison ≠ .range)
    (h : InfiniteRatio literal.toList) : HasInfiniteRatio ⟨.aspectRatio, comparison, literal⟩
  | part {literal : String} {a b : List Char} {x y : Binary64}
    (hparts : HasParts literal.toList a b) (hx : numberOf? .aspectRatio a = some x)
    (hy : numberOf? .aspectRatio b = some y) (h : InfiniteRatio a ∨ InfiniteRatio b) :
    HasInfiniteRatio ⟨.aspectRatio, .range, literal⟩

section

variable {q : Question} (inverted optional : Bool)

theorem Question.HasInfiniteRatio.not_wellFormed (h : q.HasInfiniteRatio) :
    ¬ (q.clause inverted optional).WellFormed q.literal := by
  intro hwell
  cases h with
  | @whole comparison literal hone h =>
    have hread := numeric?_eq_number_iff.2 ⟨hone, h.numberOf?_eq⟩
    cases (hwell.number _ (operandOf_of_numeric? rfl hread)).2
  | @part literal a b x y hparts hx hy h =>
    have hread := numeric?_eq_range_iff.2 ⟨rfl, a, b, x, y, hparts, hx, hy, rfl, rfl⟩
    obtain ⟨-, -, -, -, a', b', x', y', hparts', hx', hnx, hy', hny⟩ :=
      hwell.range _ _ (operandOf_of_numeric? rfl hread)
    obtain ⟨rfl, rfl⟩ := hparts.unique hparts'
    rcases h with h | h
    · cases Option.some.inj (h.numberOf?_eq.symm.trans hx')
      cases hnx
    · cases Option.some.inj (h.numberOf?_eq.symm.trans hy')
      cases hny

theorem wellFormed_of_not_hasInfiniteRatio (h : ¬ q.HasInfiniteRatio) :
    (q.clause inverted optional).WellFormed q.literal := by
  have hfollows := followsLiteral q inverted optional
  obtain ⟨field, comparison, literal⟩ := q
  constructor
  · intro x hoperand
    obtain ⟨hone, hread⟩ := hfollows.number x hoperand
    refine ⟨hone, isNaN_of_numberOf? hread ?_⟩
    rintro ⟨rfl, hinfinite⟩
    exact h (.whole hone hinfinite)
  · intro low high hoperand
    obtain ⟨hcomparison, a, b, x, y, hparts, hx, hy, rfl, rfl⟩ := hfollows.range low high hoperand
    cases hcomparison
    have hnx : x.isNaN = false := by
      refine isNaN_of_numberOf? hx ?_
      rintro ⟨rfl, hinfinite⟩
      exact h (.part hparts hx hy (.inl hinfinite))
    have hny : y.isNaN = false := by
      refine isNaN_of_numberOf? hy ?_
      rintro ⟨rfl, hinfinite⟩
      exact h (.part hparts hx hy (.inr hinfinite))
    obtain ⟨m, hm⟩ := Binary64.exists_rank hnx
    obtain ⟨n, hn⟩ := Binary64.exists_rank hny
    exact ⟨rfl, Binary64.isNaN_of_rank (Binary64.rank?_min hm hn),
      Binary64.isNaN_of_rank (Binary64.rank?_max hm hn), Binary64.min_le_max hm hn,
      a, b, x, y, hparts, hx, hnx, hy, hny⟩

theorem wellFormed_iff :
    (q.clause inverted optional).WellFormed q.literal ↔ ¬ q.HasInfiniteRatio :=
  ⟨fun hwell h => h.not_wellFormed inverted optional hwell,
    wellFormed_of_not_hasInfiniteRatio inverted optional⟩

end

def questionIn (field : Field) (text : String) : Question :=
  let (comparison, literal) := splitFor field text.toList
  ⟨field, comparison, String.ofList literal⟩

theorem excluding_eq_clause (field : Field) (text : String) :
    excluding field text = (questionIn field text).clause true false := by
  rw [excluding, questionIn, Question.clause, String.toList_ofList]

/-- The clauses that are read from tokens and those of exemptions follow their literals. They are
well-formed unless the literal holds a ratio of two infinite numbers. -/
theorem built_clauses_well_formed (token text : String) (field : Field) :
    ((parse token).FollowsLiteral (questionOf token).literal ∧
      ((parse token).WellFormed (questionOf token).literal ↔
        ¬ (questionOf token).HasInfiniteRatio)) ∧
    (excluding field text).FollowsLiteral (questionIn field text).literal ∧
      ((excluding field text).WellFormed (questionIn field text).literal ↔
        ¬ (questionIn field text).HasInfiniteRatio) := by
  obtain ⟨inverted, optional, hparse⟩ := exists_clause token
  rw [hparse, excluding_eq_clause]
  exact ⟨⟨followsLiteral _ inverted optional, wellFormed_iff inverted optional⟩,
    followsLiteral _ true false, wellFormed_iff true false⟩

/-- The ratio is NaN and is kept as it is, and a range with it is read as its other end alone, which
is the ratio of this post. -/
theorem infinite_ratio_drops_out_of_range :
    let post : Post := { file := { width := 3, height := 2 } }
    (parse "ratio:inf:inf").operand = .number .nan ∧
    ¬ (parse "ratio:inf:inf").WellFormed (questionOf "ratio:inf:inf").literal ∧
    ¬ (parse "ratio:inf:inf...1.5").WellFormed (questionOf "ratio:inf:inf...1.5").literal ∧
    (parse "ratio:inf:inf...1.5").holds post = true := by
  intro post
  have hword : number? "inf".toList = some (.infinite false) := by decide
  have hinfinite : InfiniteRatio "inf:inf".toList :=
    ⟨_, _, _, _, by decide, by decide, hword, hword, rfl, rfl⟩
  have hparts : HasParts "inf:inf...1.5".toList "inf:inf".toList "1.5".toList :=
    rangeParts_eq_pair_iff.1 (by decide)
  obtain ⟨x, hx⟩ : ∃ x, numberOf? .aspectRatio "1.5".toList = some x :=
    Option.isSome_iff_exists.1 (by decide +kernel)
  have hone : questionOf "ratio:inf:inf" = ⟨.aspectRatio, .equals, "inf:inf"⟩ := by decide
  have htwo : questionOf "ratio:inf:inf...1.5" = ⟨.aspectRatio, .range, "inf:inf...1.5"⟩ := by
    decide
  have hflawed : (questionOf "ratio:inf:inf").HasInfiniteRatio := by
    rw [hone]
    exact .whole (by decide) hinfinite
  have hflawed' : (questionOf "ratio:inf:inf...1.5").HasInfiniteRatio := by
    rw [htwo]
    exact .part hparts hinfinite.numberOf?_eq hx (.inl hinfinite)
  obtain ⟨inverted, optional, hparse⟩ := exists_clause "ratio:inf:inf"
  obtain ⟨inverted', optional', hparse'⟩ := exists_clause "ratio:inf:inf...1.5"
  refine ⟨by decide +kernel, ?_, ?_, by decide +kernel⟩
  · rw [hparse]
    exact hflawed.not_wellFormed inverted optional
  · rw [hparse']
    exact hflawed'.not_wellFormed inverted' optional'

end Clause

end BoardFilter
