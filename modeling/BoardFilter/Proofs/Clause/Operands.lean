import BoardFilter.Proofs.Clause.Splitting

/-!
# Numbers as operands

A literal becomes a number, or a range of two, just where the reader of its field accepts it or
its two parts. All other operands are of another kind.
-/

namespace BoardFilter

def Operand.isNumeric : Operand → Bool
  | .number _ | .range _ _ => true
  | _ => false

def Field.isNumeric : Field → Bool
  | .tag | .favorited | .rating | .status | .fileType | .hasParent | .hasChild => false
  | _ => true

namespace Clause

variable {field : Field} {comparison : Comparison} {literal : List Char} {operand other : Operand}

theorem range?_eq_some_iff {read : List Char → Option Binary64} :
    range? read literal = some operand ↔ ∃ a b x y, HasParts literal a b ∧ read a = some x ∧
      read b = some y ∧ operand = .range (x.min y) (x.max y) := by
  constructor
  · intro h
    unfold range? at h
    split at h
    · next a b hparts =>
      split at h
      · next x y hx hy =>
        exact ⟨a, b, x, y, rangeParts_eq_pair_iff.1 hparts, hx, hy, (Option.some.inj h).symm⟩
      · cases h
    · cases h
  · rintro ⟨a, b, x, y, hparts, hx, hy, rfl⟩
    simp only [range?, rangeParts_eq_pair_iff.2 hparts, hx, hy]

theorem numeric?_eq_number_iff {x : Binary64} :
    numeric? field comparison literal = some (.number x) ↔
      comparison ≠ .range ∧ numberOf? field literal = some x := by
  rw [numeric?]
  split
  · next hrange =>
    refine iff_of_false (fun h => ?_) fun h => h.1 hrange
    obtain ⟨a, b, y, z, -, -, -, hoperand⟩ := range?_eq_some_iff.1 h
    cases hoperand
  · next hone => simp [hone]

theorem numeric?_eq_range_iff {low high : Binary64} :
    numeric? field comparison literal = some (.range low high) ↔
      comparison = .range ∧ ∃ a b x y, HasParts literal a b ∧ numberOf? field a = some x ∧
        numberOf? field b = some y ∧ low = x.min y ∧ high = x.max y := by
  rw [numeric?]
  split
  · next hrange => simp only [range?_eq_some_iff, Operand.range.injEq, hrange, true_and]
  · next hone => simp [hone]

theorem isNumeric_of_numeric? (h : numeric? field comparison literal = some operand) :
    operand.isNumeric = true := by
  rw [numeric?] at h
  split at h
  · obtain ⟨a, b, x, y, -, -, -, rfl⟩ := range?_eq_some_iff.1 h
    rfl
  · obtain ⟨x, -, rfl⟩ := Option.map_eq_some_iff.1 h
    rfl

theorem getD_numeric?_ne (hoperand : operand.isNumeric = false) (hother : other ≠ operand) :
    (numeric? field comparison literal).getD other ≠ operand := by
  cases hread : numeric? field comparison literal with
  | none => exact hother
  | some read =>
    rintro rfl
    rw [Option.getD_some, isNumeric_of_numeric? hread] at hoperand
    cases hoperand

theorem numeric?_of_getD (h : (numeric? field comparison literal).getD other = operand)
    (hoperand : operand.isNumeric = true) (hother : other.isNumeric = false) :
    numeric? field comparison literal = some operand := by
  cases hread : numeric? field comparison literal with
  | none =>
    rw [hread, Option.getD_none] at h
    rw [← h, hother] at hoperand
    cases hoperand
  | some read => rw [← h, hread, Option.getD_some]

theorem numeric?_of_operandOf (h : operandOf field comparison literal = operand)
    (hoperand : operand.isNumeric = true) : numeric? field comparison literal = some operand := by
  unfold operandOf at h
  cases field with
  | tag | rating | fileType | favorited | hasParent | hasChild =>
    dsimp only at h
    split at h <;>
    · subst h
      cases hoperand
  | status =>
    subst h
    cases hoperand
  | approver =>
    dsimp only at h
    split at h
    · subst h
      cases hoperand
    · exact numeric?_of_getD h hoperand rfl
  | id | score | favCount | uploader | height | width | fileSize | duration | aspectRatio
  | tagCount | categoryCount => exact numeric?_of_getD h hoperand rfl

theorem numeric?_word {word : String} (h : word = "none" ∨ word = "any")
    (comparison : Comparison) : numeric? .approver comparison word.toList = none := by
  rcases h with rfl | rfl <;> cases comparison <;> decide +kernel

theorem operandOf_of_numeric? (hfield : field.isNumeric = true)
    (h : numeric? field comparison literal = some operand) :
    operandOf field comparison literal = operand := by
  cases field with
  | tag | favorited | rating | status | fileType | hasParent | hasChild => cases hfield
  | approver =>
    have hplain : ¬ (String.ofList literal = "none" ∨ String.ofList literal = "any") := by
      intro hword
      rw [← String.toList_ofList (l := literal), numeric?_word hword] at h
      cases h
    unfold operandOf
    dsimp only
    rw [if_neg hplain, h, Option.getD_some]
  | id | score | favCount | uploader | height | width | fileSize | duration | aspectRatio
  | tagCount | categoryCount =>
    unfold operandOf
    dsimp only
    rw [h, Option.getD_some]

end Clause

end BoardFilter
