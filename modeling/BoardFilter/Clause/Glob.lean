import BoardFilter.Text.Blank

/-!
# Tag patterns

In a pattern a star stands for any run of characters that are not blank, and every other character
for itself. The matcher works out a row of answers, one for each suffix of the text, for ever
longer suffixes of the pattern. Main statement: the first answer of the row of a whole pattern says
whether the pattern covers the text (`Glob.matches_iff`).
-/

namespace BoardFilter.Glob

inductive Covers : List Char → List Char → Prop where
  | done : Covers [] []
  | char {c : Char} {p t : List Char} (h : c ≠ '*') (rest : Covers p t) : Covers (c :: p) (c :: t)
  | starEnd {p t : List Char} (rest : Covers p t) : Covers ('*' :: p) t
  | starMore {c : Char} {p t : List Char} (h : Text.isBlank c = false)
      (rest : Covers ('*' :: p) t) : Covers ('*' :: p) (c :: t)

def first (row : List Bool) : Bool := row.headD false

def endRow : List Char → List Bool
  | [] => [true]
  | _ :: t => false :: endRow t

def starRow : List Char → List Bool → List Bool
  | [], row => row
  | c :: t, row =>
    let later := starRow t row.tail
    (first row || (!Text.isBlank c && first later)) :: later

def charRow (p : Char) : List Char → List Bool → List Bool
  | [], _ => [false]
  | c :: t, row => (p == c && first row.tail) :: charRow p t row.tail

/-- The answers of a pattern for all suffixes of a text, the whole text first. -/
def row (text : List Char) : List Char → List Bool
  | [] => endRow text
  | p :: ps => if p = '*' then starRow text (row text ps) else charRow p text (row text ps)

def covers (pattern text : List Char) : Bool := first (row text pattern)

def Right (pattern : List Char) : List Char → List Bool → Prop
  | [], [b] => b = true ↔ Covers pattern []
  | c :: t, b :: bs => (b = true ↔ Covers pattern (c :: t)) ∧ Right pattern t bs
  | _, _ => False

theorem Right.first {pattern : List Char} {t : List Char} {bs : List Bool}
    (h : Right pattern t bs) : Glob.first bs = true ↔ Covers pattern t := by
  match t, bs, h with
  | [], [_], h => exact h
  | _ :: _, _ :: _, h => exact h.1

theorem Right.tail {pattern : List Char} {c : Char} {t : List Char} {bs : List Bool}
    (h : Right pattern (c :: t) bs) : Right pattern t bs.tail := by
  match bs, h with
  | _ :: _, h => exact h.2

theorem covers_nil_iff (t : List Char) : Covers [] t ↔ t = [] :=
  ⟨fun h => by cases h; rfl, fun h => h ▸ .done⟩

theorem covers_char_nil {p : Char} {ps : List Char} (hp : p ≠ '*') : ¬ Covers (p :: ps) [] := by
  intro h
  cases h
  exact hp rfl

theorem covers_char_cons {p c : Char} {ps t : List Char} (hp : p ≠ '*') :
    Covers (p :: ps) (c :: t) ↔ p = c ∧ Covers ps t := by
  constructor
  · intro h
    cases h with
    | char _ rest => exact ⟨rfl, rest⟩
    | starEnd => exact absurd rfl hp
    | starMore => exact absurd rfl hp
  · rintro ⟨rfl, h⟩
    exact .char hp h

theorem covers_star_nil {ps : List Char} : Covers ('*' :: ps) [] ↔ Covers ps [] := by
  constructor
  · intro h
    cases h with
    | starEnd rest => exact rest
  · exact .starEnd

theorem covers_star_cons {c : Char} {ps t : List Char} :
    Covers ('*' :: ps) (c :: t) ↔
      Covers ps (c :: t) ∨ (Text.isBlank c = false ∧ Covers ('*' :: ps) t) := by
  constructor
  · intro h
    cases h with
    | char h => exact absurd rfl h
    | starEnd rest => exact .inl rest
    | starMore h rest => exact .inr ⟨h, rest⟩
  · rintro (h | ⟨h, rest⟩)
    · exact .starEnd h
    · exact .starMore h rest

theorem right_endRow (t : List Char) : Right [] t (endRow t) := by
  induction t with
  | nil => simp [endRow, Right, covers_nil_iff]
  | cons c t ih => simp [endRow, Right, covers_nil_iff, ih]

theorem right_starRow {ps : List Char} (t : List Char) {bs : List Bool} (h : Right ps t bs) :
    Right ('*' :: ps) t (starRow t bs) := by
  induction t generalizing bs with
  | nil =>
    match bs, h with
    | [_], h => simpa [starRow, Right, covers_star_nil] using h
  | cons c t ih =>
    have later := ih h.tail
    refine ⟨?_, later⟩
    rw [covers_star_cons, ← h.first, ← later.first]
    simp

theorem right_charRow {p : Char} {ps : List Char} (hp : p ≠ '*') (t : List Char) {bs : List Bool}
    (h : Right ps t bs) : Right (p :: ps) t (charRow p t bs) := by
  induction t generalizing bs with
  | nil => simp [charRow, Right, covers_char_nil hp]
  | cons c t ih =>
    refine ⟨?_, ih h.tail⟩
    rw [covers_char_cons hp, ← h.tail.first]
    simp

theorem right_row (pattern t : List Char) : Right pattern t (row t pattern) := by
  induction pattern with
  | nil => exact right_endRow t
  | cons p ps ih =>
    by_cases hp : p = '*'
    · subst hp
      simpa [row] using right_starRow t ih
    · simpa [row, hp] using right_charRow hp t ih

theorem matches_iff (pattern t : List Char) : covers pattern t = true ↔ Covers pattern t :=
  (right_row pattern t).first

end BoardFilter.Glob
