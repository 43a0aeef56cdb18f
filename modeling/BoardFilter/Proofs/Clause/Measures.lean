import BoardFilter.Proofs.Clause.Literals

/-!
# Numbers of posts

A numeric field asks for one number of a post, which the post may lack. If it has the number, then a
clause of the field holds just if the place of the number stands in the relation of the clause to
the place of its literal, or lies between the places of the two ends of its range.
-/

namespace BoardFilter

def Comparison.Relates : Comparison → Int → Int → Prop
  | equals, a, b => a = b
  | less, a, b => a < b
  | lessOrEqual, a, b => a ≤ b
  | greater, a, b => b < a
  | greaterOrEqual, a, b => b ≤ a
  | range, _, _ => False

namespace Post

def whole? (post : Post) : Field → Option Int
  | .id => some post.id
  | .score => some post.score
  | .favCount => some post.favorites
  | .height => some post.file.height
  | .width => some post.file.width
  | .tagCount => some post.tags.size
  | .categoryCount category => (post.tags.count? category).map Int.ofNat
  | .uploader => some post.uploader
  | .approver => post.approver.map Int.ofNat
  | _ => none

/-- The number of a post that a field compares, if the post has one. -/
def measure? (post : Post) : Field → Option Binary64
  | .fileSize => some (.ofNat post.file.size)
  | .duration => post.file.duration
  | .aspectRatio => post.file.ratio?.map Clause.toHundredths
  | field => (post.whole? field).map .ofInt

theorem measure?_of_whole? {post : Post} {field : Field} {n : Int}
    (h : post.whole? field = some n) : post.measure? field = some (.ofInt n) := by
  have hmap : (post.whole? field).map Binary64.ofInt = some (.ofInt n) := by
    rw [h, Option.map_some]
  cases field with
  | fileSize | duration | aspectRatio => cases h
  | tag | id | score | favorited | favCount | rating | status | uploader | approver | height
  | width | fileType | tagCount | categoryCount | hasParent | hasChild => exact hmap

/-- Only a duration may be stored as NaN: the height of a file has 32 bits. -/
theorem isNaN_measure {post : Post} {field : Field} {x : Binary64}
    (h : post.measure? field = some x) (hduration : field = .duration → x.isNaN = false) :
    x.isNaN = false := by
  have hheight : post.file.height < 0x100000000 := post.file.height_lt
  unfold measure? at h
  split at h
  · rw [← Option.some.inj h]
    exact Binary64.isNaN_ofNat _
  · exact hduration rfl
  · obtain ⟨ratio, hratio, rfl⟩ := Option.map_eq_some_iff.1 h
    unfold MediaFile.ratio? at hratio
    split at hratio
    · next hpos =>
      rw [← Option.some.inj hratio]
      exact Clause.isNaN_toHundredths
        (Binary64.isNaN_div_ofNat (Binary64.isNaN_ofNat _) hpos (by omega))
    · cases hratio
  · obtain ⟨n, -, rfl⟩ := Option.map_eq_some_iff.1 h
    exact Binary64.isNaN_of_rank (Binary64.rank?_ofInt n)

def Satisfies (post : Post) (token : String) : Prop := (Clause.parse token).holds post = true

end Post

namespace Clause

variable {post : Post} {x : Binary64}

theorem test_eq_compares {c : Clause} (hx : post.measure? c.field = some x)
    (hword : ∀ w, c.operand ≠ .word w) : c.test post = c.compares x := by
  obtain ⟨field, comparison, raw, operand, inverted, optional⟩ := c
  dsimp only at hx hword
  cases field with
  | tag | favorited | rating | status | fileType | hasParent | hasChild => cases hx
  | id | score | favCount | height | width | fileSize | tagCount =>
    simp only [Post.measure?, Post.whole?, Option.map_some, Option.some.injEq] at hx
    simp only [test, comparesNat, ← hx, Binary64.ofInt_natCast]
  | duration | aspectRatio =>
    simp only [Post.measure?] at hx
    simp only [test, comparesSome, hx]
  | categoryCount category =>
    obtain ⟨n, hn, rfl⟩ := Option.map_eq_some_iff.1 hx
    obtain ⟨n, hcount, rfl⟩ := Option.map_eq_some_iff.1 hn
    simp only [test, comparesSome, hcount, Option.map_some, Int.ofNat_eq_natCast,
      Binary64.ofInt_natCast]
  | uploader =>
    simp only [Post.measure?, Post.whole?, Option.map_some, Option.some.injEq] at hx
    unfold test
    dsimp only
    split
    · next name => exact absurd rfl (hword name)
    · rw [comparesNat, ← hx, Binary64.ofInt_natCast]
  | approver =>
    obtain ⟨n, hn, rfl⟩ := Option.map_eq_some_iff.1 hx
    obtain ⟨n, happrover, rfl⟩ := Option.map_eq_some_iff.1 hn
    unfold test
    dsimp only
    split
    · next s => exact absurd rfl (hword s)
    · simp only [comparesSome, happrover, Option.map_some, Int.ofNat_eq_natCast,
        Binary64.ofInt_natCast]

section

variable {a : Int} (hx : x.rank? = some a)

include hx

theorem compares_number_iff {c : Clause} {v : Binary64} {b : Int} (hv : v.rank? = some b)
    (hoperand : c.operand = .number v) :
    c.compares x = true ↔ c.comparison.Relates a b := by
  obtain ⟨field, comparison, raw, operand, inverted, optional⟩ := c
  cases hoperand
  cases comparison with
  | equals => simp [compares, Comparison.Relates, Binary64.same_eq_decide hx hv]
  | less => simp [compares, Comparison.Relates, Binary64.lt_eq_decide hx hv]
  | lessOrEqual => simp [compares, Comparison.Relates, Binary64.le_eq_decide hx hv]
  | greater => simp [compares, Comparison.Relates, Binary64.lt_eq_decide hv hx]
  | greaterOrEqual => simp [compares, Comparison.Relates, Binary64.le_eq_decide hv hx]
  | range => simp [compares, Comparison.Relates]

theorem compares_range_iff {c : Clause} {low high : Binary64} {l h : Int}
    (hlow : low.rank? = some l) (hhigh : high.rank? = some h) (hrange : c.comparison = .range)
    (hoperand : c.operand = .range low high) : c.compares x = true ↔ l ≤ a ∧ a ≤ h := by
  obtain ⟨field, comparison, raw, operand, inverted, optional⟩ := c
  cases hrange
  cases hoperand
  simp [compares, Binary64.le_eq_decide hlow hx, Binary64.le_eq_decide hx hhigh]

end

theorem isNumeric_of_measure? {field : Field} (hx : post.measure? field = some x) :
    field.isNumeric = true := by
  cases field with
  | tag | favorited | rating | status | fileType | hasParent | hasChild => cases hx
  | id | score | favCount | uploader | approver | height | width | fileSize | duration
  | aspectRatio | tagCount | categoryCount => rfl

section

variable {lead : String × Field} (hlead : lead ∈ Field.spellings)
  (hmeasure : post.measure? lead.2 = some x)

include hlead hmeasure

theorem parse_of_numeric? {rest : String} {comparison : Comparison} {literal : List Char}
    {operand : Operand}
    (hsplit : splitComparison (Text.dropEndWhile Text.isBlank rest.toList) = (comparison, literal))
    (h : numeric? lead.2 comparison literal = some operand) (hword : ∀ w, operand ≠ .word w) :
    (parse (lead.1 ++ rest)).comparison = comparison ∧
      (parse (lead.1 ++ rest)).operand = operand ∧
        (parse (lead.1 ++ rest)).holds post = (parse (lead.1 ++ rest)).compares x := by
  have hnone : marks false false ++ (lead.1 ++ rest) = lead.1 ++ rest := String.empty_append
  have hparse := parse_spelling_append hlead rest false false hsplit
  rw [hnone] at hparse
  have hfield : (parse (lead.1 ++ rest)).field = lead.2 := by rw [hparse, build]
  have hinverted : (parse (lead.1 ++ rest)).inverted = false := by rw [hparse, build]
  have hcomparison : (parse (lead.1 ++ rest)).comparison = comparison := by rw [hparse, build]
  have hoperand : (parse (lead.1 ++ rest)).operand = operand := by
    rw [hparse, ← operandOf_of_numeric? (isNumeric_of_measure? hmeasure) h, build]
  refine ⟨hcomparison, hoperand, ?_⟩
  rw [holds, hinverted, Bool.bne_false,
    test_eq_compares (hfield.symm ▸ hmeasure) (by rwa [hoperand])]

variable {a : Int} (hx : x.rank? = some a) {v : String} {y : Binary64} {b : Int}
  (hv : numberOf? lead.2 v.toList = some y) (hy : y.rank? = some b)

include hx hv hy

theorem satisfies_sign_iff {sign : String} {comparison : Comparison}
    (hsign : (sign, comparison) ∈ signs) :
    post.Satisfies (lead.1 ++ (sign ++ v)) ↔ comparison.Relates a b := by
  have hread := (numberOf?_dropEndWhile lead.2 v.toList).trans hv
  have hsplit : splitComparison (Text.dropEndWhile Text.isBlank (sign ++ v).toList) =
      (comparison, Text.dropEndWhile Text.isBlank v.toList) := by
    rw [String.toList_append, Text.dropEndWhile_append fun c hc => isBlank_of_mem_sign hsign hc]
    exact splitComparison_of_numberOf? hread hsign
  have hnumeric : numeric? lead.2 comparison (Text.dropEndWhile Text.isBlank v.toList) =
      some (.number y) :=
    numeric?_eq_number_iff.2 ⟨ne_range_of_mem_signs hsign, hread⟩
  obtain ⟨hcomparison, hoperand, hholds⟩ :=
    parse_of_numeric? hlead hmeasure hsplit hnumeric (by simp)
  rw [Post.Satisfies, hholds, compares_number_iff hx hy hoperand, hcomparison]

theorem satisfies_range_iff (hend : v.toList.getLast? ≠ some '.') {w : String} {z : Binary64}
    {c : Int} (hw : numberOf? lead.2 w.toList = some z) (hz : z.rank? = some c) :
    post.Satisfies (lead.1 ++ (v ++ rangeMark ++ w)) ↔ Min.min b c ≤ a ∧ a ≤ Max.max b c := by
  have hread := (numberOf?_dropEndWhile lead.2 w.toList).trans hw
  have hparts := rangeParts_append (not_hasRangeMark_of_numberOf? hv) hend
    (not_hasRangeMark_of_numberOf? hread)
  have hsplit : splitComparison (Text.dropEndWhile Text.isBlank (v ++ rangeMark ++ w).toList) =
      (.range, v.toList ++ (rangeMark.toList ++ Text.dropEndWhile Text.isBlank w.toList)) := by
    -- the blanks at the end are behind the range mark
    rw [String.toList_append, String.toList_append, Text.dropEndWhile_append_of_getLast,
      List.append_assoc]
    · exact splitComparison_of_rangeMark ⟨_, _, List.append_assoc _ _ _⟩
    · intro d hd
      rw [List.getLast?_append] at hd
      cases hd
      decide
  have hnumeric : numeric? lead.2 .range
      (v.toList ++ (rangeMark.toList ++ Text.dropEndWhile Text.isBlank w.toList)) =
      some (.range (y.min z) (y.max z)) :=
    numeric?_eq_range_iff.2
      ⟨rfl, _, _, y, z, rangeParts_eq_pair_iff.1 hparts, hv, hread, rfl, rfl⟩
  obtain ⟨hcomparison, hoperand, hholds⟩ :=
    parse_of_numeric? hlead hmeasure hsplit hnumeric (by simp)
  rw [Post.Satisfies, hholds, compares_range_iff hx (Binary64.rank?_min hy hz)
    (Binary64.rank?_max hy hz) hcomparison hoperand]

end

theorem satisfies_plain_iff {lead : String × Field} (hlead : lead ∈ Field.spellings)
    (hmeasure : post.measure? lead.2 = some x) {a : Int} (hx : x.rank? = some a) {v : String}
    {y : Binary64} {b : Int} (hv : numberOf? lead.2 v.toList = some y) (hy : y.rank? = some b) :
    post.Satisfies (lead.1 ++ v) ↔ a = b := by
  have hsign : ("", Comparison.equals) ∈ signs := by decide
  have hiff := satisfies_sign_iff hlead hmeasure hx hv hy hsign
  rwa [String.empty_append] at hiff

theorem existsUnique_of_trichotomy {a b : Int} {p : String → Prop} {less same greater : String}
    (hless : p less ↔ a < b) (hsame : p same ↔ a = b) (hgreater : p greater ↔ b < a) :
    ∃! rest, rest ∈ [less, same, greater] ∧ p rest := by
  simp only [ExistsUnique, List.mem_cons, List.not_mem_nil, or_false]
  rcases Int.lt_trichotomy a b with h | h | h
  · refine ⟨less, ⟨.inl rfl, hless.2 h⟩, ?_⟩
    rintro rest ⟨rfl | rfl | rfl, hrest⟩
    · rfl
    · exact absurd (hsame.1 hrest) (by omega)
    · exact absurd (hgreater.1 hrest) (by omega)
  · refine ⟨same, ⟨.inr (.inl rfl), hsame.2 h⟩, ?_⟩
    rintro rest ⟨rfl | rfl | rfl, hrest⟩
    · exact absurd (hless.1 hrest) (by omega)
    · rfl
    · exact absurd (hgreater.1 hrest) (by omega)
  · refine ⟨greater, ⟨.inr (.inr rfl), hgreater.2 h⟩, ?_⟩
    rintro rest ⟨rfl | rfl | rfl, hrest⟩
    · exact absurd (hless.1 hrest) (by omega)
    · exact absurd (hsame.1 hrest) (by omega)
    · rfl

/-- Of a post that has the number, exactly one of less, equal and greater holds, and the other
clauses mean what they say: each operator with `=` is the one without it or equality, and a range
lies between its ends in either order. -/
theorem numeric_clauses_consistent {lead : String × Field} (hlead : lead ∈ Field.spellings)
    (hmeasure : post.measure? lead.2 = some x) (hduration : lead.2 = .duration → x.isNaN = false) :
    (∀ v, Accepts lead.2 v →
      (∃! rest, rest ∈ ["<" ++ v, v, ">" ++ v] ∧ post.Satisfies (lead.1 ++ rest)) ∧
      (post.Satisfies (lead.1 ++ ("<=" ++ v)) ↔
        post.Satisfies (lead.1 ++ ("<" ++ v)) ∨ post.Satisfies (lead.1 ++ v)) ∧
      (post.Satisfies (lead.1 ++ (">=" ++ v)) ↔
        post.Satisfies (lead.1 ++ (">" ++ v)) ∨ post.Satisfies (lead.1 ++ v))) ∧
    ∀ v w, Accepts lead.2 v → Accepts lead.2 w → v.toList.getLast? ≠ some '.' →
      w.toList.getLast? ≠ some '.' →
      (post.Satisfies (lead.1 ++ (v ++ rangeMark ++ w)) ↔
        post.Satisfies (lead.1 ++ (w ++ rangeMark ++ v))) ∧
      (post.Satisfies (lead.1 ++ (v ++ rangeMark ++ w)) ↔
        (post.Satisfies (lead.1 ++ (">=" ++ v)) ∧ post.Satisfies (lead.1 ++ ("<=" ++ w))) ∨
          (post.Satisfies (lead.1 ++ (">=" ++ w)) ∧ post.Satisfies (lead.1 ++ ("<=" ++ v)))) := by
  obtain ⟨a, hx⟩ := Binary64.exists_rank (Post.isNaN_measure hmeasure hduration)
  have hless : ("<", Comparison.less) ∈ signs := by decide
  have hgreater : (">", Comparison.greater) ∈ signs := by decide
  have hmost : ("<=", Comparison.lessOrEqual) ∈ signs := by decide
  have hleast : (">=", Comparison.greaterOrEqual) ∈ signs := by decide
  constructor
  · intro v hv
    obtain ⟨y, b, hy, hb⟩ := hv.exists_place
    have hlt : post.Satisfies (lead.1 ++ ("<" ++ v)) ↔ a < b :=
      satisfies_sign_iff hlead hmeasure hx hy hb hless
    have heq : post.Satisfies (lead.1 ++ v) ↔ a = b :=
      satisfies_plain_iff hlead hmeasure hx hy hb
    have hgt : post.Satisfies (lead.1 ++ (">" ++ v)) ↔ b < a :=
      satisfies_sign_iff hlead hmeasure hx hy hb hgreater
    refine ⟨existsUnique_of_trichotomy hlt heq hgt, ?_, ?_⟩
    · rw [satisfies_sign_iff hlead hmeasure hx hy hb hmost, hlt, heq]
      exact Int.le_iff_lt_or_eq
    · rw [satisfies_sign_iff hlead hmeasure hx hy hb hleast, hgt, heq, eq_comm]
      exact Int.le_iff_lt_or_eq
  · intro v w hv hw hvend hwend
    obtain ⟨y, b, hy, hb⟩ := hv.exists_place
    obtain ⟨z, c, hz, hc⟩ := hw.exists_place
    rw [satisfies_range_iff hlead hmeasure hx hy hb hvend hz hc,
      satisfies_range_iff hlead hmeasure hx hz hc hwend hy hb,
      satisfies_sign_iff hlead hmeasure hx hy hb hleast,
      satisfies_sign_iff hlead hmeasure hx hz hc hmost,
      satisfies_sign_iff hlead hmeasure hx hz hc hleast,
      satisfies_sign_iff hlead hmeasure hx hy hb hmost]
    simp only [Comparison.Relates]
    omega

/-- A literal may be too great for a finite number; it is then above every duration. -/
theorem numeric_clauses_consistent_of_duration :
    let post : Post := { file := { duration := some (.ofNat 90) } }
    (("duration:", Field.duration) ∈ Field.spellings ∧
      post.measure? .duration = some (.ofNat 90) ∧ (Binary64.ofNat 90).isNaN = false) ∧
    (Accepts .duration "89.5" ∧ Accepts .duration "1e400" ∧
      "89.5".toList.getLast? ≠ some '.' ∧ "1e400".toList.getLast? ≠ some '.') ∧
    (∃! rest, rest ∈ ["<" ++ "1e400", "1e400", ">" ++ "1e400"] ∧
      post.Satisfies ("duration:" ++ rest)) ∧
    (post.Satisfies ("duration:" ++ ("89.5" ++ rangeMark ++ "1e400")) ↔
      post.Satisfies ("duration:" ++ ("1e400" ++ rangeMark ++ "89.5"))) := by
  intro post
  have hlead : ("duration:", Field.duration) ∈ Field.spellings := by decide
  have hmeasure : post.measure? .duration = some (.ofNat 90) := rfl
  have hnumber : (Binary64.ofNat 90).isNaN = false := Binary64.isNaN_ofNat 90
  have hlow : Accepts .duration "89.5" := ⟨by decide +kernel, by simp⟩
  have hhigh : Accepts .duration "1e400" := ⟨by decide +kernel, by simp⟩
  have hends : "89.5".toList.getLast? ≠ some '.' ∧ "1e400".toList.getLast? ≠ some '.' := by decide
  have hlaws := numeric_clauses_consistent hlead hmeasure (fun _ => hnumber)
  exact ⟨⟨hlead, hmeasure, hnumber⟩, ⟨hlow, hhigh, hends⟩, (hlaws.1 _ hhigh).1,
    (hlaws.2 _ _ hlow hhigh hends.1 hends.2).1⟩

end Clause

end BoardFilter
