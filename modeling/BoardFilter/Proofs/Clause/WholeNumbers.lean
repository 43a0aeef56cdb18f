import BoardFilter.Proofs.Clause.Measures

/-!
# Clauses of whole numbers

The whole numbers of a post and the literals in decimal digits are both compared as binary64
numbers. Up to `2 ^ 53` every whole number has its own place, so a clause says what the whole
numbers do. Beyond that neighbours may share a place, but no two numbers change their order: a
clause with equality misses no post that it should hold of, and `<` and `>` hold of no other.
-/

namespace BoardFilter

namespace Decimal.Writes

variable {s : List Char} {n : Int} (h : Writes s n)

include h

theorem minus_or_isDigit {c : Char} (hc : c ∈ s) : c = '-' ∨ c.isDigit = true := by
  cases h with
  | digits _ h => exact .inr (h c hc)
  | minus _ h => exact (List.mem_cons.1 hc).imp_right (h c)

theorem isBlank {c : Char} (hc : c ∈ s) : Text.isBlank c = false := by
  rcases h.minus_or_isDigit hc with rfl | hdigit
  · decide
  · exact Text.isBlank_of_isDigit hdigit

theorem ne_dot {c : Char} (hc : c ∈ s) : c ≠ '.' := by
  rintro rfl
  exact absurd (h.minus_or_isDigit hc) (by decide)

end Decimal.Writes

namespace Binary64

theorem lt_of_wholePlace_lt {m n : Int} (h : wholePlace m < wholePlace n) : m < n :=
  Int.not_le.1 fun hle => absurd (wholePlace_mono hle) (Int.not_le.2 h)

theorem wholePlace_le_iff {m n : Int} (hm : m.natAbs ≤ 2 ^ 53) (hn : n.natAbs ≤ 2 ^ 53) :
    wholePlace m ≤ wholePlace n ↔ m ≤ n := by
  rw [wholePlace_eq hm, wholePlace_eq hn]
  exact Int.mul_le_mul_right (Int.natCast_pos.2 quantaPerUnit_pos)

theorem relates_wholePlace_iff {a n : Int} (ha : a.natAbs ≤ 2 ^ 53) (hn : n.natAbs ≤ 2 ^ 53)
    (comparison : Comparison) :
    comparison.Relates (wholePlace a) (wholePlace n) ↔ comparison.Relates a n := by
  have hle := wholePlace_le_iff ha hn
  have hge := wholePlace_le_iff hn ha
  cases comparison <;> simp only [Comparison.Relates] <;> omega

section

variable {m n : Nat} (hm : m ≤ 2 ^ 53) (hn : n ≤ 2 ^ 53)

include hm hn

theorem lt_ofNat : (ofNat n).lt (ofNat m) = decide (n < m) := by
  rw [← ofInt_natCast, ← ofInt_natCast, lt_eq_decide (rank?_ofInt n) (rank?_ofInt m)]
  have hle := wholePlace_le_iff (m := m) (n := n) (by omega) (by omega)
  exact decide_eq_decide.2 (by omega)

theorem min_ofNat : (ofNat m).min (ofNat n) = ofNat (Min.min m n) := by
  rw [min, isNaN_ofNat, lt_ofNat hm hn, if_neg Bool.false_ne_true]
  by_cases h : n < m
  · rw [if_pos (decide_eq_true h), Nat.min_eq_right h.le]
  · rw [if_neg (by simpa using h), Nat.min_eq_left (Nat.le_of_not_lt h)]

theorem max_ofNat : (ofNat m).max (ofNat n) = ofNat (Max.max m n) := by
  rw [max, isNaN_ofNat, lt_ofNat hn hm, if_neg Bool.false_ne_true]
  by_cases h : m < n
  · rw [if_pos (decide_eq_true h), Nat.max_eq_right h.le]
  · rw [if_neg (by simpa using h), Nat.max_eq_left (Nat.le_of_not_lt h)]

end

end Binary64

namespace Clause

theorem number?_of_writes {s : List Char} {n : Int} (h : Decimal.Writes s n) :
    ∃ x, number? s = some x ∧ x.rank? = some (Binary64.wholePlace n) := by
  obtain ⟨x, hx, hplace⟩ := Binary64.ofText?_of_writes h
  refine ⟨x, number?_eq_some_iff.2 ⟨?_, Binary64.isNaN_of_rank hplace⟩, hplace⟩
  rwa [Text.trimmed_of_no_blank fun c hc => h.isBlank hc]

theorem numberOf?_of_whole? {post : Post} {field : Field} {a : Int}
    (h : post.whole? field = some a) (s : List Char) : numberOf? field s = number? s := by
  cases field with
  | fileSize | aspectRatio => cases h
  | tag | id | score | favorited | favCount | rating | status | uploader | approver | height
  | width | fileType | duration | tagCount | categoryCount | hasParent | hasChild => rfl

/-- Up to `2 ^ 53` the clauses of a whole number hold as the whole numbers themselves compare, and
for all of them no clause reverses their order. -/
theorem whole_clauses_follow_order {lead : String × Field} (hlead : lead ∈ Field.spellings)
    {post : Post} {a : Int} (ha : post.whole? lead.2 = some a) {s : String} {n : Int}
    (hs : Decimal.Writes s.toList n) :
    (a.natAbs ≤ 2 ^ 53 → n.natAbs ≤ 2 ^ 53 →
      (∀ sign ∈ signs, post.Satisfies (lead.1 ++ (sign.1 ++ s)) ↔ sign.2.Relates a n) ∧
      ∀ (t : String) (m : Int), Decimal.Writes t.toList m → m.natAbs ≤ 2 ^ 53 →
        (post.Satisfies (lead.1 ++ (s ++ rangeMark ++ t)) ↔ Min.min n m ≤ a ∧ a ≤ Max.max n m)) ∧
    (a = n → post.Satisfies (lead.1 ++ s)) ∧
    (a ≤ n → post.Satisfies (lead.1 ++ ("<=" ++ s))) ∧
    (n ≤ a → post.Satisfies (lead.1 ++ (">=" ++ s))) ∧
    (post.Satisfies (lead.1 ++ ("<" ++ s)) → a < n) ∧
    (post.Satisfies (lead.1 ++ (">" ++ s)) → n < a) := by
  have hmeasure := Post.measure?_of_whole? ha
  have hx := Binary64.rank?_ofInt a
  obtain ⟨y, hy, hn⟩ := number?_of_writes hs
  rw [← numberOf?_of_whole? ha] at hy
  have hsigns : ∀ sign ∈ signs, post.Satisfies (lead.1 ++ (sign.1 ++ s)) ↔
      sign.2.Relates (Binary64.wholePlace a) (Binary64.wholePlace n) :=
    fun sign hsign => satisfies_sign_iff hlead hmeasure hx hy hn hsign
  refine ⟨fun hasmall hnsmall => ⟨fun sign hsign => ?_, fun t m ht hmsmall => ?_⟩, ?_, ?_, ?_,
    ?_, ?_⟩
  · rw [hsigns sign hsign, Binary64.relates_wholePlace_iff hasmall hnsmall]
  · obtain ⟨z, hz, hm⟩ := number?_of_writes ht
    rw [← numberOf?_of_whole? ha] at hz
    have hend : s.toList.getLast? ≠ some '.' := fun hdot =>
      hs.ne_dot (List.mem_of_getLast? hdot) rfl
    have hna := Binary64.wholePlace_le_iff hnsmall hasmall
    have hma := Binary64.wholePlace_le_iff hmsmall hasmall
    have han := Binary64.wholePlace_le_iff hasmall hnsmall
    have ham := Binary64.wholePlace_le_iff hasmall hmsmall
    rw [satisfies_range_iff hlead hmeasure hx hy hn hend hz hm]
    omega
  · rintro rfl
    exact (satisfies_plain_iff hlead hmeasure hx hy hn).2 rfl
  · exact fun h => (hsigns ("<=", .lessOrEqual) (by decide)).2 (Binary64.wholePlace_mono h)
  · exact fun h => (hsigns (">=", .greaterOrEqual) (by decide)).2 (Binary64.wholePlace_mono h)
  · exact fun h => Binary64.lt_of_wholePlace_lt ((hsigns ("<", .less) (by decide)).1 h)
  · exact fun h => Binary64.lt_of_wholePlace_lt ((hsigns (">", .greater) (by decide)).1 h)

/-- The place of `2 ^ 53 + 1` is that of its even neighbour, but no clause reverses their order. -/
theorem whole_clauses_follow_order_of_numerals :
    let post : Post := { score := -5, uploader := 9007199254740993 }
    (("score:", Field.score) ∈ Field.spellings ∧ post.whole? .score = some (-5) ∧
      Decimal.Writes "-3".toList (-3) ∧ Decimal.Writes "-12".toList (-12) ∧
      (post.Satisfies ("score:" ++ ("<" ++ "-3")) ↔ (-5 : Int) < -3) ∧
      (post.Satisfies ("score:" ++ ("-3" ++ rangeMark ++ "-12")) ↔
        Min.min (-3) (-12) ≤ (-5 : Int) ∧ (-5 : Int) ≤ Max.max (-3) (-12))) ∧
    ("user:", Field.uploader) ∈ Field.spellings ∧
      post.whole? .uploader = some 9007199254740993 ∧
      Decimal.Writes "9007199254740992".toList 9007199254740992 ∧
      post.Satisfies ("user:" ++ (">=" ++ "9007199254740992")) ∧
      ¬ post.Satisfies ("user:" ++ ("<" ++ "9007199254740992")) := by
  intro post
  have hscore : ("score:", Field.score) ∈ Field.spellings := by decide
  have hpost : post.whole? .score = some (-5) := rfl
  have hthree : Decimal.Writes "-3".toList (-3) :=
    @Decimal.Writes.minus ['3'] (by decide) (List.all_eq_true.1 (by decide))
  have htwelve : Decimal.Writes "-12".toList (-12) :=
    @Decimal.Writes.minus ['1', '2'] (by decide) (List.all_eq_true.1 (by decide))
  have hexact := (whole_clauses_follow_order hscore hpost hthree).1 (by decide) (by decide)
  have huser : ("user:", Field.uploader) ∈ Field.spellings := by decide
  have hpost' : post.whole? .uploader = some 9007199254740993 := rfl
  have hlong : Decimal.Writes "9007199254740992".toList 9007199254740992 :=
    @Decimal.Writes.digits "9007199254740992".toList (by decide) (List.all_eq_true.1 (by decide))
  obtain ⟨-, -, -, hleast, hless, -⟩ := whole_clauses_follow_order huser hpost' hlong
  exact ⟨⟨hscore, hpost, hthree, htwelve, hexact.1 ("<", .less) (by decide),
      hexact.2 _ _ htwelve (by decide)⟩, huser, hpost', hlong, hleast (by decide),
    fun h => absurd (hless h) (by decide)⟩

end Clause

end BoardFilter
