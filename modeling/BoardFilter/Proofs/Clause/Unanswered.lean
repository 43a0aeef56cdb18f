import BoardFilter.Proofs.Clause.Measures
import BoardFilter.Proofs.Clause.RoundTrip
import BoardFilter.Proofs.Line.Meaning
import BoardFilter.Proofs.Number.NumeralCase

/-!
# Clauses without an answer

A clause whose literal means nothing for its field, or that asks for what the post does not have,
does not hold. So it holds when it is inverted, whatever the operator is, and a line that requires
it matches no such post.
-/

namespace BoardFilter

def Rating.words : List String := ["s", "safe", "q", "questionable", "e", "explicit"]

theorem Rating.ofText_eq_unknown_iff {s : String} :
    ofText s = unknown ↔ Text.lowercase (Text.trim s) ∉ words := by
  unfold ofText
  generalize Text.lowercase (Text.trim s) = word
  split <;> simp_all [words]

def Extension.words : List String :=
  ["jpg", "jpeg", "jfif", "png", "apng", "webp", "gif", "webm", "mp4", "swf"]

theorem Extension.ofText_eq_unknown_iff {s : String} :
    ofText s = unknown ↔ Text.lowercase (Text.trim s) ∉ words := by
  unfold ofText ofText?
  generalize Text.lowercase (Text.trim s) = word
  split <;> simp_all [words]

def Flags.statusWords : List String :=
  ["pending", "flagged", "deleted", "active", "ratinglocked", "rating_locked", "notelocked",
    "note_locked", "statuslocked", "status_locked"]

theorem Flags.status?_eq_none_iff {flags : Flags} {s : String} :
    flags.status? s = Option.none ↔ s ∉ statusWords := by
  unfold status?
  split <;> simp_all [statusWords]

namespace Clause

theorem truth?_eq_none_iff {s : String} : truth? s = none ↔ s ∉ truthWords := by
  unfold truth?
  split <;> simp_all [truthWords]

/-- What a clause asks about a post, with a literal that is not interpreted. -/
structure Question where
  field : Field
  comparison : Comparison
  literal : String
deriving DecidableEq, Repr

def questionOf (token : String) : Question :=
  let body := (takeMark '-' (takeMark '~' (Text.trimmed token.toList)).2).2
  let (field, rest) := (Field.ofLead? body).getD (.tag, body)
  let (comparison, literal) := splitFor field rest
  ⟨field, comparison, String.ofList literal⟩

def Question.clause (q : Question) (inverted optional : Bool) : Clause :=
  build q.field q.comparison q.literal.toList inverted optional

section

variable (q : Question) (inverted optional : Bool)

theorem Question.field_clause : (q.clause inverted optional).field = q.field := rfl

theorem Question.operand_clause :
    (q.clause inverted optional).operand = operandOf q.field q.comparison q.literal.toList := rfl

end

theorem exists_clause (token : String) :
    ∃ inverted optional, parse token = (questionOf token).clause inverted optional := by
  obtain ⟨optional, s, hfirst⟩ :
      ∃ optional s, takeMark '~' (Text.trimmed token.toList) = (optional, s) := ⟨_, _, rfl⟩
  obtain ⟨inverted, body, hsecond⟩ : ∃ inverted body, takeMark '-' s = (inverted, body) :=
    ⟨_, _, rfl⟩
  refine ⟨inverted, optional, ?_⟩
  rw [parse_of_takeMark hfirst hsecond, questionOf, hfirst]
  dsimp only
  rw [hsecond, readBody, Question.clause, String.toList_ofList]

end Clause

namespace Clause.Question

def IsNumeric (q : Question) : Prop :=
  if q.comparison = .range then
    ∃ a b x y, rangeParts q.literal.toList = [a, b] ∧ ReadAs q.field a x ∧ ReadAs q.field b y
  else ∃ x, ReadAs q.field q.literal.toList x ∧ x.isNaN = false

/-- The literal is of no use for the field. -/
inductive Meaningless : Question → Prop where
  | rating {comparison : Comparison} {literal : String}
    (h : Text.lowercase (Text.trim literal) ∉ Rating.words) :
    Meaningless ⟨.rating, comparison, literal⟩
  | fileType {comparison : Comparison} {literal : String}
    (h : Text.lowercase (Text.trim literal) ∉ Extension.words) :
    Meaningless ⟨.fileType, comparison, literal⟩
  | truth {field : Field} {comparison : Comparison} {literal : String}
    (hfield : field ∈ truthFields) (h : literal ∉ truthWords) :
    Meaningless ⟨field, comparison, literal⟩
  | status {comparison : Comparison} {literal : String} (h : literal ∉ Flags.statusWords) :
    Meaningless ⟨.status, comparison, literal⟩
  | number {q : Question} (hfield : q.field.isNumeric = true) (huploader : q.field ≠ .uploader)
    (hword : ¬ (q.field = .approver ∧ q.literal ∈ ["none", "any"])) (h : ¬ q.IsNumeric) :
    Meaningless q
  | zeroHeight {comparison : Comparison} {literal : String} {width height : List Char}
    {x : Binary64} (hone : comparison ≠ .range) (hliteral : literal.toList = width ++ ':' :: height)
    (hwidth : ':' ∉ width) (hheight : number? height = some x) (hzero : x.same (.ofNat 0) = true) :
    Meaningless ⟨.aspectRatio, comparison, literal⟩

/-- The post does not have what is asked for. -/
inductive Lacks (post : Post) : Question → Prop where
  | duration {comparison : Comparison} {literal : String} (h : post.file.duration = none) :
    Lacks post ⟨.duration, comparison, literal⟩
  | ratio {comparison : Comparison} {literal : String} (h : post.file.height = 0) :
    Lacks post ⟨.aspectRatio, comparison, literal⟩
  | count {category : Category} {comparison : Comparison} {literal : String}
    (h : post.tags.resolved = false) : Lacks post ⟨.categoryCount category, comparison, literal⟩
  | approver {comparison : Comparison} {literal : String} (h : post.approver = none)
    (hword : literal ≠ "none") : Lacks post ⟨.approver, comparison, literal⟩
  | uploader {comparison : Comparison} {literal : String} (h : post.uploaderName = none)
    (hname : ¬ IsNumeric ⟨.uploader, comparison, literal⟩) :
    Lacks post ⟨.uploader, comparison, literal⟩

end Clause.Question

namespace Clause

theorem operandOf_of_isNumeric {q : Question} (hfield : q.field.isNumeric = true)
    (huploader : q.field ≠ .uploader)
    (hword : ¬ (q.field = .approver ∧ q.literal ∈ ["none", "any"])) :
    operandOf q.field q.comparison q.literal.toList =
      (numeric? q.field q.comparison q.literal.toList).getD .unusable := by
  obtain ⟨field, comparison, literal⟩ := q
  cases field with
  | tag | favorited | rating | status | fileType | hasParent | hasChild => cases hfield
  | uploader => exact absurd rfl huploader
  | approver =>
    have hplain : ¬ (literal = "none" ∨ literal = "any") := by simpa using hword
    unfold operandOf
    dsimp only
    rw [String.ofList_toList, if_neg hplain]
  | id | score | favCount | height | width | fileSize | duration | aspectRatio | tagCount
  | categoryCount => rfl

theorem numeric?_of_not_isNumeric {q : Question} (h : ¬ q.IsNumeric) {operand : Operand}
    (hread : numeric? q.field q.comparison q.literal.toList = some operand) :
    operand = .number .nan ∧ q.field = .aspectRatio := by
  obtain ⟨field, comparison, literal⟩ := q
  dsimp only [Question.IsNumeric] at h hread
  cases operand with
  | range low high =>
    obtain ⟨hrange, a, b, x, y, hparts, hx, hy, -, -⟩ := numeric?_eq_range_iff.1 hread
    rw [if_pos hrange] at h
    exact absurd ⟨a, b, x, y, rangeParts_eq_pair_iff.2 hparts, readAs_of_numberOf? hx,
      readAs_of_numberOf? hy⟩ h
  | number x =>
    obtain ⟨hone, hx⟩ := numeric?_eq_number_iff.1 hread
    rw [if_neg hone] at h
    have hreads := readAs_of_numberOf? hx
    have hnan : x.isNaN = true := by
      by_contra hnumber
      exact h ⟨x, hreads, by simpa using hnumber⟩
    constructor
    · cases x with
      | nan => rfl
      | infinite | finite => cases hnan
    · by_contra hfield
      rw [isNaN_of_numberOf? hx fun hratio => hfield hratio.1] at hnan
      cases hnan
  | truth | word | rating | fileType | tag | pattern | unusable =>
    cases isNumeric_of_numeric? hread

theorem colon_not_mem_of_number? {s : List Char} {x : Binary64} (h : number? s = some x) :
    ':' ∉ s := by
  intro hmem
  obtain ⟨hread, hnumber⟩ := number?_eq_some_iff.1 h
  have htrimmed : ':' ∈ Text.trimmed s := by
    rwa [← List.count_pos_iff, Text.count_trimmed (by decide), List.count_pos_iff]
  rcases Binary64.mem_ofText? hread hnumber htrimmed with hdigit | hletter
  · exact absurd hdigit (by decide)
  · exact absurd hletter (by decide)

theorem not_isNumeric_of_zero_height {q : Question} (hfield : q.field = .aspectRatio)
    (hone : q.comparison ≠ .range) {width height : List Char} {x : Binary64}
    (hliteral : q.literal.toList = width ++ ':' :: height) (hwidth : ':' ∉ width)
    (hheight : number? height = some x) (hzero : x.same (.ofNat 0) = true) : ¬ q.IsNumeric := by
  rw [Question.IsNumeric, if_neg hone, hfield, hliteral]
  rintro ⟨y, hreads, -⟩
  generalize hs : width ++ ':' :: height = s at hreads
  cases hreads with
  | number h => exact colon_not_mem_of_number? h (by simp [← hs])
  | @ratio width' height' w h' hcolon hw hh hnonzero =>
    have hdrop : ∀ u : List Char, ':' ∉ u → ∀ v,
        (u ++ ':' :: v).dropWhile (· ≠ ':') = ':' :: v := fun u hu v => by
      rw [List.dropWhile_append_of_pos fun c hc => decide_eq_true (ne_of_mem_of_not_mem hc hu)]
      simp
    have hrest := congrArg (List.dropWhile (· ≠ ':')) hs
    rw [hdrop width hwidth, hdrop width' hcolon, List.cons.injEq] at hrest
    rw [← hrest.2, hheight, Option.some.injEq] at hh
    rw [hh, hnonzero] at hzero
    cases hzero

variable {post : Post}

theorem test_eq_any_compares {c : Clause} (hfield : c.field.isNumeric = true)
    (hword : ∀ w, c.operand ≠ .word w) :
    c.test post = (post.measure? c.field).any c.compares := by
  cases hmeasure : post.measure? c.field with
  | some x => exact test_eq_compares hmeasure hword
  | none =>
    obtain ⟨field, comparison, raw, operand, inverted, optional⟩ := c
    dsimp only at hfield hmeasure hword
    cases field with
    | tag | favorited | rating | status | fileType | hasParent | hasChild => cases hfield
    | id | score | favCount | height | width | fileSize | tagCount | uploader => cases hmeasure
    | duration =>
      change post.file.duration = none at hmeasure
      simp [test, comparesSome, hmeasure]
    | aspectRatio =>
      change post.file.ratio?.map toHundredths = none at hmeasure
      simp [test, comparesSome, hmeasure]
    | categoryCount category =>
      have hcount : post.tags.count? category = none := by
        simpa [Post.measure?, Post.whole?] using hmeasure
      simp [test, comparesSome, hcount]
    | approver =>
      have happrover : post.approver = none := by
        simpa [Post.measure?, Post.whole?] using hmeasure
      unfold test
      dsimp only
      split
      · next w => exact absurd rfl (hword w)
      · simp [comparesSome, happrover]

theorem compares_nan {c : Clause} (h : c.operand = .number .nan) (x : Binary64) :
    c.compares x = false := by
  obtain ⟨field, comparison, raw, operand, inverted, optional⟩ := c
  cases h
  cases comparison <;> cases x <;> rfl

theorem test_of_unusable {c : Clause} (h : c.operand = .unusable) (post : Post) :
    c.test post = false := by
  obtain ⟨field, comparison, raw, operand, inverted, optional⟩ := c
  cases h
  have hcompares : ∀ x,
      compares ⟨field, comparison, raw, .unusable, inverted, optional⟩ x = false :=
    fun x => by cases comparison <;> rfl
  cases field with
  | tag | favorited | rating | status | fileType | hasParent | hasChild => rfl
  | id | score | favCount | uploader | approver | height | width | fileSize | duration
  | aspectRatio | tagCount | categoryCount =>
    rw [test_eq_any_compares rfl fun _ => Operand.noConfusion, funext hcompares]
    cases post.measure? _ <;> rfl

theorem test_of_word {c : Clause} {w : String} (h : c.operand = .word w) (post : Post) :
    (c.field = .status → c.test post = (post.flags.status? w).getD false) ∧
    (c.field = .uploader → c.test post = post.uploaderName.any fun name => sameName name w) ∧
    (c.field = .approver → c.test post =
      ((w = "none" && post.approver.isNone) || (w = "any" && post.approver.isSome))) := by
  obtain ⟨field, comparison, raw, operand, inverted, optional⟩ := c
  cases h
  refine ⟨?_, ?_, ?_⟩ <;>
  · rintro ⟨⟩
    rfl

section

variable {q : Question} (inverted optional : Bool) (post : Post)

theorem test_of_not_isNumeric (hfield : q.field.isNumeric = true)
    (huploader : q.field ≠ .uploader)
    (hword : ¬ (q.field = .approver ∧ q.literal ∈ ["none", "any"])) (h : ¬ q.IsNumeric) :
    (q.clause inverted optional).test post = false := by
  have hoperand := operandOf_of_isNumeric hfield huploader hword
  rw [← Question.operand_clause q inverted optional] at hoperand
  cases hread : numeric? q.field q.comparison q.literal.toList with
  | none => exact test_of_unusable (hoperand.trans (by rw [hread, Option.getD_none])) post
  | some operand =>
    rw [hread, Option.getD_some, (numeric?_of_not_isNumeric h hread).1] at hoperand
    generalize hclause : q.clause inverted optional = c at hoperand ⊢
    have hc : c.field.isNumeric = true := by rwa [← hclause, Question.field_clause]
    rw [test_eq_any_compares hc fun w hw => by simp [hw] at hoperand,
      funext (compares_nan hoperand)]
    cases post.measure? c.field <;> rfl

theorem test_of_meaningless (h : q.Meaningless) :
    (q.clause inverted optional).test post = false := by
  cases h with
  | @rating comparison literal h =>
    apply test_of_unusable
    rw [Question.operand_clause]
    unfold operandOf
    dsimp only
    rw [String.ofList_toList, Rating.ofText_eq_unknown_iff.2 h]
  | @fileType comparison literal h =>
    apply test_of_unusable
    rw [Question.operand_clause]
    unfold operandOf
    dsimp only
    rw [String.ofList_toList, Extension.ofText_eq_unknown_iff.2 h]
  | @truth field comparison literal hfield h =>
    apply test_of_unusable
    rw [Question.operand_clause]
    simp only [truthFields, List.mem_cons, List.not_mem_nil, or_false] at hfield
    rcases hfield with rfl | rfl | rfl <;>
    · unfold operandOf
      dsimp only
      rw [String.ofList_toList, truth?_eq_none_iff.2 h]
  | @status comparison literal h =>
    have hoperand : operandOf .status comparison literal.toList = .word literal :=
      congrArg Operand.word String.ofList_toList
    rw [(test_of_word hoperand post).1 rfl, Flags.status?_eq_none_iff.2 h, Option.getD_none]
  | number hfield huploader hword h =>
    exact test_of_not_isNumeric inverted optional post hfield huploader hword h
  | zeroHeight hone hliteral hwidth hheight hzero =>
    exact test_of_not_isNumeric inverted optional post rfl Field.noConfusion
      (fun hword => Field.noConfusion hword.1)
      (not_isNumeric_of_zero_height rfl hone hliteral hwidth hheight hzero)

variable {post}

theorem test_of_lacks (h : q.Lacks post) : (q.clause inverted optional).test post = false := by
  cases h with
  | duration h => simp [Question.clause, build, test, comparesSome, h]
  | ratio h => simp [Question.clause, build, test, comparesSome, MediaFile.ratio?, h]
  | count h => simp [Question.clause, build, test, comparesSome, Tags.count?, h]
  | @approver comparison literal h hword =>
    by_cases hany : literal = "any"
    · have hoperand : operandOf .approver comparison literal.toList = .word "any" := by
        rw [hany]
        rfl
      rw [(test_of_word hoperand post).2.2 rfl, h]
      rfl
    · have hplain : ¬ (Field.approver = .approver ∧ literal ∈ ["none", "any"]) := by
        simp [hword, hany]
      have hoperand := operandOf_of_isNumeric (q := ⟨.approver, comparison, literal⟩) rfl
        Field.noConfusion hplain
      have hnoword : ∀ w, (Question.clause ⟨.approver, comparison, literal⟩ inverted
          optional).operand ≠ .word w := fun w hw => by
        rw [Question.operand_clause, hoperand] at hw
        exact getD_numeric?_ne rfl Operand.noConfusion hw
      have hmeasure : post.measure? .approver = none := by
        simp [Post.measure?, Post.whole?, h]
      rw [test_eq_any_compares rfl hnoword, Question.field_clause, hmeasure, Option.any_none]
  | @uploader comparison literal h hname =>
    have hread : numeric? .uploader comparison literal.toList = none := by
      by_contra hsome
      obtain ⟨operand, hoperand⟩ := Option.ne_none_iff_exists'.1 hsome
      exact Field.noConfusion (numeric?_of_not_isNumeric hname hoperand).2
    have hoperand : operandOf .uploader comparison literal.toList = .word literal := by
      unfold operandOf
      dsimp only
      rw [hread, Option.getD_none, String.ofList_toList]
    rw [(test_of_word hoperand post).2.1 rfl, h, Option.any_none]

end

/-- A clause without an answer holds just if it is inverted, and a line with one that is required
and not inverted matches no post that gives no answer. -/
theorem unanswered_fails_closed {token : String} {post : Post}
    (h : (questionOf token).Meaningless ∨ (questionOf token).Lacks post) :
    (parse token).holds post = (parse token).inverted ∧
      ∀ (text : String) (enabled : Bool) (ex : Exemptions),
        token ∈ Text.words (Text.lowercase text) → ¬ Marked token →
          (parse token).inverted = false →
            (Line.compile text enabled ex).evaluate post = false := by
  have htest : (parse token).test post = false := by
    obtain ⟨inverted, optional, hparse⟩ := exists_clause token
    rw [hparse]
    exact h.elim (test_of_meaningless inverted optional post) (test_of_lacks inverted optional)
  have hholds : (parse token).holds post = (parse token).inverted := by
    rw [holds, htest, Bool.false_bne]
  refine ⟨hholds, fun text enabled ex htoken hmark hinverted => ?_⟩
  have hoptional : (parse token).optional = false := by
    rw [← Bool.not_eq_true, optional_parse_iff (Text.of_mem_words htoken).2]
    exact hmark
  exact (Line.counted_compile text enabled ex).not_evaluate
    (Line.mem_clauses_compile.2 (.inr ⟨token, htoken, rfl⟩)) hoptional (hholds.trans hinverted)

theorem unanswered_fails_closed_of_tokens :
    let post : Post := { id := 7 }
    ((questionOf "~-ratio:>=16:0").Meaningless ∧
      (parse "~-ratio:>=16:0").holds post = (parse "~-ratio:>=16:0").inverted) ∧
    (questionOf "duration:<90").Lacks post ∧
      (Line.compile "Duration:<90  -score:5" true {}).evaluate post = false := by
  intro post
  have hratio : questionOf "~-ratio:>=16:0" = ⟨.aspectRatio, .greaterOrEqual, "16:0"⟩ := by
    decide
  have hduration : questionOf "duration:<90" = ⟨.duration, .less, "90"⟩ := by decide
  have hheight : number? ['0'] = some (.ofNat 0) := number?_toDigits 0
  have hnil : (Binary64.ofNat 0).same (.ofNat 0) = true :=
    Binary64.same_self (Binary64.isNaN_ofNat 0)
  have hliteral : "16:0".toList = ['1', '6'] ++ ':' :: ['0'] := by decide
  have hzero : (questionOf "~-ratio:>=16:0").Meaningless :=
    hratio ▸ .zeroHeight (by decide) hliteral (by decide) hheight hnil
  have hlacks : (questionOf "duration:<90").Lacks post := hduration ▸ .duration rfl
  exact ⟨⟨hzero, (unanswered_fails_closed (.inl hzero)).1⟩, hlacks,
    (unanswered_fails_closed (.inr hlacks)).2 _ _ _ (by decide) (by decide) (by decide)⟩

end Clause

end BoardFilter
