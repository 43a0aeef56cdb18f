import BoardFilter.Clause.Evaluation
import BoardFilter.Proofs.Clause.Operands
import BoardFilter.Proofs.Text.NormalForm

/-!
# How clauses are written

A clause is written as marks, the spelling of a field, an operator and a value, one after the other.
Reading takes exactly these parts apart again, whatever the value is, except that a range is taken
with its operator; without a known spelling the whole body is a tag. Marks change nothing but the
marks of the clause.
-/

namespace BoardFilter

namespace Text

theorem dropEndWhile_append_of_getLast {p : Char → Bool} {u : List Char}
    (h : ∀ c ∈ u.getLast?, p c = false) (v : List Char) :
    dropEndWhile p (u ++ v) = u ++ dropEndWhile p v := by
  have hu : u.reverse.dropWhile p = u.reverse := by
    apply dropWhile_of_head
    intro c hc
    exact h c (by rwa [List.head?_reverse] at hc)
  rw [dropEndWhile, List.reverse_append, List.dropWhile_append, hu, dropEndWhile]
  split
  · next hnil => simp [List.isEmpty_iff.1 hnil]
  · simp

theorem dropEndWhile_append {p : Char → Bool} {u : List Char} (h : ∀ c ∈ u, p c = false)
    (v : List Char) : dropEndWhile p (u ++ v) = u ++ dropEndWhile p v :=
  dropEndWhile_append_of_getLast (fun c hc => h c (List.mem_of_getLast? hc)) v

end Text

namespace Clause

def marks (optional inverted : Bool) : String :=
  (if optional then "~" else "") ++ if inverted then "-" else ""

def Unmarked (body : String) : Prop :=
  ∀ c ∈ body.toList.head?, c ≠ '~' ∧ c ≠ '-' ∧ Text.isBlank c = false

instance (body : String) : Decidable (Unmarked body) :=
  decidable_of_iff
    (body.toList.head?.all (fun c => c != '~' && c != '-' && !Text.isBlank c) = true) <| by
    rw [Unmarked]
    cases body.toList.head? <;> simp [and_assoc]

def EndsClean (s : String) : Prop := ∀ c ∈ s.toList.getLast?, Text.isBlank c = false

instance (s : String) : Decidable (EndsClean s) :=
  decidable_of_iff (s.toList.getLast?.all (!Text.isBlank ·) = true) <| by
    rw [EndsClean]
    cases s.toList.getLast? <;> simp

def readBody (optional inverted : Bool) (s : List Char) : Clause :=
  let (field, s) := (Field.ofLead? s).getD (.tag, s)
  let (comparison, literal) := splitFor field s
  build field comparison literal inverted optional

theorem parse_of_takeMark {token : String} {optional inverted : Bool} {s body : List Char}
    (hfirst : takeMark '~' (Text.trimmed token.toList) = (optional, s))
    (hsecond : takeMark '-' s = (inverted, body)) :
    parse token = readBody optional inverted body := by
  unfold parse
  rw [hfirst]
  dsimp only
  rw [hsecond, readBody]

theorem takeMark_of_head {mark : Char} {s : List Char} (h : ∀ c ∈ s.head?, c ≠ mark) :
    takeMark mark s = (false, s) := by
  cases s with
  | nil => rfl
  | cons c r => rw [takeMark, if_neg (h c rfl)]

section

variable {s : List Char} (h : ∀ c ∈ s.head?, c ≠ '~' ∧ c ≠ '-')

include h

theorem takeMark_optional (optional inverted : Bool) :
    takeMark '~' ((marks optional inverted).toList ++ s) =
      (optional, (marks false inverted).toList ++ s) := by
  cases optional with
  | true => cases inverted <;> rfl
  | false =>
    apply takeMark_of_head
    cases inverted with
    | true => simp [marks]
    | false => exact fun c hc => (h c hc).1

theorem takeMark_inverted (inverted : Bool) :
    takeMark '-' ((marks false inverted).toList ++ s) = (inverted, s) := by
  cases inverted with
  | true => rfl
  | false => exact takeMark_of_head fun c hc => (h c hc).2

end

theorem isBlank_of_mem_marks {optional inverted : Bool} {c : Char}
    (h : c ∈ (marks optional inverted).toList) : Text.isBlank c = false := by
  have hmark : c = '~' ∨ c = '-' := by
    cases optional <;> cases inverted <;> simp_all [marks]
  rcases hmark with rfl | rfl <;> decide

theorem trimmed_marks_append {body : String} (h : Unmarked body) (optional inverted : Bool) :
    Text.trimmed (marks optional inverted ++ body).toList =
      (marks optional inverted).toList ++ Text.dropEndWhile Text.isBlank body.toList := by
  rw [String.toList_append, Text.trimmed, Text.dropWhile_of_head,
    Text.dropEndWhile_append fun c hc => isBlank_of_mem_marks hc]
  intro c hc
  -- the token begins with a mark or, where there is none, as its body does
  rw [List.head?_append] at hc
  cases hhead : (marks optional inverted).toList.head? with
  | some d =>
    rw [hhead, Option.some_or] at hc
    rw [← Option.some.inj hc]
    exact isBlank_of_mem_marks (List.mem_of_mem_head? hhead)
  | none =>
    rw [hhead, Option.none_or] at hc
    exact (h c hc).2.2

theorem parse_marks_append {body : String} (h : Unmarked body) (optional inverted : Bool) :
    parse (marks optional inverted ++ body) =
      readBody optional inverted (Text.dropEndWhile Text.isBlank body.toList) := by
  have hhead : ∀ c ∈ (Text.dropEndWhile Text.isBlank body.toList).head?, c ≠ '~' ∧ c ≠ '-' := by
    obtain ⟨t, ht⟩ : Text.dropEndWhile Text.isBlank body.toList <+: body.toList := by
      rw [Text.dropEndWhile_eq_rdropWhile]
      exact List.rdropWhile_prefix _ _
    intro c hc
    have hbody := h c (by rw [← ht, List.head?_append, Option.mem_def.1 hc]; rfl)
    exact ⟨hbody.1, hbody.2.1⟩
  apply parse_of_takeMark
  · rw [trimmed_marks_append h]
    exact takeMark_optional hhead optional inverted
  · exact takeMark_inverted hhead inverted

theorem parse_of_unmarked {body : String} (h : Unmarked body) :
    parse body = readBody false false (Text.dropEndWhile Text.isBlank body.toList) := by
  have hparse := parse_marks_append h false false
  have hnone : marks false false ++ body = body := String.empty_append
  rwa [hnone] at hparse

theorem readBody_of_spelling {lead : String × Field} (h : lead ∈ Field.spellings)
    (optional inverted : Bool) {s literal : List Char} {comparison : Comparison}
    (hsplit : splitComparison s = (comparison, literal)) :
    readBody optional inverted (lead.1.toList ++ s) =
      build lead.2 comparison literal inverted optional := by
  rw [readBody, Field.ofLead?_append h, Option.getD_some]
  simp only [splitFor, if_neg (Field.ne_tag_of_mem_spellings h), hsplit]

theorem readBody_of_tag {s : List Char} (h : ∀ lead ∈ Field.spellings, ¬ lead.1.toList <+: s)
    (optional inverted : Bool) :
    readBody optional inverted s = build .tag .equals s inverted optional := by
  rw [readBody, Field.ofLead?_eq_none_iff.2 h, Option.getD_none]
  simp only [splitFor, ↓reduceIte]

theorem of_mem_spelling {lead : String × Field} (h : lead ∈ Field.spellings) :
    lead.1 ≠ "" ∧ ∀ c ∈ lead.1.toList, c ≠ '~' ∧ c ≠ '-' ∧ Text.isBlank c = false := by
  have hall : (Field.spellings.all fun s => s.1 != "" &&
      s.1.toList.all fun c => c != '~' && c != '-' && !Text.isBlank c) = true := by decide +kernel
  have hlead := List.all_eq_true.1 hall lead h
  simpa only [Bool.and_eq_true, bne_iff_ne, List.all_eq_true, Bool.not_eq_true', and_assoc]
    using hlead

theorem isBlank_of_mem_sign {sign : String × Comparison} (h : sign ∈ signs) {c : Char}
    (hc : c ∈ sign.1.toList) : Text.isBlank c = false := by
  have hall : (signs.all fun s => s.1.toList.all (!Text.isBlank ·)) = true := by decide
  have hsign := List.all_eq_true.1 (List.all_eq_true.1 hall sign h) c hc
  rwa [Bool.not_eq_true'] at hsign

theorem unmarked_spelling_append {lead : String × Field} (h : lead ∈ Field.spellings)
    (rest : String) : Unmarked (lead.1 ++ rest) := by
  obtain ⟨hne, hall⟩ := of_mem_spelling h
  have hcons : lead.1.toList ≠ [] := fun hnil => hne (String.toList_eq_nil_iff.1 hnil)
  intro c hc
  rw [String.toList_append, List.head?_append, List.head?_eq_some_head hcons, Option.some_or] at hc
  rw [← Option.some.inj hc]
  exact hall _ (List.head_mem hcons)

theorem EndsClean.append {value : String} (h : EndsClean value) {lead : String}
    (hlead : ∀ c ∈ lead.toList, Text.isBlank c = false) : EndsClean (lead ++ value) := by
  intro c hc
  rw [String.toList_append, List.getLast?_append] at hc
  cases hlast : value.toList.getLast? with
  | some d =>
    rw [hlast, Option.some_or] at hc
    exact h c (hlast.trans hc)
  | none =>
    rw [hlast, Option.none_or] at hc
    exact hlead c (List.mem_of_getLast? hc)

theorem parse_spelling_append {lead : String × Field} (hlead : lead ∈ Field.spellings)
    (rest : String) (optional inverted : Bool) {comparison : Comparison} {literal : List Char}
    (hsplit : splitComparison (Text.dropEndWhile Text.isBlank rest.toList) =
      (comparison, literal)) :
    parse (marks optional inverted ++ (lead.1 ++ rest)) =
      build lead.2 comparison literal inverted optional := by
  rw [parse_marks_append (unmarked_spelling_append hlead _), String.toList_append,
    Text.dropEndWhile_append fun c hc => ((of_mem_spelling hlead).2 c hc).2.2,
    readBody_of_spelling hlead _ _ hsplit]

theorem parse_spelled {lead : String × Field} (hlead : lead ∈ Field.spellings)
    {sign : String × Comparison} (hsign : sign ∈ signs) {value : String} (hvalue : EndsClean value)
    (optional inverted : Bool) {comparison : Comparison} {literal : List Char}
    (hsplit : splitComparison (sign.1.toList ++ value.toList) = (comparison, literal)) :
    parse (marks optional inverted ++ lead.1 ++ sign.1 ++ value) =
      build lead.2 comparison literal inverted optional := by
  -- an empty value leaves the end to the operator
  have hclean : EndsClean (sign.1 ++ value) := hvalue.append fun _ => isBlank_of_mem_sign hsign
  rw [String.append_assoc, String.append_assoc]
  apply parse_spelling_append hlead
  rwa [Text.dropEndWhile_of_getLast hclean, String.toList_append]

theorem parse_tag {body : String} (hbody : Unmarked body) (hclean : EndsClean body)
    (hnone : ∀ lead ∈ Field.spellings, ¬ lead.1.toList <+: body.toList)
    (optional inverted : Bool) :
    parse (marks optional inverted ++ body) =
      build .tag .equals body.toList inverted optional := by
  rw [parse_marks_append hbody, Text.dropEndWhile_of_getLast hclean, readBody_of_tag hnone]

def truthFields : List Field := [.favorited, .hasParent, .hasChild]

def shownTruth (literal : String) : String :=
  if literal = "yes" then "true" else if literal = "no" then "false" else literal

def shownSize (comparison : Comparison) (literal : String) : String :=
  if comparison = .range then
    match (rangeParts literal.toList).map size? with
    | [some a, some b] =>
      NumeralStyle.plain.write (a.min b) ++ rangeMark ++ NumeralStyle.plain.write (a.max b)
    | _ => literal
  else
    match size? literal.toList with
    | some bytes => NumeralStyle.plain.write bytes
    | none => literal

/-- A literal as a clause shows it: truth values and numbers of bytes in their usual forms,
everything else as it was written. -/
def shown (field : Field) (comparison : Comparison) (literal : String) : String :=
  if field ∈ truthFields then shownTruth literal
  else if field = .fileSize then shownSize comparison literal
  else literal

/-- The clause has been read with these parts. -/
structure Reads (c : Clause) (optional inverted : Bool) (field : Field) (comparison : Comparison)
    (literal : String) : Prop where
  marks : c.optional = optional ∧ c.inverted = inverted
  subject : c.field = field
  relation : c.comparison = comparison
  value : c.operand = operandOf field comparison literal.toList
  raw : c.raw = shown field comparison literal

theorem operandOf_ne_truth {field : Field} (h : field ∉ truthFields) (comparison : Comparison)
    (literal : List Char) (b : Bool) : operandOf field comparison literal ≠ .truth b := by
  cases field with
  | favorited | hasParent | hasChild => simp [truthFields] at h
  | tag | rating | fileType =>
    unfold operandOf
    dsimp only
    split <;> exact Operand.noConfusion
  | status => exact Operand.noConfusion
  | approver =>
    unfold operandOf
    dsimp only
    split
    · exact Operand.noConfusion
    · exact getD_numeric?_ne rfl Operand.noConfusion
  | id | score | favCount | uploader | height | width | fileSize | duration | aspectRatio
  | tagCount | categoryCount => exact getD_numeric?_ne rfl Operand.noConfusion

theorem operandOf_of_no_star {literal : String} (h : '*' ∉ literal.toList)
    (comparison : Comparison) : operandOf .tag comparison literal.toList = .tag literal := by
  change (if literal.toList.contains '*' then _ else Operand.tag (String.ofList literal.toList)) = _
  rw [if_neg (by simpa using h), String.ofList_toList]

theorem rawOf_plain {field : Field} {operand : Operand} (hsize : field ≠ .fileSize)
    (htruth : ∀ b, operand ≠ .truth b) (literal : List Char) :
    rawOf field literal operand = String.ofList literal := by
  unfold rawOf
  split
  · next b => exact absurd rfl (htruth b)
  · rw [if_neg hsize]
  · rw [if_neg hsize]
  · rfl

theorem shownTruth_eq (literal : String) :
    ((truth? literal).map fun b => if b then "true" else "false").getD literal =
      shownTruth literal := by
  by_cases hyes : literal = "yes"
  · rw [hyes]
    rfl
  by_cases hno : literal = "no"
  · rw [hno]
    rfl
  rw [shownTruth, if_neg hyes, if_neg hno]
  unfold truth?
  split
  · rfl
  · exact absurd rfl hyes
  · rfl
  · exact absurd rfl hno
  · rfl

theorem rawOf_truth {field : Field} (h : field ∈ truthFields) (comparison : Comparison)
    (literal : String) :
    rawOf field literal.toList (operandOf field comparison literal.toList) =
      shownTruth literal := by
  have hread : rawOf field literal.toList (operandOf field comparison literal.toList) =
      ((truth? literal).map fun b => if b then "true" else "false").getD literal := by
    simp only [truthFields, List.mem_cons, List.not_mem_nil, or_false] at h
    rcases h with rfl | rfl | rfl <;>
    · unfold operandOf
      dsimp only
      rw [String.ofList_toList]
      cases truth? literal with
      | some b => rfl
      | none => exact String.ofList_toList
  rw [hread, shownTruth_eq]

theorem rawOf_size (comparison : Comparison) (literal : String) :
    rawOf .fileSize literal.toList (operandOf .fileSize comparison literal.toList) =
      shownSize comparison literal := by
  have hop : operandOf .fileSize comparison literal.toList =
    (numeric? .fileSize comparison literal.toList).getD .unusable := rfl
  rw [hop, numeric?, shownSize]
  by_cases hrange : comparison = .range
  · rw [if_pos hrange, if_pos hrange, range?]
    rcases rangeParts literal.toList with _ | ⟨a, _ | ⟨b, _ | ⟨c, rest⟩⟩⟩
    · exact String.ofList_toList
    · cases ha : size? a <;> simp [rawOf, ha]
    · cases ha : size? a <;> cases hb : size? b <;> simp [rawOf, numberOf?, ha, hb]
    · simp [rawOf]
  · rw [if_neg hrange, if_neg hrange, numberOf?]
    cases size? literal.toList with
    | some bytes => rfl
    | none => exact String.ofList_toList

theorem raw_build (field : Field) (comparison : Comparison) (literal : String)
    (inverted optional : Bool) :
    (build field comparison literal.toList inverted optional).raw =
      shown field comparison literal := by
  change rawOf field literal.toList (operandOf field comparison literal.toList) = _
  rw [shown]
  by_cases htruth : field ∈ truthFields
  · rw [if_pos htruth, rawOf_truth htruth]
  by_cases hsize : field = .fileSize
  · rw [if_neg htruth, if_pos hsize, hsize, rawOf_size]
  · rw [if_neg htruth, if_neg hsize, rawOf_plain hsize (operandOf_ne_truth htruth _ _),
      String.ofList_toList]

theorem reads_build (optional inverted : Bool) (field : Field) (comparison : Comparison)
    (literal : String) :
    (build field comparison literal.toList inverted optional).Reads optional inverted field
      comparison literal :=
  ⟨⟨rfl, rfl⟩, rfl, rfl, rfl, raw_build field comparison literal inverted optional⟩

theorem parse_marks {body : String} (h : Unmarked body) (optional inverted : Bool) :
    parse (marks optional inverted ++ body) = { parse body with optional, inverted } := by
  rw [parse_marks_append h, parse_of_unmarked h]
  rfl

theorem holds_marked (c : Clause) (optional inverted : Bool) (post : Post) :
    { c with optional, inverted }.holds post = (c.test post != inverted) := rfl

theorem holds_parse_inverted {body : String} (h : Unmarked body) (optional : Bool) (post : Post) :
    (parse (marks optional true ++ body)).holds post =
      !(parse (marks optional false ++ body)).holds post := by
  rw [parse_marks h, parse_marks h, holds_marked, holds_marked, Bool.bne_true, Bool.bne_false]

/-- A token that is written as marks, the spelling of a field, an operator and a value is read as
these, for every value that is not itself taken for a part of the operator; with a range mark in the
value the operator belongs to the literal. Without the spelling of a field everything behind the
marks is a tag. Inverting any body inverts what it holds of, and the marks change nothing else. -/
theorem parse_reads_parts :
    (∀ optional inverted, ∀ lead ∈ Field.spellings, ∀ sign ∈ signs, ∀ value : String,
      EndsClean value →
      (¬ HasRangeMark value.toList → Follows sign.1 value.toList →
        (parse (marks optional inverted ++ lead.1 ++ sign.1 ++ value)).Reads optional inverted
          lead.2 sign.2 value) ∧
      (HasRangeMark value.toList →
        (parse (marks optional inverted ++ lead.1 ++ sign.1 ++ value)).Reads optional inverted
          lead.2 .range (sign.1 ++ value))) ∧
    (∀ optional inverted, ∀ body : String, Unmarked body → EndsClean body →
      (∀ lead ∈ Field.spellings, ¬ lead.1.toList <+: body.toList) →
      (parse (marks optional inverted ++ body)).Reads optional inverted .tag .equals body ∧
        (parse (marks optional inverted ++ body)).raw = body) ∧
    ∀ body : String, Unmarked body → ∀ optional,
      (∀ inverted, parse (marks optional inverted ++ body) =
        { parse body with optional, inverted }) ∧
      ∀ post, (parse (marks optional true ++ body)).holds post =
        !(parse (marks optional false ++ body)).holds post := by
  refine ⟨fun optional inverted lead hlead sign hsign value hvalue => ⟨fun hrange hf => ?_,
    fun hrange => ?_⟩, fun optional inverted body hbody hclean hnone => ?_,
    fun body hbody optional => ⟨parse_marks hbody optional, holds_parse_inverted hbody optional⟩⟩
  · have hsplit := splitComparison_sign_append hsign hrange hf
    rw [parse_spelled hlead hsign hvalue optional inverted hsplit]
    exact reads_build optional inverted lead.2 sign.2 value
  · have hsplit := splitComparison_of_rangeMark ((hasRangeMark_sign_append hsign _).2 hrange)
    rw [parse_spelled hlead hsign hvalue optional inverted hsplit, ← String.toList_append]
    exact reads_build optional inverted lead.2 .range (sign.1 ++ value)
  · rw [parse_tag hbody hclean hnone]
    have hreads := reads_build optional inverted .tag .equals body
    exact ⟨hreads, hreads.raw⟩

theorem parse_reads_parts_of_tokens :
    (EndsClean "5mb" ∧ ¬ HasRangeMark "5mb".toList ∧ Follows "<" "5mb".toList ∧
      (parse "~-filesize:<5mb").Reads true true .fileSize .less "5mb" ∧
      (parse "~-filesize:<5mb").raw = "5242880") ∧
    (EndsClean "1kb...2kb" ∧ HasRangeMark "1kb...2kb".toList ∧
      (parse "filesize:<1kb...2kb").Reads false false .fileSize .range "<1kb...2kb" ∧
      (parse "filesize:<1kb...2kb").raw = "<1kb...2kb") ∧
    Unmarked "id<5" ∧ EndsClean "id<5" ∧
      (∀ lead ∈ Field.spellings, ¬ lead.1.toList <+: "id<5".toList) ∧
      (parse "-id<5").Reads false true .tag .equals "id<5" ∧
      ∀ post, (parse "-id<5").holds post = !(parse "id<5").holds post := by
  have hlead : ("filesize:", Field.fileSize) ∈ Field.spellings := by decide
  have hsign : ("<", Comparison.less) ∈ signs := by decide
  have hclean : EndsClean "5mb" ∧ EndsClean "1kb...2kb" := by decide
  have hmark : ¬ HasRangeMark "5mb".toList ∧ HasRangeMark "1kb...2kb".toList := by
    unfold HasRangeMark
    decide
  have hfollows : Follows "<" "5mb".toList :=
    ⟨fun h => absurd h (by decide), fun _ => by decide⟩
  have hone : (parse "~-filesize:<5mb").Reads true true .fileSize .less "5mb" :=
    (parse_reads_parts.1 true true _ hlead _ hsign _ hclean.1).1 hmark.1 hfollows
  have hrange : (parse "filesize:<1kb...2kb").Reads false false .fileSize .range "<1kb...2kb" :=
    (parse_reads_parts.1 false false _ hlead _ hsign _ hclean.2).2 hmark.2
  have hshown : shown .fileSize .less "5mb" = "5242880" := by decide +kernel
  have hshown' : shown .fileSize .range "<1kb...2kb" = "<1kb...2kb" := by decide +kernel
  have hbody : Unmarked "id<5" ∧ EndsClean "id<5" := by decide
  have hnone : ∀ lead ∈ Field.spellings, ¬ lead.1.toList <+: "id<5".toList := by decide
  have htag : (parse "-id<5").Reads false true .tag .equals "id<5" :=
    (parse_reads_parts.2.1 false true _ hbody.1 hbody.2 hnone).1
  have hinverted : ∀ post, (parse "-id<5").holds post = !(parse "id<5").holds post :=
    (parse_reads_parts.2.2 _ hbody.1 false).2
  exact ⟨⟨hclean.1, hmark.1, hfollows, hone, hone.raw.trans hshown⟩,
    ⟨hclean.2, hmark.2, hrange, hrange.raw.trans hshown'⟩, hbody.1, hbody.2, hnone, htag,
    hinverted⟩

end Clause

end BoardFilter
