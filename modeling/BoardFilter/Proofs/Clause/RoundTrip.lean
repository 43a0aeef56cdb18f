import BoardFilter.Proofs.Clause.Grammar

/-!
# Reading clauses that are shown

A clause is shown with the usual spelling of its field and without the operator of equality. Reading
what is shown gives the clause back, unless that operator kept its value from being taken for
another one: then the clause is read with the same field and marks, but with another value. The raw
values of file sizes are numbers that have been written out, so their clauses are left aside here.
-/

namespace BoardFilter

namespace Field

theorem spelling_mem {lead : String × Field} (h : lead ∈ spellings) :
    (spelling lead.2, lead.2) ∈ spellings := by
  have hall : (spellings.all fun s => spellings.contains (spelling s.2, s.2)) = true := by
    decide +kernel
  simpa using List.all_eq_true.1 hall lead h

theorem spelling_tag : spelling .tag = "" := by decide

end Field

namespace Clause

theorem takeMark_append {mark : Char} {s rest : List Char} {found : Bool}
    (h : takeMark mark s = (found, rest)) : (if found then [mark] else []) ++ rest = s := by
  unfold takeMark at h
  split at h
  · split at h
    · next hc =>
      obtain ⟨rfl, rfl⟩ := Prod.mk.inj h
      rw [hc]
      rfl
    · obtain ⟨rfl, rfl⟩ := Prod.mk.inj h
      rfl
  · obtain ⟨rfl, rfl⟩ := Prod.mk.inj h
    rfl

theorem toList_marks (optional inverted : Bool) :
    (marks optional inverted).toList =
      (if optional then ['~'] else []) ++ if inverted then ['-'] else [] := by
  cases optional <;> cases inverted <;> rfl

theorem exists_body (token : String) :
    ∃ optional inverted, ∃ body : String,
      Text.trim token = marks optional inverted ++ body ∧ EndsClean body ∧
        parse token = readBody optional inverted body.toList := by
  obtain ⟨optional, s, hfirst⟩ :
      ∃ optional s, takeMark '~' (Text.trimmed token.toList) = (optional, s) := ⟨_, _, rfl⟩
  obtain ⟨inverted, body, hsecond⟩ : ∃ inverted body, takeMark '-' s = (inverted, body) :=
    ⟨_, _, rfl⟩
  have htoken : Text.trimmed token.toList = (marks optional inverted).toList ++ body := by
    rw [toList_marks, List.append_assoc, takeMark_append hsecond, takeMark_append hfirst]
  refine ⟨optional, inverted, String.ofList body, ?_, ?_, ?_⟩
  · rw [Text.trim, htoken, String.ofList_append, String.ofList_toList]
  · intro c hc
    rw [String.toList_ofList] at hc
    have hclean := (Text.hasCleanEnds_trimmed token.toList).2
    rw [htoken, List.getLast?_append, Option.mem_def.1 hc] at hclean
    exact hclean c rfl
  · rw [String.toList_ofList]
    exact parse_of_takeMark hfirst hsecond

theorem parse_trim (token : String) : parse (Text.trim token) = parse token := by
  rw [parse, parse, Text.trim, String.toList_ofList,
    Text.trimmed_of_hasCleanEnds (Text.hasCleanEnds_trimmed _)]

theorem readBody_cases (optional inverted : Bool) (body : String) :
    readBody optional inverted body.toList = build .tag .equals body.toList inverted optional ∨
      ∃ lead ∈ Field.spellings, ∃ rest literal : String, ∃ comparison,
        body = lead.1 ++ rest ∧ splitComparison rest.toList = (comparison, literal.toList) ∧
          readBody optional inverted body.toList =
            build lead.2 comparison literal.toList inverted optional := by
  cases hlead : Field.ofLead? body.toList with
  | none => exact .inl (readBody_of_tag (Field.ofLead?_eq_none_iff.1 hlead) optional inverted)
  | some found =>
    obtain ⟨lead, hmem, hfound⟩ := List.exists_of_findSome?_eq_some hlead
    obtain ⟨rest, hdrop, -⟩ := Option.map_eq_some_iff.1 hfound
    have hbody := (Text.dropLead?_eq_some_iff.1 hdrop).symm
    refine .inr ⟨lead, hmem, String.ofList rest, String.ofList (splitComparison rest).2,
      (splitComparison rest).1, ?_, ?_, ?_⟩
    · rw [← String.toList_inj, String.toList_append, String.toList_ofList, hbody]
    · rw [String.toList_ofList, String.toList_ofList]
    · rw [String.toList_ofList, hbody]
      exact readBody_of_spelling hmem optional inverted rfl

def BeginsAsOperator (s : String) : Prop := s.toList.head? ∈ [some '<', some '>', some '=']

instance (s : String) : Decidable (BeginsAsOperator s) :=
  inferInstanceAs (Decidable (s.toList.head? ∈ [some '<', some '>', some '=']))

theorem follows_of_plain {value : String} (h : ¬ BeginsAsOperator value) (sign : String) :
    Follows sign value.toList := by
  simp only [BeginsAsOperator, List.mem_cons, List.not_mem_nil, or_false, not_or] at h
  refine follows_of_head (fun c hc => ⟨?_, ?_, ?_⟩) sign <;>
  · rintro rfl
    simp_all

theorem not_follows_nothing {value : String} (h : BeginsAsOperator value) :
    ¬ Follows "" value.toList := by
  simp only [BeginsAsOperator, List.mem_cons, List.not_mem_nil, or_false] at h
  intro hf
  have hhead := hf.1 rfl
  rcases h with h | h | h <;> simp_all

def truthWords : List String := ["true", "yes", "false", "no"]

theorem of_mem_truthWords {word : String} (h : word ∈ truthWords) :
    EndsClean word ∧ ¬ HasRangeMark word.toList ∧ ¬ BeginsAsOperator word := by
  unfold HasRangeMark
  revert word
  decide

theorem shownTruth_cases (literal : String) :
    shownTruth literal = literal ∨
      (literal = "yes" ∧ shownTruth literal = "true") ∨
        (literal = "no" ∧ shownTruth literal = "false") := by
  by_cases hyes : literal = "yes"
  · exact .inr (.inl ⟨hyes, by rw [shownTruth, if_pos hyes]⟩)
  by_cases hno : literal = "no"
  · exact .inr (.inr ⟨hno, by rw [shownTruth, if_neg hyes, if_pos hno]⟩)
  · exact .inl (by rw [shownTruth, if_neg hyes, if_neg hno])

theorem shownTruth_shownTruth (literal : String) :
    shownTruth (shownTruth literal) = shownTruth literal := by
  rcases shownTruth_cases literal with h | ⟨-, h⟩ | ⟨-, h⟩
  · rw [h, h]
  · rw [h]
    decide
  · rw [h]
    decide

theorem truth?_shownTruth (literal : String) : truth? (shownTruth literal) = truth? literal := by
  rcases shownTruth_cases literal with h | ⟨hl, h⟩ | ⟨hl, h⟩
  · rw [h]
  · rw [h, hl]
    rfl
  · rw [h, hl]
    rfl

section

variable {field : Field} (hsize : field ≠ .fileSize) (comparison : Comparison) (literal : String)

include hsize

theorem shown_cases :
    shown field comparison literal = literal ∨
      (literal ∈ truthWords ∧ shown field comparison literal ∈ truthWords) := by
  rw [shown, if_neg hsize]
  split
  · rcases shownTruth_cases literal with h | ⟨hl, h⟩ | ⟨hl, h⟩
    · exact .inl h
    · exact .inr (by rw [h, hl]; decide)
    · exact .inr (by rw [h, hl]; decide)
  · exact .inl rfl

theorem shown_shown :
    shown field comparison (shown field comparison literal) = shown field comparison literal := by
  rw [shown, if_neg hsize, shown, if_neg hsize]
  split
  · exact shownTruth_shownTruth literal
  · rfl

theorem operandOf_shown :
    operandOf field comparison (shown field comparison literal).toList =
      operandOf field comparison literal.toList := by
  by_cases htruth : field ∈ truthFields
  · rw [shown, if_pos htruth]
    simp only [truthFields, List.mem_cons, List.not_mem_nil, or_false] at htruth
    rcases htruth with rfl | rfl | rfl <;>
    · unfold operandOf
      dsimp only
      rw [String.ofList_toList, String.ofList_toList, truth?_shownTruth]
  · rw [shown, if_neg htruth, if_neg hsize]

theorem build_shown (inverted optional : Bool) :
    build field comparison (shown field comparison literal).toList inverted optional =
      build field comparison literal.toList inverted optional := by
  have hraw := (raw_build field comparison (shown field comparison literal) inverted optional).trans
    ((shown_shown hsize comparison literal).trans
      (raw_build field comparison literal inverted optional).symm)
  have hoperand := operandOf_shown hsize comparison literal
  unfold build at hraw ⊢
  simp only [Clause.mk.injEq, hoperand, true_and, and_true] at hraw ⊢
  exact hraw

end

def reread (c : Clause) : Clause := parse c.toText

/-- No operator is shown before the value, which itself begins as one. -/
def HidesOperator (c : Clause) : Prop :=
  c.field ≠ .tag ∧ c.comparison = .equals ∧ BeginsAsOperator c.raw

instance (c : Clause) : Decidable c.HidesOperator :=
  inferInstanceAs (Decidable (_ ∧ _ ∧ _))

theorem toText_eq (c : Clause) :
    c.toText = marks c.optional c.inverted ++
      (c.field.spelling ++ (c.comparison.symbol ++ c.raw)) := by
  simp [toText, marks, String.join, String.append_assoc]

theorem EndsClean.of_append {lead value : String} (h : EndsClean (lead ++ value)) :
    EndsClean value := by
  intro c hc
  apply h c
  rw [String.toList_append, List.getLast?_append, Option.mem_def.1 hc]
  rfl

theorem isBlank_of_mem_symbol {comparison : Comparison} {c : Char}
    (h : c ∈ comparison.symbol.toList) : Text.isBlank c = false := by
  have hall : (comparison.symbol.toList.all (!Text.isBlank ·)) = true := by
    cases comparison <;> decide
  have hsymbol := List.all_eq_true.1 hall c h
  rwa [Bool.not_eq_true'] at hsymbol

theorem symbol_of_mem_signs {sign : String × Comparison} (h : sign ∈ signs) :
    (sign.2.symbol, sign.2) ∈ signs ∧ (sign.2 ≠ .equals → sign.2.symbol = sign.1) := by
  have hall : (signs.all fun s => signs.contains (s.2.symbol, s.2) &&
      (s.2 == .equals || s.2.symbol == s.1)) = true := by decide
  have hsign := List.all_eq_true.1 hall sign h
  simp only [Bool.and_eq_true, List.contains_eq_mem, decide_eq_true_eq, Bool.or_eq_true,
    beq_iff_eq] at hsign
  exact ⟨hsign.1, fun hne => hsign.2.resolve_left hne⟩

section

variable {lead : String × Field} (hlead : lead ∈ Field.spellings) (hsize : lead.2 ≠ .fileSize)
  {rest literal : String} {comparison : Comparison}
  (hsplit : splitComparison rest.toList = (comparison, literal.toList))

include hsplit

theorem endsClean_literal (hclean : EndsClean rest) : EndsClean literal := by
  rcases splitComparison_cases hsplit with ⟨-, -, hl⟩ | ⟨-, sign, -, -, hrest, -⟩
  · rwa [String.toList_inj.1 hl]
  · have hparts : rest = sign.1 ++ literal := by
      rw [← String.toList_inj, String.toList_append, hrest]
    exact EndsClean.of_append (hparts ▸ hclean)

include hsize

theorem splitComparison_shown
    (hplain : comparison = .equals → ¬ BeginsAsOperator (shown lead.2 comparison literal)) :
    splitComparison (comparison.symbol ++ shown lead.2 comparison literal).toList =
      (comparison, (shown lead.2 comparison literal).toList) := by
  have hshown := shown_cases hsize comparison literal
  rw [String.toList_append]
  rcases splitComparison_cases hsplit with ⟨hmark, hrange, hl⟩ |
    ⟨hmark, sign, hsign, hsame, hrest, hf⟩
  · have hliteral : shown lead.2 comparison literal = literal :=
      hshown.resolve_right fun h => (of_mem_truthWords h.1).2.1 (hl ▸ hmark)
    rw [hliteral, hrange]
    exact splitComparison_of_rangeMark (hl ▸ hmark)
  · obtain ⟨hsymbol, hwritten⟩ := symbol_of_mem_signs hsign
    rw [← hsame] at hsymbol hwritten
    have hvalue : ¬ HasRangeMark (shown lead.2 comparison literal).toList := by
      rcases hshown with h | ⟨-, h⟩
      · rwa [h, ← hasRangeMark_sign_append hsign, ← hrest]
      · exact (of_mem_truthWords h).2.1
    apply splitComparison_sign_append hsymbol hvalue
    by_cases hbegins : BeginsAsOperator (shown lead.2 comparison literal)
    · have hliteral : shown lead.2 comparison literal = literal :=
        hshown.resolve_right fun h => (of_mem_truthWords h.2).2.2 hbegins
      rw [hliteral, hwritten fun he => hplain he hbegins]
      exact hf
    · exact follows_of_plain hbegins _

theorem shown_of_begins {found : Comparison} {value : String}
    (hequals : comparison = .equals) (hbegins : BeginsAsOperator (shown lead.2 comparison literal))
    (hfound : splitComparison (shown lead.2 comparison literal).toList = (found, value.toList)) :
    rest = "=" ++ literal ∧
      shown lead.2 found value ≠ shown lead.2 comparison literal := by
  have hliteral : shown lead.2 comparison literal = literal :=
    (shown_cases hsize comparison literal).resolve_right fun h =>
      (of_mem_truthWords h.2).2.2 hbegins
  rw [hliteral] at hbegins hfound ⊢
  rcases splitComparison_cases hsplit with ⟨-, hrange, -⟩ | ⟨hmark, sign, hsign, hsame, hrest, hf⟩
  · cases hequals.symm.trans hrange
  constructor
  · have hsigns : sign.1 = "" ∨ sign.1 = "=" := by
      have hall : (signs.all fun s => s.2 != .equals || s.1 == "" || s.1 == "=") = true := by decide
      have hsign := List.all_eq_true.1 hall sign hsign
      simpa [← hsame, hequals] using hsign
    rcases hsigns with h | h
    · exact absurd (h ▸ hf) (not_follows_nothing hbegins)
    · rw [← String.toList_inj, String.toList_append, hrest, h]
  · rw [hrest, hasRangeMark_sign_append hsign] at hmark
    rcases splitComparison_cases hfound with ⟨hmark', -, -⟩ | ⟨-, other, -, -, hvalue, hf'⟩
    · exact absurd hmark' hmark
    intro hsame'
    rcases shown_cases hsize found value with h | ⟨-, h⟩
    · have hwhole : literal = value := hsame'.symm.trans h
      have hnothing : other.1 = "" :=
        String.toList_eq_nil_iff.1 (List.append_left_eq_self.1 (hwhole ▸ hvalue.symm))
      rw [hnothing, ← hwhole] at hf'
      exact not_follows_nothing hbegins hf'
    · exact (of_mem_truthWords h).2.2 (hsame' ▸ hbegins)

include hlead

theorem reread_build {found : Comparison} {value : String} (hclean : EndsClean rest)
    (inverted optional : Bool)
    (hfound : splitComparison
      (comparison.symbol ++ shown lead.2 comparison literal).toList = (found, value.toList)) :
    (build lead.2 comparison literal.toList inverted optional).reread =
      build lead.2 found value.toList inverted optional := by
  have hshown : EndsClean (shown lead.2 comparison literal) := by
    rcases shown_cases hsize comparison literal with h | ⟨-, h⟩
    · exact h.symm ▸ endsClean_literal hsplit hclean
    · exact (of_mem_truthWords h).1
  have htext : EndsClean (comparison.symbol ++ shown lead.2 comparison literal) :=
    hshown.append fun _ => isBlank_of_mem_symbol
  rw [reread, toText_eq, raw_build]
  apply parse_spelling_append (Field.spelling_mem hlead)
  rw [← hfound]
  exact congrArg splitComparison (Text.dropEndWhile_of_getLast htext)

end

theorem reread_tag {token body : String} {optional inverted : Bool}
    (htoken : Text.trim token = marks optional inverted ++ body)
    (hparse : parse token = build .tag .equals body.toList inverted optional) :
    (parse token).reread = parse token := by
  have htext : (parse token).toText = Text.trim token := by
    rw [htoken, hparse, toText_eq, raw_build]
    change _ ++ (Field.spelling .tag ++ ("" ++ body)) = _
    rw [Field.spelling_tag, String.empty_append, String.empty_append]
    rfl
  rw [reread, htext, parse_trim]

/-- What a clause shows is read as the same clause, except exactly where its value begins as an
operator and was kept apart by an explicit sign of equality; then the value that is read is
another one, but never the field or a mark. -/
theorem reread_eq_unless_hidden (token : String) (h : (parse token).field ≠ .fileSize) :
    ((parse token).reread.field = (parse token).field ∧
      (parse token).reread.optional = (parse token).optional ∧
      (parse token).reread.inverted = (parse token).inverted) ∧
    (¬ (parse token).HidesOperator →
      (parse token).reread.comparison = (parse token).comparison ∧
      (parse token).reread.raw = (parse token).raw ∧
      (parse token).reread.toText = (parse token).toText ∧
      ∀ post, (parse token).reread.holds post = (parse token).holds post) ∧
    ((parse token).HidesOperator →
      (parse token).reread.raw ≠ (parse token).raw ∧
      ∃ lead ∈ Field.spellings, lead.2 = (parse token).field ∧ Text.trim token =
        marks (parse token).optional (parse token).inverted ++ lead.1 ++ "=" ++
          (parse token).raw) := by
  obtain ⟨optional, inverted, body, htoken, hclean, hparse⟩ := exists_body token
  rcases readBody_cases optional inverted body with htag |
    ⟨lead, hlead, rest, literal, comparison, hbody, hsplit, hbuild⟩
  · have hsame := reread_tag htoken (hparse.trans htag)
    rw [hsame]
    refine ⟨⟨rfl, rfl, rfl⟩, fun _ => ⟨rfl, rfl, rfl, fun _ => rfl⟩, fun hides => ?_⟩
    exact absurd (congrArg field (hparse.trans htag)) hides.1
  · rw [hbuild] at hparse
    rw [hparse] at h ⊢
    have hsize : lead.2 ≠ .fileSize := h
    have hrest : EndsClean rest := EndsClean.of_append (hbody ▸ hclean)
    obtain ⟨found, value, hfound⟩ : ∃ found, ∃ value : String,
        splitComparison (comparison.symbol ++ shown lead.2 comparison literal).toList =
          (found, value.toList) := ⟨_, String.ofList _, by rw [String.toList_ofList]⟩
    have hreread := reread_build hlead hsize hsplit hrest inverted optional hfound
    refine ⟨by rw [hreread]; exact ⟨rfl, rfl, rfl⟩, fun hplain => ?_, fun hides => ?_⟩
    · have hsame : (build lead.2 comparison literal.toList inverted optional).reread =
          build lead.2 comparison literal.toList inverted optional := by
        have hkept := splitComparison_shown hsize hsplit fun hequals hbegins =>
          hplain ⟨Field.ne_tag_of_mem_spellings hlead, hequals, by rwa [raw_build]⟩
        obtain ⟨hfield, hvalue⟩ := Prod.mk.inj (hfound.symm.trans hkept)
        rw [hreread, hfield, hvalue, build_shown hsize]
      rw [hsame]
      exact ⟨rfl, rfl, rfl, fun _ => rfl⟩
    · obtain ⟨-, hequals, hbegins⟩ := hides
      rw [raw_build] at hbegins ⊢
      have hsymbol : comparison.symbol = "" := congrArg Comparison.symbol hequals
      rw [hsymbol, String.empty_append] at hfound
      obtain ⟨hwritten, hne⟩ := shown_of_begins hsize hsplit hequals hbegins hfound
      have hliteral : shown lead.2 comparison literal = literal :=
        (shown_cases hsize comparison literal).resolve_right fun h =>
          (of_mem_truthWords h.2).2.2 hbegins
      refine ⟨?_, lead, hlead, rfl, ?_⟩
      · rw [hreread, raw_build]
        exact hne
      · rw [htoken, hbody, hwritten, hliteral, String.append_assoc, String.append_assoc]
        rfl

/-- A truth value is shown in its usual word and the field in its usual spelling, and what is shown
is the same clause. The second sign of equality is a part of the value, and with one sign it is
not. -/
theorem reread_eq_unless_hidden_of_tokens :
    ((parse "~-isfav:<yes").field ≠ .fileSize ∧ ¬ (parse "~-isfav:<yes").HidesOperator ∧
      (parse "~-isfav:<yes").toText = "~-fav:<true" ∧
      (parse "~-isfav:<yes").reread.raw = (parse "~-isfav:<yes").raw) ∧
    (parse "score:==5").field ≠ .fileSize ∧ (parse "score:==5").HidesOperator ∧
      (parse "score:==5").toText = "score:=5" ∧
      (parse "score:==5").reread.raw ≠ (parse "score:==5").raw := by
  have hfield : (parse "~-isfav:<yes").field ≠ .fileSize ∧
      (parse "score:==5").field ≠ .fileSize := by decide +kernel
  have hplain : ¬ (parse "~-isfav:<yes").HidesOperator := by decide +kernel
  have hhidden : (parse "score:==5").HidesOperator := by decide +kernel
  exact ⟨⟨hfield.1, hplain, by decide +kernel,
      ((reread_eq_unless_hidden "~-isfav:<yes" hfield.1).2.1 hplain).2.1⟩,
    hfield.2, hhidden, by decide +kernel,
    ((reread_eq_unless_hidden "score:==5" hfield.2).2.2 hhidden).1⟩

end Clause

end BoardFilter
