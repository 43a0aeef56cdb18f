import BoardFilter.Proofs.Clause.Measures
import BoardFilter.Proofs.Clause.RoundTrip
import BoardFilter.Proofs.Line.Meaning
import BoardFilter.Proofs.Number.NumeralCase

/-!
# Lines of uploader names

A line is lower-cased with all of Unicode, but names are compared with regard to ASCII letters only.
So a line with the name of an uploader matches the posts of that uploader just if the name has no
letter beyond ASCII that lower-casing changes.
-/

namespace BoardFilter

namespace Clause

theorem number?_of_no_blank {s : List Char} (h : ∀ c ∈ s, Text.isBlank c = false)
    {x : Binary64} :
    number? s = some x ↔ Binary64.ofText? s = some x ∧ x.isNaN = false := by
  rw [number?_eq_some_iff, Text.trimmed_of_no_blank h]

theorem number?_lowerAfter {s : List Char} (h : ∀ c ∈ s, Text.isBlank c = false)
    (before : List Char) : number? (Text.lowerAfter before s) = number? s := by
  have hlow : ∀ c ∈ Text.lowerAfter before s, Text.isBlank c = false :=
    fun _ => Text.isBlank_of_mem_lowerAfter h
  have hsame : (∀ c ∈ s, c.toNat < 0x80) →
      Binary64.ofText? (Text.lowerAfter before s) = Binary64.ofText? s := fun hascii => by
    rw [Text.lowerAfter_eq_map_iff.2 fun c hc => .inl (hascii c hc), Binary64.ofText?_map_toLower]
  ext x
  rw [number?_of_no_blank hlow, number?_of_no_blank h]
  refine and_congr_left fun hnumber => ⟨fun hx => ?_, fun hx => ?_⟩
  · rw [← hsame, hx]
    exact Text.ascii_of_lowerAfter fun d hd => (Binary64.mem_ofText? hx hnumber hd).ascii
  · rw [hsame, hx]
    exact fun c hc => (Binary64.mem_ofText? hx hnumber hc).ascii.1

theorem beginsAsOperator_iff {s : String} :
    BeginsAsOperator s ↔ ∃ c ∈ ['<', '>', '='], [c] <+: s.toList := by
  rw [BeginsAsOperator]
  cases s.toList with
  | nil => simp
  | cons d r => simp [List.cons_prefix_cons, eq_comm]

def loweredName (name : String) : String :=
  String.ofList (Text.lowerAfter "uploader:".toList.reverse name.toList)

theorem lowercase_uploader (name : String) :
    Text.lowercase ("uploader:" ++ name) = "uploader:" ++ loweredName name := by
  have hascii : ∀ c ∈ "uploader:".toList, c.toNat < 0x80 ∧ ¬ (0x41 ≤ c.toNat ∧ c.toNat ≤ 0x5A) :=
    List.all_iff_forall_prop.1 (by decide)
  have hlower : ∀ c ∈ "uploader:".toList, Text.IsLower c := fun c hc =>
    Text.isLower_of_ascii (hascii c hc).1 (hascii c hc).2
  rw [Text.lowercase, Text.lowered, String.toList_append,
    Text.lowerAfter_append_of_isLower hlower, String.ofList_append, String.ofList_toList,
    List.append_nil, loweredName]

section

variable {name : String} (hblank : ∀ c ∈ name.toList, Text.isBlank c = false)
  (hsign : ¬ BeginsAsOperator name) (hmark : ¬ HasRangeMark name.toList)
  (hnumber : number? name.toList = none)

include hblank hsign hmark hnumber

theorem parse_loweredName :
    parse ("uploader:" ++ loweredName name) =
      ⟨.uploader, .equals, loweredName name, .word (loweredName name), false, false⟩ := by
  have hlead : ("uploader:", Field.uploader) ∈ Field.spellings := by decide
  have hnone : ("", Comparison.equals) ∈ signs := List.mem_cons_self
  have hlist : (loweredName name).toList =
      Text.lowerAfter "uploader:".toList.reverse name.toList := String.toList_ofList
  have hclean : EndsClean (loweredName name) := fun c hc => by
    apply Text.isBlank_of_mem_lowerAfter hblank
    rw [← hlist]
    exact List.mem_of_getLast? hc
  have hplain : ¬ BeginsAsOperator (loweredName name) := by
    rw [beginsAsOperator_iff, hlist]
    rintro ⟨c, hc, hpre⟩
    have hmarks : ∀ c ∈ ['<', '>', '='], c.toNat < 0x41 := List.all_iff_forall_prop.1 (by decide)
    exact hsign (beginsAsOperator_iff.2
      ⟨c, hc, Text.prefix_of_prefix_lowerAfter (by simpa using hmarks c hc) hpre⟩)
  have hrange : ¬ HasRangeMark (loweredName name).toList := by
    rw [hlist]
    exact mt (Text.infix_of_infix_lowerAfter (List.all_iff_forall_prop.1 (by decide))) hmark
  have hsplit := splitComparison_sign_append hnone hrange (follows_of_plain hplain "")
  have hread : number? (loweredName name).toList = none := by
    rw [hlist, number?_lowerAfter hblank, hnumber]
  have hparse := parse_spelled hlead hnone hclean false false hsplit
  rw [String.append_empty] at hparse
  have hnumeric : numeric? .uploader .equals (loweredName name).toList = none := by
    rw [numeric?, if_neg (by decide)]
    exact Option.map_eq_none_iff.2 hread
  have hoperand : operandOf .uploader .equals (loweredName name).toList =
      .word (loweredName name) := by
    unfold operandOf
    dsimp only
    rw [hnumeric, Option.getD_none, String.ofList_toList]
  refine hparse.trans ?_
  rw [build, hoperand, rawOf_plain Field.noConfusion fun _ => Operand.noConfusion,
    String.ofList_toList]

theorem holds_loweredName (post : Post) :
    (parse ("uploader:" ++ loweredName name)).holds post =
      post.uploaderName.any fun uploader => sameName uploader (loweredName name) := by
  rw [parse_loweredName hblank hsign hmark hnumber, holds, Bool.bne_false, test]

end

theorem sameName_loweredName (name : String) :
    sameName name (loweredName name) = true ↔
      ∀ c ∈ name.toList, c.toNat < 0x80 ∨ Text.IsLower c := by
  rw [sameName, loweredName, String.toList_ofList, Text.map_toLower_lowerAfter, beq_iff_eq,
    eq_comm, Text.lowerAfter_eq_map_iff]

end Clause

namespace Line

theorem evaluate_compile_token {token : String} (hne : token ≠ "")
    (hblank : ∀ c ∈ token.toList, Text.isBlank c = false) (enabled : Bool) (post : Post) :
    (compile token enabled {}).evaluate post =
      (Clause.parse (Text.lowercase token)).holds post := by
  have hwords : Text.words (Text.lowercase token) = [Text.lowercase token] := by
    rw [Text.words_lowercase, Text.words_word hne hblank]
    rfl
  rw [Bool.eq_iff_iff, evaluate_compile_iff, hwords]
  have hnone : ({} : Exemptions).clauses = [] := rfl
  simp only [hnone, List.not_mem_nil, false_imp_iff, implies_true, List.mem_singleton, forall_eq,
    exists_eq_left, true_and]
  by_cases hmarked : Clause.Marked (Text.lowercase token)
  · simp only [hmarked, not_true_eq_false, false_imp_iff, true_and, false_or]
  · simp only [hmarked, not_false_eq_true, true_imp_iff, true_or, and_true]

section

variable {name : String} (hblank : ∀ c ∈ name.toList, Text.isBlank c = false)
  (hsign : ¬ Clause.BeginsAsOperator name) (hmark : ¬ Clause.HasRangeMark name.toList)
  (hnumber : Clause.number? name.toList = none)

include hblank hsign hmark hnumber

theorem evaluate_compile_uploader (enabled : Bool) (post : Post) :
    (compile ("uploader:" ++ name) enabled {}).evaluate post =
      post.uploaderName.any fun uploader =>
        Clause.sameName uploader (Clause.loweredName name) := by
  have hlead : ∀ c ∈ "uploader:".toList, Text.isBlank c = false :=
    List.all_iff_forall_prop.1 (by decide)
  have hne : "uploader:" ++ name ≠ "" := by
    intro hnil
    have hlen := congrArg String.length hnil
    simp at hlen
  have hclean : ∀ c ∈ ("uploader:" ++ name).toList, Text.isBlank c = false := by
    intro c hc
    rw [String.toList_append] at hc
    exact (List.mem_append.1 hc).elim (hlead c) (hblank c)
  rw [evaluate_compile_token hne hclean, Clause.lowercase_uploader,
    Clause.holds_loweredName hblank hsign hmark hnumber]

/-- The line with the name of an uploader matches the posts of that uploader just if lower-casing
changes no letter beyond ASCII: `É` in a line is read as `é`, which is not taken for `É`. -/
theorem uploader_line_matches_iff {post : Post} (hpost : post.uploaderName = some name)
    (enabled : Bool) :
    (compile ("uploader:" ++ name) enabled {}).evaluate post = true ↔
      ∀ c ∈ name.toList, c.toNat < 0x80 ∨ Text.IsLower c := by
  rw [evaluate_compile_uploader hblank hsign hmark hnumber, hpost, Option.any_some,
    Clause.sameName_loweredName]

end

theorem uploader_line_matches_iff_of_cafe :
    let post : Post := { uploaderName := some "Café" }
    ((∀ c ∈ "Café".toList, Text.isBlank c = false) ∧ ¬ Clause.BeginsAsOperator "Café" ∧
      ¬ Clause.HasRangeMark "Café".toList ∧ Clause.number? "Café".toList = none) ∧
    (compile ("uploader:" ++ "Café") true {}).evaluate post = true := by
  intro post
  have hblank : ∀ c ∈ "Café".toList, Text.isBlank c = false :=
    List.all_iff_forall_prop.1 (by decide)
  have hsign : ¬ Clause.BeginsAsOperator "Café" := by decide
  have hmark : ¬ Clause.HasRangeMark "Café".toList := by
    unfold Clause.HasRangeMark
    decide
  have hnumber : Clause.number? "Café".toList = none := by decide
  have hpost : post.uploaderName = some "Café" := rfl
  have hsmall : Text.IsLower 'é' := by
    rw [show 'é' = Text.lowerChar 'É' by decide]
    exact Text.isLower_lowerChar (by decide)
  have hletters : ∀ c ∈ "Café".toList, c.toNat < 0x80 ∨ c = 'é' :=
    List.all_iff_forall_prop.1 (by decide)
  have hlower : ∀ c ∈ "Café".toList, c.toNat < 0x80 ∨ Text.IsLower c := fun c hc =>
    (hletters c hc).imp_right fun he => by rwa [he]
  exact ⟨⟨hblank, hsign, hmark, hnumber⟩,
    (uploader_line_matches_iff hblank hsign hmark hnumber hpost true).2 hlower⟩

/-- The line is read as the name in lower case, and no post of this uploader is matched by it. -/
theorem uploader_line_misses_accented_capital :
    let post : Post := { uploaderName := some "Émile" }
    ("Émile" ≠ "" ∧ (∀ c ∈ "Émile".toList, Text.isBlank c = false) ∧
      ¬ Clause.BeginsAsOperator "Émile" ∧ ¬ Clause.HasRangeMark "Émile".toList ∧
      Clause.number? "Émile".toList = none) ∧
    (compile ("uploader:" ++ "Émile") true {}).evaluate post = false := by
  intro post
  have hblank : ∀ c ∈ "Émile".toList, Text.isBlank c = false :=
    List.all_iff_forall_prop.1 (by decide)
  have hsign : ¬ Clause.BeginsAsOperator "Émile" := by decide
  have hmark : ¬ Clause.HasRangeMark "Émile".toList := by
    unfold Clause.HasRangeMark
    decide
  have hnumber : Clause.number? "Émile".toList = none := by decide
  have hletter : ¬ ('É'.toNat < 0x80 ∨ Text.IsLower 'É') := by decide
  refine ⟨⟨by decide, hblank, hsign, hmark, hnumber⟩, ?_⟩
  rw [evaluate_compile_uploader hblank hsign hmark hnumber, Option.any_some, Bool.eq_false_iff]
  exact fun hsame => hletter (Clause.sameName_loweredName "Émile" |>.1 hsame 'É' (by decide))

end Line

end BoardFilter
