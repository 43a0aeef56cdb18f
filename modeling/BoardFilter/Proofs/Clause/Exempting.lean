import BoardFilter.Proofs.Clause.Literals
import BoardFilter.Proofs.Line.Meaning
import BoardFilter.Proofs.Text.AsciiCase

/-!
# The clauses of exemptions

The literals of the exemptions go through the same reader as those that are typed. A truth value,
the digits of an id and a tag without a star come out of it as they went in, so that for every
exempt post one of the clauses fails.
-/

namespace BoardFilter

namespace Text

theorem lowercase_lowercase (t : String) : lowercase (lowercase t) = lowercase t := by
  rw [lowercase, lowercase, String.toList_ofList, lowered_lowered]

theorem star_not_mem_lowered {s : List Char} (h : '*' ∉ s) : '*' ∉ lowered s :=
  fun hmem => h (mem_of_mem_lowerAfter (by decide) hmem)

end Text

namespace Clause

variable {post : Post}

theorem holds_excluding {field : Field} {text : String} {comparison : Comparison}
    {literal : List Char} {operand : Operand}
    (hsplit : splitFor field text.toList = (comparison, literal))
    (hread : operandOf field comparison literal = operand) :
    (excluding field text).holds post =
      !test ⟨field, comparison, rawOf field literal operand, operand, true, false⟩ post := by
  rw [excluding, hsplit]
  simp only [build, hread, holds, Bool.bne_true]

theorem holds_excluding_favorited :
    (excluding .favorited "true").holds post = !post.isFavorited := by
  have hsplit : splitFor .favorited "true".toList = (.equals, "true".toList) := by decide
  have hread : operandOf .favorited .equals "true".toList = .truth true := by decide +kernel
  rw [holds_excluding hsplit hread]
  cases h : post.isFavorited <;> simp [test, h]

/-- The id is compared as a binary64 number, and its digits are read as the same number. -/
theorem holds_excluding_uploader (user : Nat) :
    (excluding .uploader (toString user)).holds post =
      !(Binary64.ofNat post.uploader).same (.ofNat user) := by
  have hdigits : numberOf? .uploader (Nat.toDigits 10 user) = some (.ofNat user) :=
    number?_toDigits user
  have hnone : ("", Comparison.equals) ∈ signs := List.mem_cons_self
  have hsplit : splitFor .uploader (toString user).toList = (.equals, Nat.toDigits 10 user) := by
    rw [Nat.toString_eq_ofList_toDigits, String.toList_ofList]
    exact splitComparison_of_numberOf? hdigits hnone
  have hnumber : numeric? .uploader .equals (Nat.toDigits 10 user) =
      some (.number (.ofNat user)) :=
    numeric?_eq_number_iff.2 ⟨by decide, hdigits⟩
  have hread : operandOf .uploader .equals (Nat.toDigits 10 user) = .number (.ofNat user) :=
    operandOf_of_numeric? rfl hnumber
  rw [holds_excluding hsplit hread]
  generalize Binary64.ofNat user = v
  simp only [test, comparesNat, compares]

theorem holds_excluding_tag {tag : String} (h : '*' ∉ tag.toList) :
    (excluding .tag tag).holds post = !post.tags.contains tag := by
  have hsplit : splitFor .tag tag.toList = (.equals, tag.toList) := by
    rw [splitFor, if_pos rfl]
  rw [holds_excluding hsplit (operandOf_of_no_star h .equals), test]

end Clause

def Exemptions.Covers (ex : Exemptions) (post : Post) : Prop :=
  (ex.favorites = true ∧ post.isFavorited = true) ∨ ex.uploadsOf = some post.uploader ∨
    ∃ tag ∈ ex.whitelist, '*' ∉ tag.toList ∧
      post.tags.contains (Text.lowercase tag) = true

theorem Exemptions.Covers.exists_fails {ex : Exemptions} {post : Post} (h : ex.Covers post) :
    ∃ c ∈ ex.clauses, c.holds post = false := by
  rw [clauses]
  rcases h with ⟨hex, hfav⟩ | hex | ⟨tag, htag, hstar, hmem⟩
  · refine ⟨Clause.excluding .favorited "true", by simp [hex], ?_⟩
    rw [Clause.holds_excluding_favorited, hfav, Bool.not_true]
  · refine ⟨Clause.excluding .uploader (toString post.uploader), by simp [hex], ?_⟩
    rw [Clause.holds_excluding_uploader, Binary64.same_self (Binary64.isNaN_ofNat _),
      Bool.not_true]
  · refine ⟨Clause.excluding .tag (Text.lowercase tag),
      List.mem_append_right _ (List.mem_map_of_mem htag), ?_⟩
    have hlow : '*' ∉ (Text.lowercase tag).toList := by
      rw [Text.lowercase, String.toList_ofList]
      exact Text.star_not_mem_lowered hstar
    rw [Clause.holds_excluding_tag hlow, hmem, Bool.not_true]

end BoardFilter
