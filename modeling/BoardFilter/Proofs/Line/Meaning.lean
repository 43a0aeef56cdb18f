import BoardFilter.Proofs.Text.Words

/-!
# What a line means

A line is a set of tokens. It matches a post if all exemptions and all required tokens hold of the
post, and one of the optional tokens where there are any; neither the order and repetition of the
tokens nor the stop at the first failure have a say in it.
-/

namespace BoardFilter

open Text (words lowercase)

namespace Clause

def Marked (token : String) : Prop := token.toList.head? = some '~'

instance (token : String) : Decidable (Marked token) :=
  inferInstanceAs (Decidable (token.toList.head? = some '~'))

theorem optional_parse_eq (token : String) :
    (parse token).optional = (takeMark '~' (Text.trimmed token.toList)).1 := rfl

theorem takeMark_fst_iff {mark : Char} {s : List Char} :
    (takeMark mark s).1 = true ↔ s.head? = some mark := by
  cases s with
  | nil => simp [takeMark]
  | cons c r =>
    rw [takeMark]
    split <;> simp_all

theorem optional_parse_iff {token : String} (h : ∀ c ∈ token.toList, Text.isBlank c = false) :
    (parse token).optional = true ↔ Marked token := by
  have hclean : Text.HasCleanEnds token.toList :=
    ⟨fun c hc => h c (List.mem_of_mem_head? hc), fun c hc => h c (List.mem_of_getLast? hc)⟩
  rw [optional_parse_eq, Text.trimmed_of_hasCleanEnds hclean, takeMark_fst_iff, Marked]

theorem optional_excluding (field : Field) (literal : String) :
    (excluding field literal).optional = false := rfl

end Clause

theorem Exemptions.optional_of_mem_clauses {ex : Exemptions} {c : Clause} (h : c ∈ ex.clauses) :
    c.optional = false := by
  rw [clauses, List.mem_append, List.mem_append] at h
  rcases h with (h | h) | h
  · split at h
    · rw [List.mem_singleton.1 h, Clause.optional_excluding]
    · cases h
  · split at h
    · rw [List.mem_singleton.1 h, Clause.optional_excluding]
    · cases h
  · obtain ⟨tag, -, rfl⟩ := List.mem_map.1 h
    exact Clause.optional_excluding _ _

namespace Line

def tallyNext (post : Post) (t : Bool × Nat) (c : Clause) : Bool × Nat :=
  if c.optional then (t.1, if c.holds post then t.2 + 1 else t.2) else (t.1 && c.holds post, t.2)

def tally (post : Post) (cs : List Clause) : Bool × Nat := cs.foldl (tallyNext post) (true, 0)

def evaluateFully (line : Line) (post : Post) : Bool :=
  let t := tally post line.clauses
  t.1 && (line.optionalCount = 0 || 0 < t.2)

def misses (post : Post) (c : Clause) : Bool := !c.optional && !c.holds post

def hits (post : Post) (c : Clause) : Bool := c.optional && c.holds post

theorem foldl_tallyNext (post : Post) (cs : List Clause) (t : Bool × Nat) :
    cs.foldl (tallyNext post) t =
      (t.1 && !cs.any (misses post), t.2 + cs.countP (hits post)) := by
  induction cs generalizing t with
  | nil => simp
  | cons c rest ih =>
    rw [List.foldl_cons, ih, tallyNext, List.any_cons, List.countP_cons, misses, hits]
    cases c.optional with
    | true =>
      cases c.holds post with
      | true => simp [Nat.add_assoc, Nat.add_comm 1]
      | false => simp
    | false => cases c.holds post <;> simp

theorem optionalHits_eq (post : Post) (n : Nat) (cs : List Clause) :
    optionalHits post n cs =
      if cs.any (misses post) then none else some (n + cs.countP (hits post)) := by
  induction cs generalizing n with
  | nil => simp [optionalHits]
  | cons c rest ih =>
    rw [optionalHits, List.any_cons, List.countP_cons, misses, hits]
    cases c.optional with
    | true =>
      cases c.holds post with
      | true => simp [ih, Nat.add_assoc, Nat.add_comm 1]
      | false => simp [ih]
    | false => cases c.holds post <;> simp [ih]

theorem evaluate_eq_evaluateFully (line : Line) (post : Post) :
    line.evaluate post = line.evaluateFully post := by
  rw [evaluate, optionalHits_eq, evaluateFully, tally, foldl_tallyNext]
  cases line.clauses.any (misses post) <;> simp

def Counted (line : Line) : Prop := line.optionalCount = line.clauses.countP (·.optional)

theorem counted_compile (text : String) (enabled : Bool) (ex : Exemptions) :
    (compile text enabled ex).Counted := rfl

theorem Counted.evaluate_iff {line : Line} (h : line.Counted) (post : Post) :
    line.evaluate post = true ↔
      (∀ c ∈ line.clauses, c.optional = false → c.holds post = true) ∧
      ((∀ c ∈ line.clauses, c.optional = false) ∨
        ∃ c ∈ line.clauses, c.optional = true ∧ c.holds post = true) := by
  rw [evaluate_eq_evaluateFully, evaluateFully, tally, foldl_tallyNext, h]
  simp [misses, hits, List.countP_pos_iff]

theorem Counted.not_evaluate {line : Line} (h : line.Counted) {post : Post} {c : Clause}
    (hc : c ∈ line.clauses) (hreq : c.optional = false) (hfail : c.holds post = false) :
    line.evaluate post = false := by
  rw [Bool.eq_false_iff]
  intro he
  have hholds := ((h.evaluate_iff post).1 he).1 c hc hreq
  rw [hfail] at hholds
  cases hholds

theorem mem_ownClauses {text : String} {c : Clause} :
    c ∈ ownClauses text ↔ ∃ t ∈ words text, Clause.parse t = c := by
  rw [ownClauses, List.mem_map]
  simp only [List.mem_eraseDups]

theorem mem_clauses_compile {text : String} {enabled : Bool} {ex : Exemptions} {c : Clause} :
    c ∈ (compile text enabled ex).clauses ↔
      c ∈ ex.clauses ∨ ∃ t ∈ words (lowercase text), Clause.parse t = c := by
  rw [compile, List.mem_append, mem_ownClauses, words_normalize]

theorem evaluate_compile_iff (text : String) (enabled : Bool) (ex : Exemptions) (post : Post) :
    (compile text enabled ex).evaluate post = true ↔
      (∀ c ∈ ex.clauses, c.holds post = true) ∧
      (∀ t ∈ words (lowercase text), ¬ Clause.Marked t → (Clause.parse t).holds post = true) ∧
      ((∀ t ∈ words (lowercase text), ¬ Clause.Marked t) ∨
        ∃ t ∈ words (lowercase text), Clause.Marked t ∧ (Clause.parse t).holds post = true) := by
  have hmark : ∀ t ∈ words (lowercase text), (Clause.parse t).optional = true ↔ Clause.Marked t :=
    fun t ht => Clause.optional_parse_iff (Text.of_mem_words ht).2
  have hplain : ∀ t ∈ words (lowercase text),
      (Clause.parse t).optional = false ↔ ¬ Clause.Marked t := by
    intro t ht
    rw [← hmark t ht, Bool.not_eq_true]
  rw [(counted_compile text enabled ex).evaluate_iff]
  simp only [mem_clauses_compile]
  constructor
  · rintro ⟨hreq, hopt⟩
    refine ⟨fun c hc => hreq c (Or.inl hc) (Exemptions.optional_of_mem_clauses hc),
      fun t ht hm => hreq _ (Or.inr ⟨t, ht, rfl⟩) ((hplain t ht).2 hm), ?_⟩
    rcases hopt with hnone | ⟨c, hc | ⟨t, ht, rfl⟩, hc', hh⟩
    · exact Or.inl fun t ht => (hplain t ht).1 (hnone _ (Or.inr ⟨t, ht, rfl⟩))
    · rw [Exemptions.optional_of_mem_clauses hc] at hc'
      cases hc'
    · exact Or.inr ⟨t, ht, (hmark t ht).1 hc', hh⟩
  · rintro ⟨hex, hreq, hopt⟩
    refine ⟨?_, ?_⟩
    · rintro c (hc | ⟨t, ht, rfl⟩) hc'
      · exact hex c hc
      · exact hreq t ht ((hplain t ht).1 hc')
    · rcases hopt with hnone | ⟨t, ht, hm, hh⟩
      · refine Or.inl ?_
        rintro c (hc | ⟨t, ht, rfl⟩)
        · exact Exemptions.optional_of_mem_clauses hc
        · exact (hplain t ht).2 (hnone t ht)
      · exact Or.inr ⟨_, Or.inr ⟨t, ht, rfl⟩, (hmark t ht).2 hm, hh⟩

/-- A line is what its set of tokens says, under the exemptions that it was compiled with. -/
theorem evaluate_iff_tokens (text : String) (enabled : Bool) (ex : Exemptions) (post : Post) :
    ((compile text enabled ex).evaluate post = true ↔
      (∀ c ∈ ex.clauses, c.holds post = true) ∧
      (∀ t ∈ words (lowercase text), ¬ Clause.Marked t → (Clause.parse t).holds post = true) ∧
      ((∀ t ∈ words (lowercase text), ¬ Clause.Marked t) ∨
        ∃ t ∈ words (lowercase text), Clause.Marked t ∧ (Clause.parse t).holds post = true)) ∧
    (∀ (other : String) (enabled' : Bool),
      (∀ t, t ∈ words (lowercase other) ↔ t ∈ words (lowercase text)) →
      (compile other enabled' ex).evaluate post = (compile text enabled ex).evaluate post) ∧
    (compile text enabled ex).evaluate post = (compile text enabled ex).evaluateFully post := by
  refine ⟨evaluate_compile_iff text enabled ex post, fun other enabled' hsame => ?_,
    evaluate_eq_evaluateFully _ post⟩
  rw [Bool.eq_iff_iff, evaluate_compile_iff, evaluate_compile_iff]
  simp only [hsame]

theorem evaluate_iff_tokens_of_spellings :
    let post : Post := { id := 7, tags := .ofFlat "duo gore" }
    (∀ t, t ∈ words (lowercase " ~gore\u00a0DUO \u3000~solo duo") ↔
      t ∈ words (lowercase "duo ~Solo ~gore")) ∧
    (compile " ~gore\u00a0DUO \u3000~solo duo" true { favorites := true }).evaluate post =
      (compile "duo ~Solo ~gore" false { favorites := true }).evaluate post := by
  intro post
  have hfirst : words (lowercase " ~gore\u00a0DUO \u3000~solo duo") =
      ["~gore", "duo", "~solo", "duo"] := by decide +kernel
  have hsecond : words (lowercase "duo ~Solo ~gore") = ["duo", "~solo", "~gore"] := by
    decide +kernel
  have hsame : ∀ t, t ∈ words (lowercase " ~gore\u00a0DUO \u3000~solo duo") ↔
      t ∈ words (lowercase "duo ~Solo ~gore") := by
    intro t
    rw [hfirst, hsecond]
    simp only [List.mem_cons, List.not_mem_nil, or_false]
    constructor
    · rintro (h | h | h | h) <;> simp [h]
    · rintro (h | h | h) <;> simp [h]
  exact ⟨hsame,
    (evaluate_iff_tokens "duo ~Solo ~gore" false { favorites := true } post).2.1 _ true hsame⟩

end Line

end BoardFilter
