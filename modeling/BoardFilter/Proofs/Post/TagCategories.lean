import BoardFilter.Post.Tags
import BoardFilter.Proofs.Text.Words
import Mathlib.Algebra.Ring.Nat
import Mathlib.Data.List.Nodup

/-!
# Tags by category

Tags are kept twice: in one list for each category, and together in one set. A tag that is pushed
goes into both or into neither, so the two agree after any number of tags in any groups, and a tag
stands where it was first given. The words of a text have no category; joining tags and reading them
as words gives the same set.
-/

namespace BoardFilter

theorem Category.index_inj {c d : Category} : c.index = d.index ↔ c = d := by
  cases c <;> cases d <;> decide

theorem Category.mem_all (c : Category) : c ∈ Category.all := by cases c <;> decide

theorem Category.nodup_all : Category.all.Nodup := by decide

namespace Tags

variable {tags : Tags} {c d : Category} {tag : String}

structure InStep (tags : Tags) : Prop where
  nodup : ∀ c, (tags.category c).Nodup
  disjoint : ∀ c d, c ≠ d → (tags.category c).Disjoint (tags.category d)
  nodup_all : tags.all.Nodup
  mem_all : ∀ tag, tag ∈ tags.all ↔ ∃ c, tag ∈ tags.category c

theorem InStep.perm (h : tags.InStep) : (Category.all.flatMap tags.category).Perm tags.all := by
  have hnodup : (Category.all.flatMap tags.category).Nodup :=
    List.nodup_flatMap.2
      ⟨fun c _ => h.nodup c, Category.nodup_all.imp fun hne => h.disjoint _ _ hne⟩
  rw [List.perm_ext_iff_of_nodup hnodup h.nodup_all]
  intro tag
  rw [List.mem_flatMap, h.mem_all]
  exact ⟨fun ⟨c, _, hc⟩ => ⟨c, hc⟩, fun ⟨c, hc⟩ => ⟨c, c.mem_all, hc⟩⟩

theorem InStep.sum_length (h : tags.InStep) :
    (Category.all.map fun c => (tags.category c).length).sum = tags.size := by
  rw [← List.length_flatMap, h.perm.length_eq, size]

theorem push_of_mem (h : tag ∈ tags.all) (c : Category) : tags.push c tag = tags := by
  rw [push, contains, if_pos (by simpa using h)]

theorem all_push (h : tag ∉ tags.all) (c : Category) :
    (tags.push c tag).all = tags.all ++ [tag] := by
  rw [push, contains, if_neg (by simpa using h)]

theorem category_push (h : tag ∉ tags.all) (c d : Category) :
    (tags.push c tag).category d =
      if c = d then tags.category d ++ [tag] else tags.category d := by
  rw [push, contains, if_neg (by simpa using h)]
  by_cases hcd : c = d
  · rw [if_pos hcd, hcd]
    simp [category]
  · have hne : (c.index : Nat) ≠ d.index := fun hval =>
      hcd (Category.index_inj.1 (Fin.ext hval))
    rw [if_neg hcd]
    simp [category, hne]

theorem resolved_push (tags : Tags) (c : Category) (tag : String) :
    (tags.push c tag).resolved = tags.resolved := by
  unfold push
  split <;> rfl

def firstCategory? (given : List (Category × String)) (tag : String) : Option Category :=
  (given.find? (·.2 = tag)).map (·.1)

section

variable {given : List (Category × String)}

theorem firstCategory?_eq_none_iff : firstCategory? given tag = none ↔ tag ∉ given.map (·.2) := by
  rw [firstCategory?, Option.map_eq_none_iff, List.find?_eq_none, List.mem_map, not_exists]
  simp only [decide_eq_true_eq, not_and]

theorem firstCategory?_append (given more : List (Category × String)) (tag : String) :
    firstCategory? (given ++ more) tag =
      (firstCategory? given tag).or (firstCategory? more tag) := by
  rw [firstCategory?, List.find?_append, Option.map_or, firstCategory?, firstCategory?]

theorem firstCategory?_group (c : Category) (ts : List String) (tag : String) :
    firstCategory? (ts.map (c, ·)) tag = if tag ∈ ts then some c else none := by
  induction ts with
  | nil => rfl
  | cons t rest ih =>
    rw [← List.singleton_append, List.map_append, firstCategory?_append, ih]
    by_cases ht : t = tag
    · simp [firstCategory?, ht]
    · simp [firstCategory?, ht, Ne.symm ht]

theorem firstCategory?_single (c : Category) (tag other : String) :
    firstCategory? [(c, tag)] other = if other = tag then some c else none := by
  have hgroup := firstCategory?_group c [tag] other
  simpa only [List.map_singleton, List.mem_singleton] using hgroup

/-- The tags are those that were given, each in its first category, in the order of their first
places. -/
structure Holds (tags : Tags) (given : List (Category × String)) : Prop where
  nodup : tags.all.Nodup
  mem_all : ∀ tag, tag ∈ tags.all ↔ tag ∈ given.map (·.2)
  mem_category : ∀ c tag, tag ∈ tags.category c ↔ firstCategory? given tag = some c
  ordered : ∀ c, (tags.category c).Pairwise fun a b =>
    (given.map (·.2)).idxOf a < (given.map (·.2)).idxOf b

theorem holds_empty (resolved : Bool) : (empty resolved).Holds [] := by
  have hnone : ∀ c, (empty resolved).category c = [] := fun c => by simp [empty, category]
  exact ⟨List.nodup_nil, by simp [empty], by simp [hnone, firstCategory?], by simp [hnone]⟩

variable (h : tags.Holds given)

include h

theorem Holds.mem_given (hc : tag ∈ tags.category c) : tag ∈ given.map (·.2) := by
  rw [h.mem_category] at hc
  by_contra hnot
  rw [firstCategory?_eq_none_iff.2 hnot] at hc
  cases hc

theorem Holds.ordered_append (c : Category) (next : Category × String) :
    (tags.category c).Pairwise fun a b =>
      ((given ++ [next]).map (·.2)).idxOf a < ((given ++ [next]).map (·.2)).idxOf b := by
  apply (h.ordered c).imp_of_mem
  intro a b ha hb hab
  rwa [List.map_append, List.idxOf_append_of_mem (h.mem_given ha),
    List.idxOf_append_of_mem (h.mem_given hb)]

theorem Holds.push_of_mem (hold : tag ∈ tags.all) (c : Category) :
    tags.Holds (given ++ [(c, tag)]) := by
  have hgiven := (h.mem_all tag).1 hold
  refine ⟨h.nodup, fun t => ?_, fun d t => ?_, fun d => h.ordered_append d _⟩
  · rw [h.mem_all, List.map_append, List.mem_append, List.map_singleton, List.mem_singleton]
    exact ⟨Or.inl, fun ht => ht.elim id fun heq => heq ▸ hgiven⟩
  · rw [h.mem_category, firstCategory?_append]
    cases hfirst : firstCategory? given t with
    | some e => rw [Option.some_or]
    | none =>
      have hne : t ≠ tag := fun heq => firstCategory?_eq_none_iff.1 hfirst (heq ▸ hgiven)
      rw [firstCategory?_single, if_neg hne, Option.or_none]

theorem Holds.push_of_not_mem (hnew : tag ∉ tags.all) (c : Category) :
    (tags.push c tag).Holds (given ++ [(c, tag)]) := by
  have hgiven : tag ∉ given.map (·.2) := fun hmem => hnew ((h.mem_all tag).2 hmem)
  refine ⟨?_, fun t => ?_, fun d t => ?_, fun d => ?_⟩
  · rw [all_push hnew]
    rw [← List.concat_eq_append]
    exact h.nodup.concat hnew
  · rw [all_push hnew, List.mem_append, h.mem_all, List.map_append, List.mem_append]
    rfl
  · rw [category_push hnew, firstCategory?_append, firstCategory?_single]
    by_cases ht : t = tag
    · subst ht
      have hout : t ∉ tags.category d := fun hmem => hgiven (h.mem_given hmem)
      rw [firstCategory?_eq_none_iff.2 hgiven, Option.none_or, if_pos rfl, Option.some.injEq]
      split
      · next hcd => simp [hcd]
      · next hcd => exact iff_of_false hout hcd
    · rw [if_neg ht, Option.or_none, ← h.mem_category]
      split
      · simp [ht]
      · rfl
  · rw [category_push hnew]
    split
    · -- the new tag comes after all that were given before
      rw [List.pairwise_append]
      refine ⟨h.ordered_append d _, List.pairwise_singleton _ _, fun a ha b hb => ?_⟩
      rw [List.mem_singleton.1 hb, List.map_append, List.idxOf_append_of_mem (h.mem_given ha),
        List.idxOf_append_of_notMem hgiven]
      exact Nat.lt_add_right _ (List.idxOf_lt_length_iff.2 (h.mem_given ha))
    · exact h.ordered_append d _

theorem Holds.push (c : Category) (tag : String) :
    (tags.push c tag).Holds (given ++ [(c, tag)]) := by
  by_cases hold : tag ∈ tags.all
  · rw [Tags.push_of_mem hold]
    exact h.push_of_mem hold c
  · exact h.push_of_not_mem hold c

theorem Holds.inStep : tags.InStep where
  nodup c := by
    refine (h.ordered c).imp ?_
    rintro a b hlt rfl
    exact Nat.lt_irrefl _ hlt
  disjoint c d hne tag hc hd := by
    rw [h.mem_category] at hc hd
    exact hne (Option.some.inj (hc.symm.trans hd))
  nodup_all := h.nodup
  mem_all tag := by
    simp only [h.mem_category, h.mem_all, ← Option.isSome_iff_exists, Option.isSome_iff_ne_none,
      ne_eq, firstCategory?_eq_none_iff, not_not]

end

def pushAll (tags : Tags) (given : List (Category × String)) : Tags :=
  given.foldl (fun tags g => tags.push g.1 g.2) tags

theorem Holds.pushAll {given : List (Category × String)} (h : tags.Holds given)
    (more : List (Category × String)) : (tags.pushAll more).Holds (given ++ more) := by
  induction more generalizing tags given with
  | nil => rwa [List.append_nil]
  | cons g rest ih =>
    have hrest := ih (h.push g.1 g.2)
    rwa [List.append_assoc] at hrest

theorem resolved_pushAll (tags : Tags) (given : List (Category × String)) :
    (tags.pushAll given).resolved = tags.resolved := by
  induction given generalizing tags with
  | nil => rfl
  | cons g rest ih => exact (ih (tags.push g.1 g.2)).trans (resolved_push tags g.1 g.2)

def ungrouped (groups : List (Category × List String)) : List (Category × String) :=
  groups.flatMap fun g => g.2.map (g.1, ·)

theorem map_snd_ungrouped (groups : List (Category × List String)) :
    (ungrouped groups).map (·.2) = groups.flatMap (·.2) := by
  simp [ungrouped, List.map_flatMap, Function.comp_def]

theorem ofGroups_eq (groups : List (Category × List String)) :
    ofGroups groups = (empty true).pushAll (ungrouped groups) := by
  rw [ofGroups, pushAll, ungrouped, List.foldl_flatMap]
  simp only [List.foldl_map]

theorem holds_ofGroups (groups : List (Category × List String)) :
    (ofGroups groups).Holds (ungrouped groups) := by
  rw [ofGroups_eq]
  exact (holds_empty true).pushAll (ungrouped groups)

theorem firstCategory?_ungrouped (groups : List (Category × List String)) (tag : String) :
    firstCategory? (ungrouped groups) tag = (groups.find? (tag ∈ ·.2)).map (·.1) := by
  induction groups with
  | nil => rfl
  | cons g rest ih =>
    rw [ungrouped, List.flatMap_cons, firstCategory?_append, firstCategory?_group, List.find?_cons]
    by_cases hmem : tag ∈ g.2
    · simp [hmem]
    · simpa [hmem, ungrouped] using ih

def flatWords (s : String) : List (Category × String) :=
  ((Text.words s).map Text.lowercase).map (.general, ·)

theorem ofFlat_eq (s : String) : ofFlat s = (empty false).pushAll (flatWords s) := by
  rw [ofFlat, pushAll, flatWords, List.foldl_map (f := (Category.general, ·))]

theorem holds_ofFlat (s : String) : (ofFlat s).Holds (flatWords s) := by
  rw [ofFlat_eq]
  exact (holds_empty false).pushAll (flatWords s)

theorem mem_ofFlat {s tag : String} :
    tag ∈ (ofFlat s).all ↔ ∃ w ∈ Text.words s, Text.lowercase w = tag := by
  rw [(holds_ofFlat s).mem_all, flatWords, List.map_map, List.mem_map]
  simp only [Function.comp_apply, List.mem_map, exists_exists_and_eq_and]

theorem mem_category_ofFlat {s tag : String} {c : Category} :
    tag ∈ (ofFlat s).category c ↔ c = .general ∧ tag ∈ (ofFlat s).all := by
  rw [(holds_ofFlat s).mem_category, flatWords, firstCategory?_group, mem_ofFlat, ← List.mem_map]
  split
  · next hmem => simp [hmem, eq_comm]
  · next hmem => simp [hmem]

theorem count?_of_resolved {tags : Tags} (h : tags.resolved = true) :
    tags.count? = fun c => some (tags.category c).length := by
  funext c
  rw [count?, if_pos h]

def IsPlain (tag : String) : Prop :=
  tag ≠ "" ∧ (∀ c ∈ tag.toList, Text.isBlank c = false) ∧ Text.lowercase tag = tag

theorem InStep.mem_ofFlat_joined {tags : Tags} (h : tags.InStep)
    (hplain : ∀ tag ∈ tags.all, IsPlain tag) (tag : String) :
    tag ∈ (ofFlat tags.joined).all ↔ tag ∈ tags.all := by
  have hall : ∀ t, t ∈ Category.all.flatMap tags.category ↔ t ∈ tags.all := fun t => h.perm.mem_iff
  have hwords : Text.words tags.joined = Category.all.flatMap tags.category :=
    Text.words_intercalate fun t ht =>
      ⟨(hplain t ((hall t).1 ht)).1, (hplain t ((hall t).1 ht)).2.1⟩
  rw [mem_ofFlat, hwords]
  simp only [hall]
  constructor
  · rintro ⟨t, ht, rfl⟩
    rwa [(hplain t ht).2.2]
  · exact fun ht => ⟨tag, ht, (hplain tag ht).2.2⟩

/-- Grouped tags stand once each, in the category and the order of their first places, and the
counts of the categories add up; the words of a text are general tags without counts; and joining
plain tags loses none of them. -/
theorem categories_in_step :
    (∀ groups : List (Category × List String),
      (ofGroups groups).InStep ∧
      (∀ tag, tag ∈ (ofGroups groups).all ↔ tag ∈ groups.flatMap (·.2)) ∧
      (∀ c tag, tag ∈ (ofGroups groups).category c ↔
        (groups.find? (tag ∈ ·.2)).map (·.1) = some c) ∧
      (∀ c, ((ofGroups groups).category c).Pairwise fun a b =>
        (groups.flatMap (·.2)).idxOf a < (groups.flatMap (·.2)).idxOf b) ∧
      ∃ counts : List Nat, Category.all.map (ofGroups groups).count? = counts.map some ∧
        counts.sum = (ofGroups groups).size) ∧
    (∀ s : String,
      (ofFlat s).InStep ∧
      (∀ tag, tag ∈ (ofFlat s).all ↔ ∃ w ∈ Text.words s, Text.lowercase w = tag) ∧
      (∀ c tag, tag ∈ (ofFlat s).category c ↔ c = .general ∧ tag ∈ (ofFlat s).all) ∧
      ∀ c, (ofFlat s).count? c = none) ∧
    ∀ tags : Tags, tags.InStep → (∀ tag ∈ tags.all, IsPlain tag) →
      ∀ tag, tag ∈ (ofFlat tags.joined).all ↔ tag ∈ tags.all := by
  refine ⟨fun groups => ?_, fun s => ?_, fun tags h hplain => h.mem_ofFlat_joined hplain⟩
  · have hholds := holds_ofGroups groups
    have hresolved : (ofGroups groups).resolved = true := by
      rw [ofGroups_eq, resolved_pushAll]
      rfl
    rw [← map_snd_ungrouped]
    refine ⟨hholds.inStep, hholds.mem_all, fun c tag => ?_, hholds.ordered,
      Category.all.map fun c => ((ofGroups groups).category c).length, ?_,
      hholds.inStep.sum_length⟩
    · rw [hholds.mem_category, firstCategory?_ungrouped]
    · rw [count?_of_resolved hresolved, List.map_map]
      rfl
  · have hresolved : (ofFlat s).resolved = false := by
      rw [ofFlat_eq, resolved_pushAll]
      rfl
    refine ⟨(holds_ofFlat s).inStep, fun tag => mem_ofFlat, fun c tag => mem_category_ofFlat,
      fun c => ?_⟩
    rw [count?, hresolved]
    rfl

theorem categories_in_step_of_three_groups :
    let groups : List (Category × List String) :=
      [(.general, ["solo", "duo"]), (.artist, ["duo", "someone"]), (.general, ["solo", "trio"])]
    ((ofGroups groups).InStep ∧ ∀ tag ∈ (ofGroups groups).all, IsPlain tag) ∧
      (ofGroups groups).joined = "someone solo duo trio" ∧
      ("duo" ∈ (ofFlat (ofGroups groups).joined).all ↔ "duo" ∈ (ofGroups groups).all) := by
  intro groups
  have hstep : (ofGroups groups).InStep := (categories_in_step.1 groups).1
  have hall : (ofGroups groups).all = ["solo", "duo", "someone", "trio"] := by decide
  have hplain : ∀ tag ∈ (ofGroups groups).all, IsPlain tag := by
    have hwords : (["solo", "duo", "someone", "trio"].all fun tag => tag != "" &&
        tag.toList.all (!Text.isBlank ·) && Text.lowercase tag == tag) = true := by decide
    intro tag htag
    rw [hall] at htag
    simpa [IsPlain, and_assoc] using List.all_eq_true.1 hwords tag htag
  exact ⟨⟨hstep, hplain⟩, by decide, categories_in_step.2.2 _ hstep hplain "duo"⟩

end Tags

end BoardFilter
