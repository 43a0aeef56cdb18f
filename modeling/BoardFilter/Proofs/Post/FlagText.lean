import BoardFilter.Json.Decode
import BoardFilter.Post.Flags
import BoardFilter.Proofs.Clause.Splitting
import BoardFilter.Proofs.Number.Numeral
import BoardFilter.Proofs.Text.Respelling
import Mathlib.Data.Bool.AllAny

/-!
# The text of flags

Flags are written part by part, and each part is read back as the bits that it stands for. Together
they are all bits of the flags, those without a name included.
-/

namespace BoardFilter

namespace Flags

open Text (trimmed isBlank)

theorem union_none (flags : Flags) : union none flags = flags := by
  rw [union, none, UInt8.zero_or]

theorem union_assoc (a b c : Flags) : union (union a b) c = union a (union b c) := by
  rw [union, union, union, union, UInt8.or_assoc]

theorem and_or (b x y : UInt8) : b &&& (x ||| y) = (b &&& x) ||| (b &&& y) := by
  apply UInt8.toBitVec_inj.1
  ext i hi
  simp [Bool.and_or_distrib_left]

theorem and_bit (flags : Flags) (f : Flag) :
    flags.bits &&& f.bit = if flags.has f then f.bit else 0 := by
  have hbit : ∀ b : BitVec 8, (⟨b⟩ : UInt8) &&& f.bit = 0 ∨ (⟨b⟩ : UInt8) &&& f.bit = f.bit := by
    cases f <;> decide +kernel
  rw [has]
  rcases hbit flags.bits.toBitVec with h | h
  · simp [h]
  · have hne : f.bit ≠ 0 := by cases f <;> decide
    simp [h, hne]

theorem foldl_union_filter (flags : Flags) (fs : List Flag) (start : Flags) (bits : UInt8) :
    ((fs.filter flags.has).map fun f => (⟨f.bit⟩ : Flags)).foldl union
        (union start ⟨flags.bits &&& bits⟩) =
      union start ⟨flags.bits &&& fs.foldl (fun b f => b ||| f.bit) bits⟩ := by
  induction fs generalizing bits with
  | nil => rfl
  | cons f fs ih =>
    rw [List.foldl_cons, ← ih, and_or, and_bit]
    cases hf : flags.has f with
    | true =>
      rw [List.filter_cons_of_pos hf, List.map_cons, List.foldl_cons, union_assoc]
      rfl
    | false =>
      rw [List.filter_cons_of_neg (by simp [hf]), if_neg Bool.false_ne_true, UInt8.or_zero]

def values (flags : Flags) : List Flags :=
  (Flag.all.filter flags.has).map (fun f => ⟨f.bit⟩) ++
    if flags.bits &&& ~~~named = 0 then [] else [⟨flags.bits &&& ~~~named⟩]

theorem foldl_values (flags : Flags) : flags.values.foldl union none = flags := by
  have hnamed : ((Flag.all.filter flags.has).map fun f => (⟨f.bit⟩ : Flags)).foldl union none =
      ⟨flags.bits &&& named⟩ := by
    have hfold := foldl_union_filter flags Flag.all none 0
    rwa [UInt8.and_zero, union_none, union_none] at hfold
  -- The bits without a name have one part in common, if any of them is set.
  have hall : (flags.bits &&& named) ||| (flags.bits &&& ~~~named) = flags.bits := by
    have hfull : named ||| ~~~named = -1 := by decide
    rw [← and_or, hfull, UInt8.and_neg_one]
  rw [values, List.foldl_append, hnamed]
  split
  · next hzero =>
    rw [hzero, UInt8.or_zero] at hall
    rw [List.foldl_nil, hall]
  · rw [List.foldl_cons, List.foldl_nil, union, hall]

theorem hexDigitsValue?_append {s : List Char} {n d : Nat} (hs : hexDigitsValue? s = some n)
    (hd : d < 16) : hexDigitsValue? (s ++ [Nat.digitChar d]) = some (n * 16 + d) := by
  have hdigit : ∀ d < 16, ((Nat.digitChar d).isDigit = true ∧
        (Nat.digitChar d).toNat - '0'.toNat = d) ∨
      ((Nat.digitChar d).isDigit = false ∧
        ('a' ≤ (Nat.digitChar d).toLower ∧ (Nat.digitChar d).toLower ≤ 'f') ∧
        (Nat.digitChar d).toLower.toNat - 'a'.toNat + 10 = d) := by decide
  rw [hexDigitsValue?] at hs ⊢
  rw [List.foldlM_append, hs]
  rcases hdigit d hd with ⟨hdecimal, hvalue⟩ | ⟨hletter, hrange, hvalue⟩
  · simpa [hdecimal] using hvalue
  · simpa [hletter, hrange] using hvalue

theorem hexDigitsValue?_toDigits (n : Nat) : hexDigitsValue? (Nat.toDigits 16 n) = some n := by
  induction n using Nat.strong_induction_on with
  | _ n ih =>
    by_cases hlt : n < 16
    · have hone := hexDigitsValue?_append (s := []) rfl hlt
      rwa [List.nil_append, Nat.zero_mul, Nat.zero_add, ← Nat.toDigits_of_lt_base hlt] at hone
    · have hmore := hexDigitsValue?_append (ih (n / 16) (by omega)) (Nat.mod_lt n (by decide))
      rwa [← Nat.toDigits_of_base_le (by decide) (Nat.not_lt.1 hlt), Nat.div_add_mod'] at hmore

theorem ofHex?_toDigits (bits : UInt8) : ofHex? (Nat.toDigits 16 bits.toNat) = some ⟨bits⟩ := by
  have hdigits := hexDigitsValue?_toDigits bits.toNat
  have hsign : ∀ r, Nat.toDigits 16 bits.toNat ≠ '+' :: r := by
    intro r h
    obtain ⟨d, hd, heq⟩ := exists_digitChar_of_mem_toDigits (b := 16) (n := bits.toNat) (c := '+')
      (by decide) (by rw [h]; exact List.mem_cons_self)
    have hplus : ∀ d < 16, Nat.digitChar d ≠ '+' := by decide
    exact hplus d hd heq.symm
  have hsome : (Nat.toDigits 16 bits.toNat).isEmpty = false :=
    List.isEmpty_eq_false_iff.2 Nat.toDigits_ne_nil
  rw [ofHex?]
  · simp only [hsome, hdigits, Option.bind_some, if_pos (UInt8.toNat_lt bits), Bool.false_eq_true,
      ↓reduceIte, Nat.toUInt8_eq, UInt8.ofNat_toNat]
  · exact hsign

theorem toList_hexText (bits : UInt8) :
    (hexText bits).toList = "0x".toList ++ Nat.toDigits 16 bits.toNat := by
  simp only [hexText, String.toList_append, String.toList_ofList]

theorem ofPart?_hexText (bits : UInt8) : ofPart? (hexText bits).toList = some ⟨bits⟩ := by
  rw [toList_hexText, ofPart?, Text.dropLead?_append]
  exact ofHex?_toDigits bits

theorem ofPart?_label (f : Flag) : ofPart? f.label.toList = some ⟨f.bit⟩ := by
  cases f <;> decide +kernel

theorem map_ofPart?_parts (flags : Flags) :
    (flags.parts.map String.toList).map ofPart? = flags.values.map some := by
  rw [parts, values]
  simp only [List.map_append, List.map_map]
  congr 1
  · exact List.map_congr_left fun f _ => ofPart?_label f
  · split
    · rfl
    · simp [ofPart?_hexText]

theorem mem_parts {flags : Flags} {part : String} (h : part ∈ flags.parts) :
    part.toList ≠ [] ∧ ∀ c ∈ part.toList, isBlank c = false ∧ (c == '|') = false := by
  rcases List.mem_append.1 h with h | h
  · obtain ⟨f, -, rfl⟩ := List.mem_map.1 h
    refine ⟨?_, List.all_iff_forall_prop.1 ?_⟩
    · cases f <;> decide
    · cases f <;> decide +kernel
  · split at h
    · cases h
    · obtain rfl := List.mem_singleton.1 h
      have hlead : ∀ c ∈ "0x".toList, isBlank c = false ∧ (c == '|') = false :=
        List.all_iff_forall_prop.1 (by decide)
      have hdigit : ∀ d < 16,
          isBlank (Nat.digitChar d) = false ∧ (Nat.digitChar d == '|') = false := by decide
      rw [toList_hexText]
      refine ⟨by simp, fun c hc => ?_⟩
      rcases List.mem_append.1 hc with hc | hc
      · exact hlead c hc
      · obtain ⟨d, hd, rfl⟩ := exists_digitChar_of_mem_toDigits (b := 16) (by decide) hc
        exact hdigit d hd

theorem exists_intercalate_cons (s w : List Char) (ws : List (List Char)) :
    ∃ t, s.intercalate (w :: ws) = w ++ t := by
  cases ws with
  | nil => exact ⟨[], by rw [List.intercalate_singleton, List.append_nil]⟩
  | cons v ws =>
    exact ⟨s ++ s.intercalate (v :: ws), by rw [List.intercalate_cons_cons, List.append_assoc]⟩

theorem map_trimmed_splitOnP {ws : List (List Char)} (hne : ws ≠ [])
    (h : ∀ w ∈ ws, ∀ c ∈ w, isBlank c = false ∧ (c == '|') = false) :
    (([' ', '|', ' '].intercalate ws).splitOnP (· == '|')).map trimmed = ws := by
  induction ws with
  | nil => exact absurd rfl hne
  | cons w rest ih =>
    have hw := h w List.mem_cons_self
    cases rest with
    | nil =>
      rw [List.intercalate_singleton, List.splitOnP_eq_singleton fun c hc => (hw c hc).2,
        List.map_singleton, Text.trimmed_of_no_blank fun c hc => (hw c hc).1]
    | cons v rest =>
      have hrest := ih (List.cons_ne_nil v rest) fun u hu => h u (List.mem_cons_of_mem w hu)
      have htext : [' ', '|', ' '].intercalate (w :: v :: rest) =
          (w ++ [' ']) ++ '|' :: ([' '] ++ [' ', '|', ' '].intercalate (v :: rest)) := by
        simp
      have hfirst : (w ++ [' ']).splitOnP (· == '|') = [w ++ [' ']] := by
        refine List.splitOnP_eq_singleton fun c hc => ?_
        rcases List.mem_append.1 hc with hc | hc
        · exact (hw c hc).2
        · rw [List.mem_singleton.1 hc]
          rfl
      obtain ⟨ws, hws⟩ := Text.exists_splitOnP (· == '|')
        ([' ', '|', ' '].intercalate (v :: rest))
      have hblank : ∀ c ∈ [' '], isBlank c = true := List.forall_mem_singleton.2 (by decide)
      have hbar : ∀ c ∈ [' '], (c == '|') = false := List.forall_mem_singleton.2 (by decide)
      have hsecond := Text.splitOnP_append_piece hbar hws
      rw [hws, List.map_cons] at hrest
      rw [htext, List.splitOnP_append_cons _ _ (by rfl), hfirst, hsecond, List.singleton_append,
        List.map_cons, List.map_cons, Text.trimmed_append_blanks hblank,
        Text.trimmed_blanks_append hblank, hrest, Text.trimmed_of_no_blank fun c hc => (hw c hc).1]

theorem parts_eq_nil_iff {flags : Flags} : flags.parts = [] ↔ flags.values = [] := by
  rw [← List.map_eq_nil_iff (f := String.toList), ← List.map_eq_nil_iff (f := ofPart?),
    map_ofPart?_parts, List.map_eq_nil_iff]

/-- Every pattern of bits is read back from its text. -/
theorem ofText?_toText (flags : Flags) : ofText? flags.toText = some flags := by
  have hchars :
      flags.toText.toList = [' ', '|', ' '].intercalate (flags.parts.map String.toList) := by
    rw [toText, String.toList_intercalate]
    rfl
  have hparts : ∀ w ∈ flags.parts.map String.toList, w ≠ [] ∧
      ∀ c ∈ w, isBlank c = false ∧ (c == '|') = false := by
    intro w hw
    obtain ⟨part, hpart, rfl⟩ := List.mem_map.1 hw
    exact mem_parts hpart
  have hunited := foldl_values flags
  by_cases hnil : flags.parts = []
  · rw [parts_eq_nil_iff.1 hnil, List.foldl_nil] at hunited
    rw [toText, hnil, ← hunited]
    rfl
  · have hne : flags.parts.map String.toList ≠ [] := fun h => hnil (List.map_eq_nil_iff.1 h)
    have hpieces := map_trimmed_splitOnP hne fun w hw => (hparts w hw).2
    have hblank : Text.isBlankText flags.toText = false := by
      obtain ⟨w, ws, hws⟩ := List.exists_cons_of_ne_nil hne
      rw [hws] at hparts hchars
      obtain ⟨hw, hchar⟩ := hparts w List.mem_cons_self
      obtain ⟨c, r, rfl⟩ := List.exists_cons_of_ne_nil hw
      obtain ⟨t, ht⟩ := exists_intercalate_cons [' ', '|', ' '] (c :: r) ws
      rw [Text.isBlankText, hchars, ht, List.cons_append, List.all_cons,
        (hchar c List.mem_cons_self).1, Bool.false_and]
    have hread : (flags.toText.toList.splitOnP (· == '|')).mapM (fun p => ofPart? (trimmed p)) =
        some flags.values := by
      rw [Json.mapM_eq_some_iff, ← map_ofPart?_parts, hchars]
      conv_rhs => rw [← hpieces, List.map_map]
      rfl
    rw [ofText?, hblank, if_neg Bool.false_ne_true, hread, Option.map_some, hunited]

end Flags

end BoardFilter
