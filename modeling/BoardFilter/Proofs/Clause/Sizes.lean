import BoardFilter.Proofs.Clause.RoundTrip
import BoardFilter.Proofs.Clause.WholeNumbers
import BoardFilter.Proofs.Number.WholeText
import Mathlib.Data.Bool.AllAny

/-!
# Clauses of file sizes

A whole number of units that has at most `2 ^ 53` bytes is scaled, rounded and written out without
loss. So its clause is the one that is written in bytes, it compares sizes as whole numbers, and it
is read again from what it shows.
-/

namespace BoardFilter.Clause

/-- A whole number of a unit, or of bytes if no unit is written, that is exact in bytes. -/
structure WholeSize where
  count : Nat
  unit : String × Nat
  known : unit ∈ ("", 1) :: sizeUnits
  exact : count * unit.2 ≤ 2 ^ 53

namespace WholeSize

variable (size : WholeSize)

def bytes : Nat := size.count * size.unit.2

theorem bytes_le : size.bytes ≤ 2 ^ 53 := size.exact

def text : String := toString size.count ++ size.unit.1

def ofBytes (n : Nat) (h : n ≤ 2 ^ 53) : WholeSize :=
  ⟨n, ("", 1), by decide, (Nat.mul_one n).trans_le h⟩

theorem bytes_ofBytes {n : Nat} (h : n ≤ 2 ^ 53) : (ofBytes n h).bytes = n := Nat.mul_one n

theorem text_ofBytes {n : Nat} (h : n ≤ 2 ^ 53) : (ofBytes n h).text = toString n :=
  String.append_empty

theorem toList_text :
    size.text.toList = Nat.toDigits 10 size.count ++ size.unit.1.toList := by
  rw [text, String.toList_append, Nat.toString_eq_ofList_toDigits, String.toList_ofList]

theorem count_le : size.count ≤ 2 ^ 53 :=
  Nat.le_trans (Nat.le_mul_of_pos_right _ (of_mem_units size.known).2.1) size.exact

end WholeSize

section

variable {digits : List Char} (h : ∀ c ∈ digits, c.isDigit = true) {unit : String × Nat}
  (hunit : unit ∈ ("", 1) :: sizeUnits)

include h hunit

theorem isBlank_of_mem_size : ∀ c ∈ digits ++ unit.1.toList, Text.isBlank c = false := by
  have hletters : (("", 1) :: sizeUnits).all
      (fun u => u.1.toList.all (!Text.isBlank ·)) = true := by decide
  intro c hc
  rcases List.mem_append.1 hc with hc | hc
  · exact Text.isBlank_of_isDigit (h c hc)
  · have hletter := List.all_eq_true.1 (List.all_eq_true.1 hletters unit hunit) c hc
    rwa [Bool.not_eq_true'] at hletter

theorem size?_of_digits (hne : digits ≠ []) :
    size? (digits ++ unit.1.toList) =
      (number? digits).map fun x => (x.mul (.ofNat unit.2)).round := by
  obtain ⟨last, front, hback⟩ : ∃ last front, digits.reverse = last :: front :=
    List.exists_cons_of_ne_nil (by simpa using hne)
  have hlast : last.isDigit = true := h last (List.mem_reverse.1 (by simp [hback]))
  have hletter : ∀ c : Char, c.isDigit = false → (c == last) = false := by
    intro c hc
    rw [beq_eq_false_iff_ne]
    rintro rfl
    rw [hlast] at hc
    cases hc
  have hdigits : front.reverse ++ [last] = digits := by
    rw [← List.reverse_cons, ← hback, List.reverse_reverse]
  rw [size?, Text.trimmed_of_no_blank (isBlank_of_mem_size h hunit)]
  simp only [sizeUnits, List.mem_cons, List.not_mem_nil, or_false] at hunit
  rcases hunit with rfl | rfl | rfl | rfl | rfl
  all_goals
    simp [sizeUnits, Text.dropTail?, List.isPrefixOf?, hback, hletter, hdigits]

end

namespace WholeSize

variable (size other : WholeSize)

theorem isBlank_of_mem_text {c : Char} (h : c ∈ size.text.toList) : Text.isBlank c = false := by
  rw [toList_text] at h
  exact isBlank_of_mem_size (fun _ => isDigit_of_mem_toDigits) size.known c h

theorem size?_text : size? size.text.toList = some (.ofNat size.bytes) := by
  obtain ⟨-, -, hunit⟩ := of_mem_units size.known
  rw [toList_text, size?_of_digits (fun _ => isDigit_of_mem_toDigits) size.known
    Nat.toDigits_ne_nil, number?_toDigits, Option.map_some, Binary64.mul_ofNat size.count_le hunit,
    ← bytes, Binary64.round_ofNat size.bytes_le]

end WholeSize

theorem build_bytes {literal : List Char} {x : Binary64} (h : size? literal = some x)
    {comparison : Comparison} (hone : comparison ≠ .range) (inverted optional : Bool) :
    build .fileSize comparison literal inverted optional =
      ⟨.fileSize, comparison, NumeralStyle.plain.write x, .number x, inverted, optional⟩ := by
  have hoperand : operandOf .fileSize comparison literal = .number x :=
    operandOf_of_numeric? rfl (numeric?_eq_number_iff.2 ⟨hone, h⟩)
  rw [build, hoperand]
  rfl

theorem build_byteRange {literal a b : List Char} {x y : Binary64}
    (hparts : rangeParts literal = [a, b]) (ha : size? a = some x) (hb : size? b = some y)
    (inverted optional : Bool) :
    build .fileSize .range literal inverted optional =
      ⟨.fileSize, .range,
        NumeralStyle.plain.write (x.min y) ++ rangeMark ++ NumeralStyle.plain.write (x.max y),
        .range (x.min y) (x.max y), inverted, optional⟩ := by
  have hoperand : operandOf .fileSize .range literal = .range (x.min y) (x.max y) :=
    operandOf_of_numeric? rfl (numeric?_eq_range_iff.2
      ⟨rfl, a, b, x, y, rangeParts_eq_pair_iff.1 hparts, ha, hb, rfl, rfl⟩)
  rw [build, hoperand]
  rfl

def ofBytes (comparison : Comparison) (bytes : Nat) (inverted optional : Bool) : Clause :=
  ⟨.fileSize, comparison, toString bytes, .number (.ofNat bytes), inverted, optional⟩

def ofByteRange (low high : Nat) (inverted optional : Bool) : Clause :=
  ⟨.fileSize, .range, toString low ++ rangeMark ++ toString high,
    .range (.ofNat low) (.ofNat high), inverted, optional⟩

section

variable (size other : WholeSize) (optional inverted : Bool)

theorem endsClean_size : EndsClean size.text := fun _ hc =>
  size.isBlank_of_mem_text (List.mem_of_getLast? hc)

theorem endsClean_sizes : EndsClean (size.text ++ rangeMark ++ other.text) := by
  have hmark : ∀ c ∈ rangeMark.toList, Text.isBlank c = false :=
    List.all_iff_forall_prop.1 (by decide)
  apply (endsClean_size other).append
  intro c hc
  rw [String.toList_append] at hc
  exact (List.mem_append.1 hc).elim size.isBlank_of_mem_text (hmark c)

theorem getLast?_size : size.text.toList.getLast? ≠ some '.' := by
  intro hlast
  have hmem := List.mem_of_getLast? hlast
  rw [WholeSize.toList_text] at hmem
  rcases List.mem_append.1 hmem with hdigit | hletter
  · exact absurd (isDigit_of_mem_toDigits hdigit) (by decide)
  · exact (of_mem_units size.known).1 hletter

theorem parse_size {sign : String × Comparison} (hsign : sign ∈ signs) :
    parse (marks optional inverted ++ "filesize:" ++ sign.1 ++ size.text) =
      ofBytes sign.2 size.bytes inverted optional := by
  have hlead : ("filesize:", Field.fileSize) ∈ Field.spellings := by decide
  have hread : numberOf? .fileSize size.text.toList = some (.ofNat size.bytes) := size.size?_text
  rw [parse_spelled hlead hsign (endsClean_size size) optional inverted
    (splitComparison_of_numberOf? hread hsign),
    build_bytes size.size?_text (ne_range_of_mem_signs hsign),
    NumeralStyle.write_ofNat size.bytes_le, ofBytes]

theorem parse_sizes :
    parse (marks optional inverted ++ "filesize:" ++ (size.text ++ rangeMark ++ other.text)) =
      ofByteRange (min size.bytes other.bytes) (max size.bytes other.bytes) inverted optional := by
  have hlead : ("filesize:", Field.fileSize) ∈ Field.spellings := by decide
  have hnone : ("", Comparison.equals) ∈ signs := List.mem_cons_self
  have hreads : ∀ size : WholeSize,
      numberOf? .fileSize size.text.toList = some (.ofNat size.bytes) := WholeSize.size?_text
  have hlist : (size.text ++ rangeMark ++ other.text).toList =
      size.text.toList ++ (rangeMark.toList ++ other.text.toList) := by
    rw [String.toList_append, String.toList_append, List.append_assoc]
  have hparts : rangeParts (size.text ++ rangeMark ++ other.text).toList =
      [size.text.toList, other.text.toList] := by
    rw [hlist]
    exact rangeParts_append (not_hasRangeMark_of_numberOf? (hreads size)) (getLast?_size size)
      (not_hasRangeMark_of_numberOf? (hreads other))
  have hmark : HasRangeMark (size.text ++ rangeMark ++ other.text).toList :=
    ⟨size.text.toList, other.text.toList, by rw [hlist, List.append_assoc]⟩
  have hsplit : splitComparison ("".toList ++ (size.text ++ rangeMark ++ other.text).toList) =
      (.range, (size.text ++ rangeMark ++ other.text).toList) := by
    rw [String.toList_empty, List.nil_append, splitComparison_of_rangeMark hmark]
  have hparse := parse_spelled hlead hnone (endsClean_sizes size other) optional inverted hsplit
  rw [String.append_empty] at hparse
  rw [hparse, build_byteRange hparts size.size?_text other.size?_text,
    Binary64.min_ofNat size.bytes_le other.bytes_le,
    Binary64.max_ofNat size.bytes_le other.bytes_le,
    NumeralStyle.write_ofNat (Nat.max_le.2 ⟨size.bytes_le, other.bytes_le⟩),
    NumeralStyle.write_ofNat ((Nat.min_le_left _ _).trans size.bytes_le), ofByteRange]

end

theorem holds_eq_not_inverted_iff (c : Clause) (post : Post) :
    c.holds post = !c.inverted ↔ c.test post = true := by
  rw [holds]
  cases c.test post <;> cases c.inverted <;> decide

theorem test_of_fileSize {c : Clause} {post : Post} (hfield : c.field = .fileSize)
    (hword : ∀ w, c.operand ≠ .word w) :
    c.test post = c.compares (.ofInt post.file.size) := by
  apply test_eq_compares _ hword
  rw [hfield, Binary64.ofInt_natCast]
  rfl

section

variable {post : Post} (hpost : post.file.size ≤ 2 ^ 53)

include hpost

theorem holds_ofBytes {bytes : Nat} (hbytes : bytes ≤ 2 ^ 53) (comparison : Comparison)
    (inverted optional : Bool) :
    (ofBytes comparison bytes inverted optional).holds post = !inverted ↔
      comparison.Relates post.file.size bytes := by
  have hplace := Binary64.rank?_ofInt bytes
  rw [Binary64.ofInt_natCast] at hplace
  rw [← Binary64.relates_wholePlace_iff (by omega) (by omega)]
  refine (holds_eq_not_inverted_iff (ofBytes comparison bytes inverted optional) post).trans ?_
  rw [test_of_fileSize rfl fun _ => Operand.noConfusion]
  exact compares_number_iff (Binary64.rank?_ofInt _) hplace rfl

theorem holds_ofByteRange {low high : Nat} (hlow : low ≤ 2 ^ 53) (hhigh : high ≤ 2 ^ 53)
    (inverted optional : Bool) :
    (ofByteRange low high inverted optional).holds post = !inverted ↔
      low ≤ post.file.size ∧ post.file.size ≤ high := by
  have hplace : ∀ n : Nat, (Binary64.ofNat n).rank? = some (Binary64.wholePlace n) := fun n => by
    rw [← Binary64.ofInt_natCast, Binary64.rank?_ofInt]
  have hleast := Binary64.wholePlace_le_iff (m := low) (n := post.file.size) (by omega) (by omega)
  have hmost := Binary64.wholePlace_le_iff (m := post.file.size) (n := high) (by omega) (by omega)
  refine (holds_eq_not_inverted_iff (ofByteRange low high inverted optional) post).trans ?_
  rw [test_of_fileSize rfl fun _ => Operand.noConfusion,
    compares_range_iff (Binary64.rank?_ofInt _) (hplace low) (hplace high) rfl rfl]
  omega

end

theorem reread_ofBytes {sign : String × Comparison} (hsign : sign ∈ signs) {bytes : Nat}
    (h : bytes ≤ 2 ^ 53) (inverted optional : Bool) :
    (ofBytes sign.2 bytes inverted optional).reread =
      ofBytes sign.2 bytes inverted optional := by
  have hparse := parse_size (.ofBytes bytes h) optional inverted (symbol_of_mem_signs hsign).1
  rw [WholeSize.text_ofBytes, WholeSize.bytes_ofBytes, String.append_assoc,
    String.append_assoc] at hparse
  rw [reread, toText_eq]
  exact hparse

theorem reread_ofByteRange {low high : Nat} (hle : low ≤ high) (h : high ≤ 2 ^ 53)
    (inverted optional : Bool) :
    (ofByteRange low high inverted optional).reread =
      ofByteRange low high inverted optional := by
  have hparse := parse_sizes (.ofBytes low (hle.trans h)) (.ofBytes high h) optional inverted
  rw [WholeSize.text_ofBytes, WholeSize.text_ofBytes, WholeSize.bytes_ofBytes,
    WholeSize.bytes_ofBytes, Nat.min_eq_left hle, Nat.max_eq_right hle,
    String.append_assoc] at hparse
  rw [reread, toText_eq]
  exact hparse

/-- A whole number of units with at most `2 ^ 53` bytes is shown as its bytes. Its clause is the one
that is written in bytes, is read again from what it shows, and holds as whole numbers compare. -/
theorem sizes_in_bytes (size : WholeSize) (optional inverted : Bool) :
    (∀ sign ∈ signs,
      let c := parse (marks optional inverted ++ "filesize:" ++ sign.1 ++ size.text)
      (c.field = .fileSize ∧ c.comparison = sign.2 ∧ c.raw = toString size.bytes) ∧
      c = parse (marks optional inverted ++ "filesize:" ++ sign.1 ++ toString size.bytes) ∧
      c.reread = c ∧
      ∀ post : Post, post.file.size ≤ 2 ^ 53 →
        (c.holds post = !inverted ↔ sign.2.Relates post.file.size size.bytes)) ∧
    ∀ other : WholeSize,
      let c := parse (marks optional inverted ++ "filesize:" ++ (size.text ++ "..." ++ other.text))
      (c.field = .fileSize ∧ c.comparison = .range ∧
        c.raw = toString (min size.bytes other.bytes) ++ "..." ++
          toString (max size.bytes other.bytes)) ∧
      c = parse (marks optional inverted ++ "filesize:" ++
        (toString size.bytes ++ "..." ++ toString other.bytes)) ∧
      c.reread = c ∧
      ∀ post : Post, post.file.size ≤ 2 ^ 53 →
        (c.holds post = !inverted ↔
          min size.bytes other.bytes ≤ post.file.size ∧
            post.file.size ≤ max size.bytes other.bytes) := by
  constructor
  · intro sign hsign
    have hbytes := parse_size (.ofBytes size.bytes size.bytes_le) optional inverted hsign
    rw [WholeSize.text_ofBytes, WholeSize.bytes_ofBytes] at hbytes
    rw [parse_size size optional inverted hsign, hbytes]
    exact ⟨⟨rfl, rfl, rfl⟩, rfl, reread_ofBytes hsign size.bytes_le inverted optional,
      fun post hpost => holds_ofBytes hpost size.bytes_le sign.2 inverted optional⟩
  · intro other
    have hhigh := Nat.max_le.2 ⟨size.bytes_le, other.bytes_le⟩
    have hle : min size.bytes other.bytes ≤ max size.bytes other.bytes := by omega
    have hbytes := parse_sizes (.ofBytes size.bytes size.bytes_le)
      (.ofBytes other.bytes other.bytes_le) optional inverted
    rw [WholeSize.text_ofBytes, WholeSize.text_ofBytes, WholeSize.bytes_ofBytes,
      WholeSize.bytes_ofBytes, rangeMark] at hbytes
    have hparse := parse_sizes size other optional inverted
    rw [rangeMark] at hparse
    rw [hparse, hbytes]
    exact ⟨⟨rfl, rfl, rfl⟩, rfl, reread_ofByteRange hle hhigh inverted optional,
      fun post hpost => holds_ofByteRange hpost (hle.trans hhigh) hhigh inverted optional⟩

/-- The first size has exactly `2 ^ 53` bytes, and as an end of a range it comes last. -/
theorem sizes_in_bytes_at_limit :
    let post : Post := { file := { size := 4096 } }
    ((">", Comparison.greater) ∈ signs ∧ post.file.size ≤ 2 ^ 53) ∧
    ((parse "-filesize:>8388608gb").raw = "9007199254740992" ∧
      (parse "-filesize:>8388608gb").reread = parse "-filesize:>8388608gb" ∧
      ((parse "-filesize:>8388608gb").holds post = !true ↔ (9007199254740992 : Int) < 4096)) ∧
    (parse "-filesize:8388608gb...3kb").raw = "3072...9007199254740992" ∧
      ((parse "-filesize:8388608gb...3kb").holds post = !true ↔
        3072 ≤ 4096 ∧ 4096 ≤ 9007199254740992) := by
  intro post
  let size : WholeSize := ⟨8388608, ("gb", 1024 * 1024 * 1024), by decide, by decide⟩
  let other : WholeSize := ⟨3, ("kb", 1024), by decide, by decide⟩
  have hsign : (">", Comparison.greater) ∈ signs := by decide
  have hpost : post.file.size ≤ 2 ^ 53 := by decide
  obtain ⟨hone, htwo⟩ := sizes_in_bytes size false true
  obtain ⟨⟨-, -, hraw⟩, -, hreread, hholds⟩ := hone _ hsign
  obtain ⟨⟨-, -, hrange⟩, -, -, hbetween⟩ := htwo other
  have hbytes : size.bytes = 9007199254740992 := by decide
  have hends : min size.bytes other.bytes = 3072 ∧
      max size.bytes other.bytes = 9007199254740992 := by decide
  have htoken : marks false true ++ "filesize:" ++ ">" ++ size.text = "-filesize:>8388608gb" := by
    decide
  have htokens : marks false true ++ "filesize:" ++ (size.text ++ "..." ++ other.text) =
      "-filesize:8388608gb...3kb" := by decide
  dsimp only at hraw hreread hholds
  rw [htoken, hbytes] at hraw
  rw [htoken] at hreread hholds
  rw [hbytes] at hholds
  rw [htokens, hends.1, hends.2] at hrange hbetween
  exact ⟨⟨hsign, hpost⟩, ⟨hraw.trans (by decide), hreread, hholds post hpost⟩,
    hrange.trans (by decide), hbetween post hpost⟩

end BoardFilter.Clause
