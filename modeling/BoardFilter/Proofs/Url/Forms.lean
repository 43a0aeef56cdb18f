import BoardFilter.Proofs.Url.Marks

/-!
# Forms are read back

A form is read by taking its query apart at the ampersands and each part at its first equals sign,
and by undoing the escapes. Names and values of any characters come back as they were, since what is
written of them holds no mark of the form.
-/

namespace BoardFilter.Url

def plusToSpace (c : Char) : Char := if c = '+' then ' ' else c

def formDecoded? (s : List Char) : Option String :=
  (ofUtf8? (unescape (s.map plusToSpace))).map String.ofList

def formPart? (part : List Char) : Option (String × String) := do
  let (name, value) := cut (· == '=') part
  let name ← formDecoded? name
  let value ← formDecoded? (value.getD [])
  return (name, value)

def formPairs? (query : List Char) : Option (List (String × String)) :=
  (query.splitOn '&').mapM formPart?

def form? (url : String) : Option (List (String × String)) :=
  (cut (· == '?') url.toList).2.bind formPairs?

theorem hexValue?_hexDigit {n : Nat} (h : n < 16) : hexValue? (hexDigit n) = some n := by
  have hall : ∀ k : Fin 16, hexValue? (hexDigit k) = some k.val := by decide
  exact hall ⟨n, h⟩

theorem unescape_escapeByte (b : UInt8) (r : List Char) :
    unescape (escapeByte b ++ r) = b :: unescape r := by
  have hb := UInt8.toNat_lt b
  have hhigh := hexValue?_hexDigit (n := b.toNat / 16) (by omega)
  have hlow := hexValue?_hexDigit (n := b.toNat % 16) (by omega)
  have hvalue : b.toNat / 16 * 16 + b.toNat % 16 = b.toNat := by omega
  simp only [escapeByte, List.cons_append, List.nil_append, unescape, hhigh, hlow, hvalue,
    Nat.toUInt8_eq, UInt8.ofNat_toNat]

theorem unescape_escapeBytes (bytes : List UInt8) (r : List Char) :
    unescape (bytes.flatMap escapeByte ++ r) = bytes ++ unescape r := by
  induction bytes with
  | nil => rfl
  | cons b bytes ih =>
    rw [List.flatMap_cons, List.append_assoc, unescape_escapeByte, ih, List.cons_append]

theorem unescape_cons {c : Char} (h : c ≠ '%') (r : List Char) :
    unescape (c :: r) = String.utf8EncodeChar c ++ unescape r := by
  rw [unescape]
  exact fun _ _ _ heq _ => h heq

theorem ofUtf8?_utf8 (s : List Char) : ofUtf8? (utf8 s) = some s := by
  have hbytes : (⟨(utf8 s).toArray⟩ : ByteArray) = (String.ofList s).toByteArray := by
    rw [String.toByteArray_ofList, List.utf8Encode]
    exact ByteArray.ext List.data_toByteArray.symm
  rw [ofUtf8?, hbytes, String.fromUTF8?, dif_pos (String.ofList s).isValidUTF8]
  exact congrArg some String.toList_ofList

theorem formChar_cases (c : Char) :
    (c = ' ' ∧ formChar c = ['+']) ∨ (isFormPlain c = true ∧ formChar c = [c]) ∨
      formChar c = (String.utf8EncodeChar c).flatMap escapeByte := by
  rw [formChar]
  split
  · next hspace => exact .inl ⟨hspace, rfl⟩
  split
  · next hplain => exact .inr (.inl ⟨hplain, rfl⟩)
  · exact .inr (.inr rfl)

def formMarks : List Char := ['&', '=', '+']

theorem not_mem_formMarks_of_mem_escapes {bytes : List UInt8} {d : Char}
    (h : d ∈ bytes.flatMap escapeByte) : d ∉ formMarks := by
  have hdigit : ∀ n < 16, hexDigit n ∉ formMarks := by decide
  rcases mem_escapes h with rfl | ⟨n, hn, rfl⟩
  · decide
  · exact hdigit n hn

theorem isFormPlain_of_mem {d : Char} (h : d ∈ '%' :: formMarks) : isFormPlain d = false := by
  have hall : ∀ d ∈ '%' :: formMarks, isFormPlain d = false :=
    List.all_iff_forall_prop.1 (by decide)
  exact hall d h

theorem formChar_decoded (c : Char) (r : List Char) :
    unescape ((formChar c ++ r).map plusToSpace) =
      String.utf8EncodeChar c ++ unescape (r.map plusToSpace) := by
  rw [List.map_append]
  rcases formChar_cases c with ⟨rfl, hc⟩ | ⟨hplain, hc⟩ | hc
  · rw [hc]
    exact unescape_cons (by decide) _
  · have hne : ∀ d ∈ '%' :: formMarks, c ≠ d := by
      rintro d hd rfl
      rw [isFormPlain_of_mem hd] at hplain
      cases hplain
    have hkeep : plusToSpace c = c := if_neg (hne '+' (by decide))
    rw [hc, List.map_singleton, hkeep, List.singleton_append, unescape_cons (hne '%' (by decide))]
  · have hkeep : ((String.utf8EncodeChar c).flatMap escapeByte).map plusToSpace =
        (String.utf8EncodeChar c).flatMap escapeByte := by
      refine (List.map_congr_left (g := id) fun d hd => if_neg ?_).trans (List.map_id _)
      rintro rfl
      exact not_mem_formMarks_of_mem_escapes hd (by decide)
    rw [hc, hkeep, unescape_escapeBytes]

theorem unescape_formChars (s : List Char) :
    unescape ((s.flatMap formChar).map plusToSpace) = utf8 s := by
  induction s with
  | nil => rfl
  | cons c r ih => rw [List.flatMap_cons, formChar_decoded, ih, utf8, utf8, List.flatMap_cons]

theorem formDecoded?_formText (s : String) : formDecoded? (formText s) = some s := by
  rw [formDecoded?, formText, unescape_formChars, ofUtf8?_utf8, Option.map_some,
    String.ofList_toList]

theorem not_separator_of_mem_formText {s : String} {d : Char} (h : d ∈ formText s) :
    d ≠ '&' ∧ d ≠ '=' := by
  obtain ⟨c, -, hd⟩ := List.mem_flatMap.1 h
  suffices hmarks : d = '+' ∨ d ∉ formMarks by
    rcases hmarks with rfl | hmarks
    · decide
    · exact ⟨fun heq => hmarks (heq ▸ by decide), fun heq => hmarks (heq ▸ by decide)⟩
  rcases formChar_cases c with ⟨rfl, hc⟩ | ⟨hplain, hc⟩ | hc
  · rw [hc, List.mem_singleton] at hd
    exact .inl hd
  · rw [hc, List.mem_singleton] at hd
    subst hd
    refine .inr fun hmem => ?_
    rw [isFormPlain_of_mem (List.mem_cons_of_mem _ hmem)] at hplain
    cases hplain
  · rw [hc] at hd
    exact .inr (not_mem_formMarks_of_mem_escapes hd)

theorem formPart?_formPair (p : String × String) : formPart? (formPair p) = some p := by
  have hcut : cut (· == '=') (formPair p) = (formText p.1, some (formText p.2)) :=
    cut_append (fun d hd => by simpa using (not_separator_of_mem_formText hd).2) (by decide) _
  rw [formPart?, hcut]
  simp [formDecoded?_formText]

/-- A form of any names and values is read back. -/
theorem formPairs?_formQuery {pairs : List (String × String)} (hne : pairs ≠ []) :
    formPairs? (formQuery pairs).toList = some pairs := by
  have hparts : ∀ w ∈ pairs.map formPair, '&' ∉ w := by
    intro w hw hd
    obtain ⟨p, -, rfl⟩ := List.mem_map.1 hw
    rcases List.mem_append.1 hd with hd | hd
    · exact (not_separator_of_mem_formText hd).1 rfl
    · rcases List.mem_cons.1 hd with heq | hd
      · cases heq
      · exact (not_separator_of_mem_formText hd).1 rfl
  rw [formPairs?, formQuery, String.toList_ofList,
    List.splitOn_intercalate '&' hparts (by simpa using hne), Json.mapM_eq_some_iff, List.map_map]
  exact List.map_congr_left fun p _ => formPart?_formPair p

example : formQuery [("page", "1"), ("tags", "a&b=c +")] = "page=1&tags=a%26b%3Dc+%2B" := by decide

theorem form?_addPairs {s : String} {u : Url} (h : parse s = .ok u) (hquery : u.query = none)
    (hfragment : u.fragment = none) {pairs : List (String × String)} (hne : pairs ≠ []) :
    form? (u.addPairs pairs).toText = some pairs := by
  rw [form?, cut_addPairs h hquery hfragment, Option.bind_some, formPairs?_formQuery hne]

end BoardFilter.Url
