import BoardFilter.Json.Decode
import BoardFilter.Proofs.Clause.Splitting
import BoardFilter.Proofs.Number.Numeral
import BoardFilter.Proofs.Text.Respelling
import BoardFilter.Url.Host

/-!
# What hosts are written with

However a host is read, no question mark stands in it as it is written. A domain may have one in no
form, and all other hosts are written with digits and the marks between them.
-/

namespace BoardFilter

theorem mem_intercalate {α : Type} {c : α} {separator : List α} {ws : List (List α)}
    (h : c ∈ separator.intercalate ws) : c ∈ separator ∨ ∃ w ∈ ws, c ∈ w := by
  induction ws with
  | nil => cases h
  | cons w rest ih =>
    cases rest with
    | nil =>
      rw [List.intercalate_singleton] at h
      exact .inr ⟨w, List.mem_cons_self, h⟩
    | cons v rest =>
      rw [List.intercalate_cons_cons, List.append_assoc, List.mem_append, List.mem_append] at h
      rcases h with h | h | h
      · exact .inr ⟨w, List.mem_cons_self, h⟩
      · exact .inl h
      · exact (ih h).imp_right fun ⟨u, hu, hc⟩ => ⟨u, List.mem_cons_of_mem w hu, hc⟩

theorem not_mem_intercalate {c : Char} {separator : String} {l : List String}
    (hseparator : c ∉ separator.toList) (h : ∀ s ∈ l, c ∉ s.toList) :
    c ∉ (String.intercalate separator l).toList := by
  rw [String.toList_intercalate]
  intro hmem
  rcases mem_intercalate hmem with hc | ⟨w, hw, hc⟩
  · exact hseparator hc
  · obtain ⟨s, hs, rfl⟩ := List.mem_map.1 hw
    exact h s hs hc

theorem Text.not_mem_of_mem_splitOnP {p : Char → Bool} {c : Char} {s w : List Char}
    (hs : c ∉ s) (hw : w ∈ s.splitOnP p) : c ∉ w := by
  obtain ⟨-, before, after, rfl, -, -⟩ := mem_splitOnP_iff.1 hw
  exact fun hc => hs (List.mem_append_left after (List.mem_append_right before hc))

namespace Punycode

theorem digit_ne {d : Nat} (h : d < 36) : digit d ≠ '?' := by
  have hall : ∀ k : Fin 36, digit k ≠ '?' := by decide
  exact hall ⟨d, h⟩

theorem threshold_le (place bias : Nat) : threshold place bias ≤ 26 := Nat.min_le_left _ _

theorem not_mem_numeral (bias place distance : Nat) : '?' ∉ numeral bias place distance := by
  fun_induction numeral bias place distance with
  | case1 place distance t hlt =>
    have ht : t ≤ 26 := threshold_le place bias
    rw [List.mem_singleton]
    exact (digit_ne (by omega)).symm
  | case2 place distance t hle ih =>
    have ht : t ≤ 26 := threshold_le place bias
    have hdigit := Nat.mod_lt (distance - t) (y := 36 - t) (by omega)
    rw [List.mem_cons, not_or]
    exact ⟨(digit_ne (by omega)).symm, ih⟩

theorem not_mem_pass {basic code : Nat} {p : Progress} (h : '?' ∉ p.output) (c : Char) :
    '?' ∉ (pass basic code p c).output := by
  unfold pass
  split
  · exact h
  split
  · rw [List.mem_append, not_or]
    exact ⟨h, not_mem_numeral _ _ _⟩
  · exact h

theorem not_mem_foldl_pass {basic code : Nat} {p : Progress} (h : '?' ∉ p.output)
    (label : List Char) : '?' ∉ (label.foldl (pass basic code) p).output := by
  induction label generalizing p with
  | nil => exact h
  | cons c r ih => exact ih (not_mem_pass h c)

theorem not_mem_writeCodes {label : List Char} {basic : Nat} (codes : List Nat) {next : Nat}
    {p : Progress} (h : '?' ∉ p.output) : '?' ∉ (writeCodes label basic codes next p).output := by
  induction codes generalizing next p with
  | nil => exact h
  | cons code codes ih =>
    rw [writeCodes]
    exact ih (not_mem_foldl_pass (by exact h) label)

theorem not_mem_encode {label : List Char} (h : '?' ∉ label) : '?' ∉ encode label := by
  have hbasic : '?' ∉ label.filter fun c => c.toNat < 0x80 := fun hmem =>
    h (List.mem_of_mem_filter hmem)
  rw [encode, List.mem_append, List.mem_append, not_or, not_or]
  refine ⟨⟨hbasic, ?_⟩, not_mem_writeCodes _ List.not_mem_nil⟩
  split
  · exact List.not_mem_nil
  · decide

end Punycode

namespace Url

namespace Domain

theorem Label.not_mem_ascii {s : List Char} {l : Label} (hs : '?' ∉ s)
    (h : Label.ofFolded? s = some l) : '?' ∉ l.ascii := by
  have hlead : '?' ∉ Label.codeLead.toList := by decide
  unfold Label.ofFolded? at h
  split at h
  · next code hcode =>
    rw [← Text.dropLead?_eq_some_iff.1 hcode, List.mem_append, not_or] at hs
    unfold Label.ofCode? at h
    split at h
    · split at h
      · split at h
        · cases h
          rw [List.mem_append, not_or]
          exact ⟨hlead, hs.2⟩
        · cases h
      · cases h
    · cases h
  · split at h
    · cases h
      simp only
      split
      · exact hs
      · rw [List.mem_append, not_or]
        exact ⟨hlead, Punycode.not_mem_encode hs⟩
    · cases h

theorem not_mem_foldedText? {s t : List Char} (h : foldedText? s = some t) : '?' ∉ t := by
  rw [foldedText?, Option.ite_none_left_eq_some] at h
  simp only [Option.ite_none_left_eq_some, Option.some.injEq] at h
  obtain ⟨-, hrefused, rfl⟩ := h
  intro hmem
  exact hrefused (List.any_eq_true.2 ⟨'?', hmem, by decide⟩)

theorem not_mem_ascii? {s name : List Char} (h : ascii? s = some name) : '?' ∉ name := by
  unfold ascii? at h
  obtain ⟨t, ht, h⟩ := Option.bind_eq_some_iff.1 h
  obtain ⟨labels, hlabels, h⟩ := Option.bind_eq_some_iff.1 h
  split at h
  · obtain rfl := Option.some.inj h
    intro hmem
    rcases mem_intercalate hmem with hmem | ⟨w, hw, hmem⟩
    · exact absurd hmem (by decide)
    · -- The label was read from a piece of the folded text, where the mark would be refused.
      obtain ⟨l, hl, rfl⟩ := List.mem_map.1 hw
      have hread : some l ∈ (t.splitOnP (· == '.')).map Label.ofFolded? := by
        rw [Json.mapM_eq_some_iff.1 hlabels]
        exact List.mem_map_of_mem hl
      obtain ⟨piece, hpiece, hlabel⟩ := List.mem_map.1 hread
      exact Label.not_mem_ascii (Text.not_mem_of_mem_splitOnP (not_mem_foldedText? ht) hpiece)
        hlabel hmem
  · cases h

end Domain

theorem mem_escapes {bytes : List UInt8} {d : Char} (h : d ∈ bytes.flatMap escapeByte) :
    d = '%' ∨ ∃ n < 16, d = hexDigit n := by
  obtain ⟨b, -, hd⟩ := List.mem_flatMap.1 h
  have hb := UInt8.toNat_lt b
  simp only [escapeByte, List.mem_cons, List.not_mem_nil, or_false] at hd
  rcases hd with rfl | rfl | rfl
  · exact .inl rfl
  · exact .inr ⟨_, by omega, rfl⟩
  · exact .inr ⟨_, by omega, rfl⟩

theorem not_mem_escape {special s : List Char} (h : '?' ∉ s) : '?' ∉ escape special s := by
  intro hmem
  obtain ⟨c, hc, hmem⟩ := List.mem_flatMap.1 hmem
  split at hmem
  · have hdigit : ∀ n < 16, hexDigit n ≠ '?' := by decide
    rcases mem_escapes hmem with heq | ⟨n, hn, heq⟩
    · exact absurd heq (by decide)
    · exact hdigit n hn heq.symm
  · rw [List.mem_singleton] at hmem
    exact h (hmem ▸ hc)

namespace Host

theorem not_mem_toDigits {b n : Nat} (hb : 1 < b) (hle : b ≤ 16) : '?' ∉ Nat.toDigits b n := by
  intro h
  have hdigit : ∀ d < 16, Nat.digitChar d ≠ '?' := by decide
  obtain ⟨d, hd, heq⟩ := exists_digitChar_of_mem_toDigits hb h
  exact hdigit d (by omega) heq.symm

theorem not_mem_toString (n : Nat) : '?' ∉ (toString n).toList := by
  rw [Nat.toString_eq_repr, Nat.toList_repr]
  exact not_mem_toDigits (by decide) (by decide)

theorem not_mem_ipv4Text (address : Nat) : '?' ∉ (ipv4Text address).toList := by
  refine not_mem_intercalate (by decide) fun s hs => ?_
  obtain ⟨i, -, rfl⟩ := List.mem_map.1 hs
  exact not_mem_toString _

theorem not_mem_ipv6Text (groups : List Nat) : '?' ∉ (ipv6Text groups).toList := by
  have htext : ∀ l : List Nat, '?' ∉
      (String.intercalate ":" (l.map fun g => String.ofList (Nat.toDigits 16 g))).toList := by
    intro l
    refine not_mem_intercalate (by decide) fun s hs => ?_
    obtain ⟨g, -, rfl⟩ := List.mem_map.1 hs
    rw [String.toList_ofList]
    exact not_mem_toDigits (by decide) (by decide)
  unfold ipv6Text
  split
  · simp only [String.toList_append, List.mem_append, not_or]
    exact ⟨⟨htext _, by decide⟩, htext _⟩
  · exact htext _

theorem not_mem_ofBrackets {s : List Char} {host : Host} (h : ofBrackets s = .ok host) :
    '?' ∉ host.toText.toList := by
  unfold ofBrackets at h
  split at h
  · split at h
    · obtain rfl := Except.ok.inj h
      simp only [toText, String.toList_append, List.mem_append, not_or]
      exact ⟨⟨by decide, not_mem_ipv6Text _⟩, by decide⟩
    · cases h
  · cases h

theorem not_mem_ofWeb {s : List Char} {host : Host} (h : ofWeb s = .ok host) :
    '?' ∉ host.toText.toList := by
  unfold ofWeb at h
  split at h
  · cases h
  · exact not_mem_ofBrackets h
  · split at h
    · cases h
    · cases h
    · next name _ hname =>
      obtain ⟨t, -, hascii⟩ := Option.bind_eq_some_iff.1 hname
      split at h
      · split at h
        · obtain rfl := Except.ok.inj h
          exact not_mem_ipv4Text _
        · cases h
      · obtain rfl := Except.ok.inj h
        rw [toText, String.toList_ofList]
        exact Domain.not_mem_ascii? hascii

theorem not_mem_ofOpaque {s : List Char} {host : Host} (h : ofOpaque s = .ok host) :
    '?' ∉ host.toText.toList := by
  unfold ofOpaque at h
  split at h
  · exact not_mem_ofBrackets h
  · split at h
    · cases h
    · next hrefused =>
      obtain rfl := Except.ok.inj h
      rw [toText, String.toList_ofList]
      refine not_mem_escape fun hmem => hrefused (List.any_eq_true.2 ⟨'?', hmem, by decide⟩)

end Host

end Url

end BoardFilter
