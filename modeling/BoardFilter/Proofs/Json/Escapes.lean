import BoardFilter.Json.Text

/-!
# Escaped texts

Every character is read back from its escape, so a quoted text is read back whatever it holds.
-/

namespace BoardFilter.Json

theorem hexDigit?_hexDigit {n : Nat} (h : n < 16) : hexDigit? (hexDigit n) = some n := by
  have hall : ∀ k : Fin 16, hexDigit? (hexDigit k) = some k.val := by decide
  exact hall ⟨n, h⟩

variable {c : Char} {done r : List Char}

theorem readUnit?_control (h : c.toNat < 0x20) :
    readUnit? ('0' :: '0' :: hexDigit (c.toNat / 16) :: hexDigit (c.toNat % 16) :: r) =
      some (c, r) := by
  have hzero : hexDigit? '0' = some 0 := by decide
  have hhigh := hexDigit?_hexDigit (n := c.toNat / 16) (by omega)
  have hlow := hexDigit?_hexDigit (n := c.toNat % 16) (by omega)
  have hvalue : ((0 * 16 + 0) * 16 + c.toNat / 16) * 16 + c.toNat % 16 = c.toNat := by omega
  have hplain : c.toNat < 0xD800 ∨ 0xDFFF < c.toNat := by omega
  rw [readUnit?, readHex4?]
  simp only [hzero, hhigh, hlow, hvalue, if_pos hplain, Char.ofNat_toNat]

theorem readText?_unit {s : List Char} (h : readUnit? s = some (c, r)) :
    readText? done ('\\' :: 'u' :: s) = readText? (c :: done) r := by
  rw [readText?]
  split
  · next c' rest hunit =>
    rw [h] at hunit
    cases hunit
    rfl
  · next hunit =>
    rw [h] at hunit
    cases hunit

theorem readText?_plainEscape {e : Char} (h : plainEscape? e = some c) :
    readText? done ('\\' :: e :: r) = readText? (c :: done) r := by
  have hu : e ≠ 'u' := by
    rintro rfl
    cases h
  rw [readText?]
  · rw [h]
  · exact hu

theorem readText?_cons (hquote : c ≠ '"') (hslash : c ≠ '\\') (h : 0x20 ≤ c.toNat) :
    readText? done (c :: r) = readText? (c :: done) r := by
  have hkeep : ¬ (c.toNat < 0x20 ∨ c = '\\') := by
    rintro (hlt | heq)
    · omega
    · exact hslash heq
  rw [readText?]
  · rw [if_neg hkeep]
  · exact hquote
  · exact fun _ heq _ => hslash heq
  · exact fun _ _ heq _ => hslash heq

theorem escaped_cases (c : Char) :
    (∃ e, plainEscape? e = some c ∧ escaped c = ['\\', e]) ∨
    (c.toNat < 0x20 ∧ escaped c =
      ['\\', 'u', '0', '0', hexDigit (c.toNat / 16), hexDigit (c.toNat % 16)]) ∨
    (c ≠ '"' ∧ c ≠ '\\' ∧ 0x20 ≤ c.toNat ∧ escaped c = [c]) := by
  have hletter : ∀ e d, plainEscape? e = some d → c = d → escaped d = ['\\', e] →
      ∃ e, plainEscape? e = some c ∧ escaped c = ['\\', e] := by
    rintro e _ he rfl hc
    exact ⟨e, he, hc⟩
  by_cases hquote : c = '"'
  · exact .inl (hletter '"' _ rfl hquote rfl)
  by_cases hslash : c = '\\'
  · exact .inl (hletter '\\' _ rfl hslash rfl)
  by_cases hn : c = '\n'
  · exact .inl (hletter 'n' _ rfl hn rfl)
  by_cases hr : c = '\r'
  · exact .inl (hletter 'r' _ rfl hr rfl)
  by_cases ht : c = '\t'
  · exact .inl (hletter 't' _ rfl ht rfl)
  by_cases hb : c = '\x08'
  · exact .inl (hletter 'b' _ rfl hb rfl)
  by_cases hf : c = '\x0c'
  · exact .inl (hletter 'f' _ rfl hf rfl)
  rw [escaped, if_neg hquote, if_neg hslash, if_neg hn, if_neg hr, if_neg ht, if_neg hb, if_neg hf]
  by_cases hcontrol : c.toNat < 0x20
  · exact .inr (.inl ⟨hcontrol, if_pos hcontrol⟩)
  · exact .inr (.inr ⟨hquote, hslash, Nat.not_lt.1 hcontrol, if_neg hcontrol⟩)

theorem readText?_escaped (c : Char) (done r : List Char) :
    readText? done (escaped c ++ r) = readText? (c :: done) r := by
  obtain ⟨e, he, hc⟩ | ⟨hcontrol, hc⟩ | ⟨hquote, hslash, hplain, hc⟩ := escaped_cases c
  · rw [hc]
    exact readText?_plainEscape he
  · rw [hc]
    exact readText?_unit (readUnit?_control hcontrol)
  · rw [hc]
    exact readText?_cons hquote hslash hplain

theorem readText?_quoted (s done r : List Char) :
    readText? done (s.flatMap escaped ++ '"' :: r) = some (done.reverse ++ s, r) := by
  induction s generalizing done with
  | nil => rw [List.flatMap_nil, List.nil_append, readText?, List.append_nil]
  | cons c s ih =>
    rw [List.flatMap_cons, List.append_assoc, readText?_escaped, ih, List.reverse_cons,
      List.append_assoc, List.singleton_append]

end BoardFilter.Json
