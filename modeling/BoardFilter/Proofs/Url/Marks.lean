import BoardFilter.Proofs.Number.NumeralCase
import BoardFilter.Proofs.Text.Trimming
import BoardFilter.Proofs.Url.Hosts
import BoardFilter.Url.Query
import BoardFilter.Url.Reader
import Mathlib.Data.List.DropRight

/-!
# Where a query begins

The first question mark of a URL begins its query, whatever was read into the parts before it. A URL
has neither a query nor a fragment just if the text that it was read from has no mark of one.
-/

namespace BoardFilter.Url

theorem exists_of_bind_ok {ε α β : Type} {x : Except ε α} {f : α → Except ε β} {b : β}
    (h : (x >>= f) = .ok b) : ∃ a, x = .ok a ∧ f a = .ok b := by
  cases x with
  | error e => cases h
  | ok a => exact ⟨a, rfl, h⟩

def lead (u : Url) : String :=
  let place := match u.authority with
    | some a => "//" ++ a.toText
    | none => u.path.guard
  u.scheme ++ ":" ++ place ++ u.path.toText

section

variable {p : Char → Bool} {s : List Char}

theorem cut_of_not (h : ∀ c ∈ s, p c = false) : cut p s = (s, none) := by
  have hspan : s.span (fun d => !p d) = (s, []) := by
    rw [List.span_eq_takeWhile_dropWhile, List.takeWhile_eq_self_iff.2 (by simpa using h),
      List.dropWhile_eq_nil_iff.2 (by simpa using h)]
  rw [cut, hspan]

theorem cut_append {a : List Char} {c : Char} (ha : ∀ d ∈ a, p d = false) (hc : p c = true)
    (b : List Char) : cut p (a ++ c :: b) = (a, some b) := by
  have hspan : (a ++ c :: b).span (fun d => !p d) = (a, c :: b) := by
    rw [List.span_eq_takeWhile_dropWhile, List.takeWhile_append_of_pos (by simpa using ha),
      List.dropWhile_append_of_pos (by simpa using ha)]
    simp [hc]
  rw [cut, hspan]

theorem cut_cases (p : Char → Bool) (s : List Char) :
    ((∀ c ∈ s, p c = false) ∧ cut p s = (s, none)) ∨
      ∃ a c b, s = a ++ c :: b ∧ p c = true ∧ cut p s = (a, some b) := by
  by_cases hall : ∀ c ∈ s, p c = false
  · exact .inl ⟨hall, cut_of_not hall⟩
  · have hdrop : s.dropWhile (fun d => !p d) ≠ [] := fun h =>
      hall (by simpa using List.dropWhile_eq_nil_iff.1 h)
    obtain ⟨c, b, hcb⟩ := List.exists_cons_of_ne_nil hdrop
    have hc : p c = true := by
      have hnot := List.head_dropWhile_not (fun d => !p d) hdrop
      simpa [hcb] using hnot
    have hs : s = s.takeWhile (fun d => !p d) ++ c :: b := by
      rw [← hcb, List.takeWhile_append_dropWhile]
    refine .inr ⟨_, c, b, hs, hc, ?_⟩
    conv_lhs => rw [hs]
    exact cut_append (fun d hd => by simpa using List.mem_takeWhile_imp hd) hc b

theorem cut_snd_eq_none_iff : (cut p s).2 = none ↔ ∀ c ∈ s, p c = false := by
  rcases cut_cases p s with ⟨hnone, hcut⟩ | ⟨a, c, b, rfl, hc, hcut⟩
  · rw [hcut]
    exact iff_of_true rfl hnone
  · rw [hcut]
    exact iff_of_false nofun fun h => by simp [h c] at hc

theorem cut_fst_of_snd (h : (cut p s).2 = none) : (cut p s).1 = s := by
  rw [cut_of_not (cut_snd_eq_none_iff.1 h)]

theorem mem_of_mem_cut {c : Char} (h : c ∈ (cut p s).1 ∨ c ∈ (cut p s).2.getD []) : c ∈ s := by
  rcases cut_cases p s with ⟨-, hcut⟩ | ⟨a, d, b, rfl, -, hcut⟩
  · rw [hcut] at h
    exact h.resolve_right List.not_mem_nil
  · rw [hcut] at h
    exact h.elim (List.mem_append_left _) fun hb =>
      List.mem_append_right a (List.mem_cons_of_mem d hb)

end

def fromMark (s : List Char) : List Char := s.dropWhile fun c => !endsPath c

theorem fromMark_append {a : List Char} (h : ∀ c ∈ a, endsPath c = false) (s : List Char) :
    fromMark (a ++ s) = fromMark s := by
  rw [fromMark, List.dropWhile_append_of_pos (by simpa using h), fromMark]

theorem fromMark_dropWhile {p : Char → Bool} (h : ∀ c, p c = true → endsPath c = false)
    (s : List Char) : fromMark (s.dropWhile p) = fromMark s := by
  conv_rhs => rw [← List.takeWhile_append_dropWhile (p := p) (l := s)]
  exact (fromMark_append (fun c hc => h c (List.mem_takeWhile_imp hc)) _).symm

theorem fromMark_eq_nil_iff {s : List Char} : fromMark s = [] ↔ ∀ c ∈ s, endsPath c = false := by
  simp [fromMark]

theorem endsPath_eq_false_iff {c : Char} : endsPath c = false ↔ c ≠ '?' ∧ c ≠ '#' := by
  simp [endsPath]

theorem cuts_eq_none_iff {tail : List Char} :
    ((cut (· == '?') (cut (· == '#') tail).1).2 = none ∧ (cut (· == '#') tail).2 = none) ↔
      ∀ c ∈ tail, endsPath c = false := by
  constructor
  · rintro ⟨hquery, hfragment⟩ c hc
    rw [cut_fst_of_snd hfragment, cut_snd_eq_none_iff] at hquery
    rw [cut_snd_eq_none_iff] at hfragment
    exact endsPath_eq_false_iff.2 ⟨by simpa using hquery c hc, by simpa using hfragment c hc⟩
  · intro h
    have hfragment : (cut (· == '#') tail).2 = none :=
      cut_snd_eq_none_iff.2 fun c hc => by simpa using (endsPath_eq_false_iff.1 (h c hc)).2
    refine ⟨?_, hfragment⟩
    rw [cut_fst_of_snd hfragment, cut_snd_eq_none_iff]
    exact fun c hc => by simpa using (endsPath_eq_false_iff.1 (h c hc)).1

theorem endsPath_of_isSlash {kind : Kind} {c : Char} (h : kind.isSlash c = true) :
    endsPath c = false := by
  have hslash : c = '/' ∨ c = '\\' := by
    simp only [Kind.isSlash, Bool.or_eq_true, decide_eq_true_eq, Bool.and_eq_true] at h
    exact h.imp_right And.left
  rcases hslash with rfl | rfl <;> rfl

theorem endsPath_of_not_endsAuthority {kind : Kind} {c : Char} (h : kind.endsAuthority c = false) :
    endsPath c = false := by
  rw [endsPath_eq_false_iff]
  simp only [Kind.endsAuthority, Bool.or_eq_false_iff, decide_eq_false_iff_not] at h
  exact ⟨h.1.2, h.2⟩

theorem fromMark_dropSlash (kind : Kind) (s : List Char) :
    fromMark (dropSlash kind s) = fromMark s := by
  unfold dropSlash
  split
  · split
    · next c r hslash =>
      exact (fromMark_append (a := [c]) (by simpa using endsPath_of_isSlash hslash) r).symm
    · rfl
  · rfl

theorem mem_of_mem_cutUser {c : Char} {s : List Char}
    (h : c ∈ (cutUser s).1.getD [] ∨ c ∈ (cutUser s).2) : c ∈ s := by
  unfold cutUser at h
  rw [List.span_eq_takeWhile_dropWhile] at h
  have hleft : ∀ d ∈ s.reverse.takeWhile (fun x => decide (x ≠ '@')), d ∈ s := fun d hd =>
    List.mem_reverse.1 ((List.takeWhile_prefix _).subset hd)
  have hright : ∀ d ∈ s.reverse.dropWhile (fun x => decide (x ≠ '@')), d ∈ s := fun d hd =>
    List.mem_reverse.1 ((List.dropWhile_suffix _).subset hd)
  split at h
  · next host d user heq =>
    obtain ⟨hhost, huser⟩ := Prod.mk.inj heq
    rcases h with h | h
    · exact hright c (huser ▸ List.mem_cons_of_mem d (List.mem_reverse.1 h))
    · exact hleft c (hhost ▸ List.mem_reverse.1 h)
  · next host heq =>
    obtain ⟨hhost, -⟩ := Prod.mk.inj heq
    rcases h with h | h
    · cases h
    · exact hleft c (hhost ▸ List.mem_reverse.1 h)

theorem mem_of_mem_cutPort {c : Char} {bracket : Bool} {s : List Char}
    (h : c ∈ (cutPort bracket s).2.getD []) : c ∈ s := by
  induction s generalizing bracket with
  | nil => cases h
  | cons d r ih =>
    rw [cutPort] at h
    split at h
    · exact List.mem_cons_of_mem d h
    · exact List.mem_cons_of_mem d (ih h)

theorem mem_of_mem_readPort {kind : Kind} {s rest : List Char} {port : Option Nat} {c : Char}
    (h : readPort kind s = .ok (port, rest)) (hc : c ∈ rest) : c ∈ s := by
  unfold readPort at h
  rw [List.span_eq_takeWhile_dropWhile] at h
  simp only at h
  split at h
  · cases h
  split at h
  · cases h
  · cases h
    exact (List.dropWhile_suffix _).subset hc

theorem not_mem_authorityText {a : Authority} (huser : '?' ∉ a.user.toList)
    (hpassword : '?' ∉ a.password.toList) (hhost : '?' ∉ a.host.toText.toList) :
    '?' ∉ a.toText.toList := by
  have hport : ∀ port : Nat, '?' ∉ (":" ++ toString port).toList := by
    intro port
    rw [String.toList_append, List.mem_append, not_or]
    exact ⟨by decide, Host.not_mem_toString port⟩
  simp only [Authority.toText, String.toList_append, List.mem_append, not_or]
  refine ⟨⟨?_, hhost⟩, ?_⟩
  · split
    · decide
    · simp only [String.toList_append, List.mem_append, not_or]
      refine ⟨⟨huser, ?_⟩, by decide⟩
      split
      · decide
      · rw [String.toList_append, List.mem_append, not_or]
        exact ⟨by decide, hpassword⟩
  · split
    · exact hport _
    · decide

theorem marks_of_readPort {kind : Kind} {port tail rest : List Char} {user password : String}
    {host : Host} {a : Authority} (huser : '?' ∉ user.toList) (hpassword : '?' ∉ password.toList)
    (hhost : '?' ∉ host.toText.toList) (hport : ∀ c ∈ port, endsPath c = false)
    (h : (do
      let x ← readPort kind port
      pure (({ user, password, host, port := x.1 } : Authority), x.2 ++ tail)) = .ok (a, rest)) :
    fromMark rest = fromMark tail ∧ '?' ∉ a.toText.toList := by
  obtain ⟨⟨number, after⟩, hread, h⟩ := exists_of_bind_ok h
  cases h
  exact ⟨fromMark_append (fun c hc => hport c (mem_of_mem_readPort hread hc)) tail,
    not_mem_authorityText huser hpassword hhost⟩

theorem marks_of_readAuthority {kind : Kind} {s rest : List Char} {a : Authority}
    (h : readAuthority kind s = .ok (a, rest)) :
    fromMark rest = fromMark s ∧ '?' ∉ a.toText.toList := by
  unfold readAuthority at h
  rw [List.span_eq_takeWhile_dropWhile] at h
  dsimp only at h
  have hsplit := List.takeWhile_append_dropWhile (p := fun c => !kind.endsAuthority c) (l := s)
  have htext : ∀ c ∈ s.takeWhile (fun c => !kind.endsAuthority c), endsPath c = false := fun c hc =>
    endsPath_of_not_endsAuthority (by simpa using List.mem_takeWhile_imp hc)
  generalize s.takeWhile (fun c => !kind.endsAuthority c) = text at h hsplit htext
  generalize s.dropWhile (fun c => !kind.endsAuthority c) = tail at h hsplit
  -- However the authority is taken apart, no part of it has a mark: it ends before the first one.
  have hlogin : ∀ c, c ∈ (cutUser text).1.getD [] → endsPath c = false := fun c hc =>
    htext c (mem_of_mem_cutUser (.inl hc))
  have hplace : ∀ c, c ∈ (cutUser text).2 → endsPath c = false := fun c hc =>
    htext c (mem_of_mem_cutUser (.inr hc))
  have hescaped : ∀ l : List Char, (∀ c ∈ l, endsPath c = false) →
      '?' ∉ (String.ofList (escape userSpecial l)).toList := by
    intro l hl
    rw [String.toList_ofList]
    exact not_mem_escape fun hmem => absurd (hl _ hmem) (by decide)
  have huser := hescaped _ fun c hc => hlogin c (mem_of_mem_cut (p := (· == ':')) (.inl hc))
  have hpassword := hescaped _ fun c hc => hlogin c (mem_of_mem_cut (p := (· == ':')) (.inr hc))
  have hafter : ∀ c ∈ (cutPort false (cutUser text).2).2.getD [], endsPath c = false := fun c hc =>
    hplace c (mem_of_mem_cutPort hc)
  rw [← hsplit, fromMark_append htext]
  split at h
  · cases h
  split at h
  · obtain ⟨host, hhost, h⟩ := exists_of_bind_ok h
    split at h
    · cases h
    · exact marks_of_readPort huser hpassword (Host.not_mem_ofWeb hhost) hafter h
  · obtain ⟨host, hhost, h⟩ := exists_of_bind_ok h
    split at h
    · cases h
    · exact marks_of_readPort huser hpassword (Host.not_mem_ofOpaque hhost) hafter h

theorem mem_above {s : String} {path : List String} (h : s ∈ above path) : s ∈ path := by
  unfold above at h
  split at h
  · cases h
  · split at h
    · exact h
    · exact List.mem_cons_of_mem _ h

theorem not_mem_driveName {s : String} (h : '?' ∉ s.toList) : '?' ∉ (driveName s).toList := by
  unfold driveName
  split
  · next c hdrive =>
    have hc : c ∈ s.toList := by
      unfold drive? at hdrive
      split at hdrive
      · next heq =>
        split at hdrive
        · cases hdrive
          rw [heq]
          exact List.mem_cons_self
        · cases hdrive
      · cases hdrive
    rw [String.toList_ofList]
    simp only [List.mem_cons, List.not_mem_nil, or_false, not_or]
    exact ⟨fun heq => h (heq ▸ hc), by decide⟩
  · exact h

theorem not_mem_resolve {drives : Bool} {path segments : List String}
    (hpath : ∀ s ∈ path, '?' ∉ s.toList) (hsegments : ∀ s ∈ segments, '?' ∉ s.toList) :
    ∀ s ∈ resolve drives path segments, '?' ∉ s.toList := by
  induction segments generalizing path with
  | nil => exact hpath
  | cons segment rest ih =>
    obtain ⟨hsegment, hrest⟩ := List.forall_mem_cons.1 hsegments
    have hempty : '?' ∉ "".toList := by decide
    have habove : ∀ s ∈ above path, '?' ∉ s.toList := fun s hs => hpath s (mem_above hs)
    rw [resolve]
    refine ih ?_ hrest
    split
    · split
      · exact List.forall_mem_cons.2 ⟨hempty, habove⟩
      · exact habove
    split
    · split
      · exact List.forall_mem_cons.2 ⟨hempty, hpath⟩
      · exact hpath
    split
    · exact List.forall_mem_cons.2 ⟨not_mem_driveName hsegment, nofun⟩
    · exact List.forall_mem_cons.2 ⟨hsegment, hpath⟩

theorem not_mem_readSegments {kind : Kind} {s : List Char} (h : '?' ∉ s) :
    ∀ segment ∈ readSegments kind s, '?' ∉ segment.toList := by
  intro segment hsegment
  refine not_mem_resolve (fun _ hs => absurd hs List.not_mem_nil) (fun piece hpiece => ?_) segment
    (List.mem_reverse.1 hsegment)
  obtain ⟨w, hw, rfl⟩ := List.mem_map.1 hpiece
  rw [String.toList_ofList]
  exact not_mem_escape (Text.not_mem_of_mem_splitOnP h hw)

theorem not_mem_pathText {segments : List String} (h : ∀ s ∈ segments, '?' ∉ s.toList) :
    '?' ∉ (Path.segments segments).toText.toList := by
  rw [Path.toText, String.toList_join, List.flatMap_map]
  intro hmem
  obtain ⟨s, hs, hc⟩ := List.mem_flatMap.1 hmem
  rw [String.toList_append, List.mem_append] at hc
  rcases hc with hc | hc
  · exact absurd hc (by decide)
  · exact h s hs hc

theorem mem_of_mem_dropSlash {kind : Kind} {s : List Char} {c : Char} (h : c ∈ dropSlash kind s) :
    c ∈ s := by
  unfold dropSlash at h
  split at h
  · split at h
    · exact List.mem_cons_of_mem _ h
    · exact h
  · exact h

theorem not_mem_takeWhile (s : List Char) : '?' ∉ s.takeWhile fun c => !endsPath c := fun h =>
  absurd (List.mem_takeWhile_imp h) (by decide)

structure Reads (s : List Char) (body : Body) : Prop where
  tail : body.tail = fromMark s
  authority : ∀ a ∈ body.authority, '?' ∉ a.toText.toList
  path : '?' ∉ body.path.toText.toList

theorem reads_of_readWeb {kind : Kind} {s : List Char} {body : Body}
    (h : readWeb kind s = .ok body) :
    Reads s body := by
  unfold readWeb at h
  obtain ⟨⟨a, rest⟩, hauthority, h⟩ := exists_of_bind_ok h
  obtain ⟨hmark, ha⟩ := marks_of_readAuthority hauthority
  simp only [List.span_eq_takeWhile_dropWhile] at h
  cases h
  refine ⟨?_, ?_, ?_⟩
  · rw [← fromMark_dropWhile (fun c => endsPath_of_isSlash) s, ← hmark]
    rfl
  · rintro _ ⟨⟩
    exact ha
  · exact not_mem_pathText (not_mem_readSegments fun hmem =>
      not_mem_takeWhile rest (mem_of_mem_dropSlash hmem))

theorem marks_of_readFileHost {s rest : List Char} {host : Host}
    (h : readFileHost s = .ok (host, rest)) :
    fromMark rest = fromMark s ∧ '?' ∉ host.toText.toList := by
  have hnowhere : '?' ∉ (Host.domain "").toText.toList := by decide
  unfold readFileHost at h
  split at h
  · next a b r =>
    split at h
    · next hslashes =>
      rw [Bool.and_eq_true] at hslashes
      have hskip : fromMark (a :: b :: r) = fromMark r :=
        fromMark_append (a := [a, b])
          (by simpa using ⟨endsPath_of_isSlash hslashes.1, endsPath_of_isSlash hslashes.2⟩) r
      have hsplit :=
        List.takeWhile_append_dropWhile (p := fun c => !Kind.file.endsAuthority c) (l := r)
      rw [List.span_eq_takeWhile_dropWhile] at h
      simp only at h
      split at h
      · cases h
        exact ⟨hskip.symm, hnowhere⟩
      · obtain ⟨host', hhost, h⟩ := exists_of_bind_ok h
        cases h
        rw [fromMark_dropSlash, hskip, ← hsplit, fromMark_append fun c hc =>
          endsPath_of_not_endsAuthority (by simpa using List.mem_takeWhile_imp hc), hsplit]
        exact ⟨rfl, Host.not_mem_ofWeb hhost⟩
    · cases h
      exact ⟨fromMark_dropSlash .file _, hnowhere⟩
  · cases h
    exact ⟨fromMark_dropSlash .file _, hnowhere⟩

theorem not_mem_filePath {segments : List String} (h : ∀ s ∈ segments, '?' ∉ s.toList) :
    '?' ∉ (filePath segments).toText.toList := by
  refine not_mem_pathText ?_
  split
  · exact List.forall_mem_singleton.2 (by decide)
  · exact fun s hs => h s ((List.dropWhile_suffix _).subset hs)

theorem reads_of_readFile {s : List Char} {body : Body} (h : readFile s = .ok body) :
    Reads s body := by
  unfold readFile at h
  obtain ⟨⟨host, rest⟩, hhost, h⟩ := exists_of_bind_ok h
  obtain ⟨hmark, hhost⟩ := marks_of_readFileHost hhost
  simp only [List.span_eq_takeWhile_dropWhile] at h
  have hsegments : ∀ segment ∈ readSegments .file (rest.takeWhile fun c => !endsPath c),
      '?' ∉ segment.toList := not_mem_readSegments (not_mem_takeWhile rest)
  cases h
  refine ⟨hmark, ?_, not_mem_filePath hsegments⟩
  rintro _ ⟨⟩
  have hempty : '?' ∉ "".toList := by decide
  refine not_mem_authorityText hempty hempty ?_
  dsimp only
  split
  · decide
  · exact hhost

theorem reads_of_readOther {s : List Char} {body : Body} (h : readOther s = .ok body) :
    Reads s body := by
  unfold readOther at h
  split at h
  · next r =>
    obtain ⟨⟨a, rest⟩, hauthority, h⟩ := exists_of_bind_ok h
    obtain ⟨hmark, ha⟩ := marks_of_readAuthority hauthority
    simp only [List.span_eq_takeWhile_dropWhile] at h
    cases h
    refine ⟨?_, ?_, not_mem_pathText ?_⟩
    · have hslashes : fromMark ('/' :: '/' :: r) = fromMark r :=
        fromMark_append (a := ['/', '/']) (List.all_iff_forall_prop.1 (by decide)) r
      rw [hslashes, ← hmark]
      rfl
    · rintro _ ⟨⟩
      exact ha
    · split
      · nofun
      · exact not_mem_readSegments fun hmem =>
          not_mem_takeWhile rest (mem_of_mem_dropSlash hmem)
  · simp only [List.span_eq_takeWhile_dropWhile] at h
    have hpath := not_mem_takeWhile s
    cases h
    refine ⟨rfl, nofun, ?_⟩
    dsimp only
    split
    · next r heq =>
      rw [heq] at hpath
      exact not_mem_pathText (not_mem_readSegments fun hmem =>
        hpath (List.mem_cons_of_mem _ hmem))
    · rw [Path.toText, String.toList_ofList]
      exact not_mem_escape hpath

theorem mem_cleaned_iff_of_mark {s : List Char} {c : Char} (h : endsPath c = true) :
    c ∈ cleaned s ↔ c ∈ s := by
  have hmark : c = '?' ∨ c = '#' := by simpa [endsPath] using h
  have hkept : decide (c.toNat ≤ 0x20) = false ∧ (!(c = '\t' || c = '\n' || c = '\r')) = true := by
    rcases hmark with rfl | rfl <;> decide
  rw [cleaned, List.mem_filter, Text.dropEndWhile_eq_rdropWhile]
  constructor
  · rintro ⟨hmem, -⟩
    exact (List.dropWhile_suffix _).subset ((List.rdropWhile_prefix _ _).subset hmem)
  · intro hmem
    refine ⟨?_, hkept.2⟩
    -- A mark is neither among the blanks before the text nor among those after it.
    rw [← List.takeWhile_append_dropWhile (p := fun d => decide (d.toNat ≤ 0x20)) (l := s),
      ← List.rdropWhile_append_rtakeWhile (p := fun d => decide (d.toNat ≤ 0x20))
        (l := s.dropWhile _), List.mem_append, List.mem_append] at hmem
    rcases hmem with hmem | hmem | hmem
    · exact absurd (List.mem_takeWhile_imp hmem) (by simp [hkept.1])
    · exact hmem
    · exact absurd (List.mem_rtakeWhile_imp hmem) (by simp [hkept.1])

theorem marks_of_readScheme? {s rest : List Char} {scheme : String}
    (h : readScheme? s = some (scheme, rest)) :
    fromMark s = fromMark rest ∧ '?' ∉ scheme.toList := by
  unfold readScheme? at h
  rw [List.span_eq_takeWhile_dropWhile] at h
  have hplain : ∀ c ∈ s.takeWhile (fun c => c.isAlphanum || c = '+' || c = '-' || c = '.'),
      endsPath c = false := fun c hc => by
    have hc := List.mem_takeWhile_imp hc
    rw [endsPath_eq_false_iff]
    constructor
    · rintro rfl
      exact absurd hc (by decide)
    · rintro rfl
      exact absurd hc (by decide)
  have hsplit := List.takeWhile_append_dropWhile
    (p := fun c : Char => c.isAlphanum || c = '+' || c = '-' || c = '.') (l := s)
  split at h
  · next c r tail heq =>
    obtain ⟨htake, hdrop⟩ := Prod.mk.inj heq
    rw [htake] at hplain hsplit
    rw [hdrop] at hsplit
    rw [Option.ite_none_right_eq_some, Option.some.injEq, Prod.mk.injEq] at h
    obtain ⟨-, rfl, rfl⟩ := h
    refine ⟨?_, fun hmem => ?_⟩
    · rw [← hsplit, fromMark_append hplain]
      exact fromMark_append (a := [':']) (List.forall_mem_singleton.2 (by decide)) tail
    · rw [String.toList_ofList] at hmem
      obtain ⟨d, hd, hlower⟩ := List.mem_map.1 hmem
      rw [Text.toLower_eq_iff (by decide)] at hlower
      exact (endsPath_eq_false_iff.1 (hplain d hd)).1 hlower
  · cases h

theorem exists_reads_of_parse {s : String} {u : Url} (h : parse s = .ok u) :
    ∃ rest body, readScheme? (cleaned s.toList) = some (u.scheme, rest) ∧ Reads rest body ∧
      u.authority = body.authority ∧ u.path = body.path ∧
      (u.query = none ↔ (cut (· == '?') (cut (· == '#') body.tail).1).2 = none) ∧
      (u.fragment = none ↔ (cut (· == '#') body.tail).2 = none) := by
  unfold parse at h
  split at h
  · cases h
  next scheme rest hscheme =>
  dsimp only at h
  split at h
  · obtain ⟨body, hbody, h⟩ := exists_of_bind_ok h
    cases h
    exact ⟨rest, body, hscheme, reads_of_readWeb hbody, rfl, rfl, Option.map_eq_none_iff,
      Option.map_eq_none_iff⟩
  · obtain ⟨body, hbody, h⟩ := exists_of_bind_ok h
    cases h
    exact ⟨rest, body, hscheme, reads_of_readFile hbody, rfl, rfl, Option.map_eq_none_iff,
      Option.map_eq_none_iff⟩
  · obtain ⟨body, hbody, h⟩ := exists_of_bind_ok h
    cases h
    exact ⟨rest, body, hscheme, reads_of_readOther hbody, rfl, rfl, Option.map_eq_none_iff,
      Option.map_eq_none_iff⟩

theorem not_mem_lead {s : String} {u : Url} (h : parse s = .ok u) : '?' ∉ u.lead.toList := by
  obtain ⟨rest, body, hscheme, hreads, hauthority, hpath, -⟩ := exists_reads_of_parse h
  have hguard : ∀ path : Path, '?' ∉ path.guard.toList := by
    intro path
    unfold Path.guard
    split <;> decide
  simp only [lead, String.toList_append, List.mem_append, not_or]
  refine ⟨⟨⟨(marks_of_readScheme? hscheme).2, by decide⟩, ?_⟩, hpath ▸ hreads.path⟩
  split
  · next a ha =>
    rw [String.toList_append, List.mem_append, not_or]
    exact ⟨by decide, hreads.authority a (hauthority ▸ ha)⟩
  · exact hguard _

/-- A URL has neither a query nor a fragment just if the text that it was read from has no mark of
one. -/
theorem unmarked_iff {s : String} {u : Url} (h : parse s = .ok u) :
    (u.query = none ∧ u.fragment = none) ↔ ∀ c ∈ s.toList, endsPath c = false := by
  obtain ⟨rest, body, hscheme, hreads, -, -, hquery, hfragment⟩ := exists_reads_of_parse h
  have hclean : (∀ c ∈ s.toList, endsPath c = false) ↔
      ∀ c ∈ cleaned s.toList, endsPath c = false := by
    simp only [← Bool.not_eq_true]
    exact ⟨fun hs c hc hmark => hs c ((mem_cleaned_iff_of_mark hmark).1 hc) hmark,
      fun hs c hc hmark => hs c ((mem_cleaned_iff_of_mark hmark).2 hc) hmark⟩
  rw [hquery, hfragment, cuts_eq_none_iff, hclean, ← fromMark_eq_nil_iff, ← fromMark_eq_nil_iff,
    (marks_of_readScheme? hscheme).1, hreads.tail, fromMark, fromMark, List.dropWhile_idempotent]

theorem cut_addPairs {s : String} {u : Url} (h : parse s = .ok u) (hquery : u.query = none)
    (hfragment : u.fragment = none) (pairs : List (String × String)) :
    cut (· == '?') (u.addPairs pairs).toText.toList =
      (u.lead.toList, some (formQuery pairs).toList) := by
  have htext : (u.addPairs pairs).toText = u.lead ++ ("?" ++ formQuery pairs) ++ "" := by
    rw [addPairs, hquery, toText, hfragment]
    rfl
  rw [htext, String.append_empty, String.toList_append, String.toList_append]
  refine cut_append (fun c hc => ?_) (by decide) _
  rw [beq_eq_false_iff_ne]
  rintro rfl
  exact not_mem_lead h hc

end BoardFilter.Url
