import BoardFilter.Proofs.Blacklist.Storage
import BoardFilter.Proofs.Clause.Splitting
import BoardFilter.Proofs.Session.Outcome
import BoardFilter.Proofs.Text.AsciiCase
import BoardFilter.Proofs.Text.Respelling
import Mathlib.Data.List.Sort

/-!
# The lines of a first session

A session that finds no stored lines begins with those that the configuration and the account ask
for, each normal form once and all in the configured state, and stores them. It does not matter how
often, in which order and in which spelling they are asked for.
-/

namespace BoardFilter

open Line (normalize)

namespace Site

structure Account where
  id : Nat
  name : String
  blacklist : String

namespace Account

def profile (a : Account) : Profile := ⟨a.id, a.name, Profile.blacklistLines a.blacklist⟩

/-- The answer to a request for a profile speaks of this account; fields that it leaves out are
empty. -/
def IsReadFrom (a : Account) (v : Json) : Prop :=
  ∃ success id name blacklist : Option Json,
    Json.slots? ["success", "id", "name", "blacklisted_tags"] v =
      some [success, id, name, blacklist] ∧
    (Listing.optional? Json.asWord? id).map (·.map (·.val)) = some (some a.id) ∧
    (Listing.optional? Json.asText? name).map (·.getD "") = some a.name ∧
    (Listing.optional? Json.asText? blacklist).map (·.getD "") = some a.blacklist

end Account

theorem Profile.exists_account {v : Json} {success : Option Bool} {p : Profile}
    (h : Profile.read? v = some (success, some p)) :
    ∃ a : Account, a.IsReadFrom v ∧ a.profile = p := by
  unfold Profile.read? at h
  split at h
  · next success' id name blacklist hslots =>
    simp only [Option.bind_eq_bind, Option.bind_eq_some_iff, Option.pure_def, Option.some.injEq,
      Prod.mk.injEq, Option.map_eq_some_iff] at h
    obtain ⟨_, -, _, hid, name', hname, blacklist', hblacklist, -, i, rfl, rfl⟩ := h
    refine ⟨⟨i, name'.getD "", blacklist'.getD ""⟩, ⟨_, _, _, _, hslots, ?_, ?_, ?_⟩, rfl⟩
    · rw [hid, Option.map_some, Option.map_some]
    · rw [hname, Option.map_some]
    · rw [hblacklist, Option.map_some]
  · cases h

theorem Client.exists_answer {answer : Except Failure Answer} {p : Profile}
    (h : ((answer.bind readProfile).map some).toOption.bind id = some p) :
    ∃ a, answer = .ok a ∧ ∃ success, Profile.read? a.payload = some (success, some p) := by
  cases answer with
  | error failure => cases h
  | ok a =>
    refine ⟨a, rfl, ?_⟩
    change ((readProfile a).map some).toOption.bind id = some p at h
    unfold readProfile at h
    split at h
    · cases h
    · cases h
    · cases h
    · next hread =>
      cases h
      exact ⟨_, hread⟩

theorem Client.exists_account {c : Client} {p : Profile}
    (h : c.authenticate.1.toOption.bind id = some p) :
    ∃ user answer, (c.ask .users (some user) []).1 = .ok answer ∧
      ∃ a : Account, a.IsReadFrom answer.payload ∧ a.profile = p := by
  unfold authenticate at h
  split at h
  · cases h
  · next user _ _ =>
    simp only at h
    obtain ⟨answer, hanswer, success, hread⟩ := exists_answer h
    exact ⟨user, answer, hanswer, Profile.exists_account hread⟩

end Site

namespace Text

def IsComment (line : String) : Prop := "//".toList <+: (trim line).toList

theorem isComment_iff_normalize {line : String} :
    IsComment line ↔ "//".toList <+: (normalize line).toList := by
  have htrim : (trim line).toList = trimmed line.toList := String.toList_ofList
  have hslash : ∀ c ∈ "//".toList, c = '/' := by
    have hlist : "//".toList = ['/', '/'] := String.toList_ofList
    rw [hlist]
    simp
  have hlower : IsLower '/' := isLower_of_ascii (by decide) (by decide)
  rw [IsComment, htrim, Line.toList_normalize]
  constructor
  · rintro ⟨rest, hrest⟩
    rw [← hrest, lowered, lowerAfter_append_of_isLower fun c hc => hslash c hc ▸ hlower]
    exact List.prefix_append _ _
  · exact prefix_of_prefix_lowerAfter fun c hc => hslash c hc ▸ (by decide)

end Text

open Text

theorem Site.Profile.mem_blacklistLines {s l : String} :
    l ∈ Profile.blacklistLines s ↔
      ∃ line, IsLineOf line s ∧ isBlankText line = false ∧ ¬ IsComment line ∧ trim line = l := by
  have hempty : ∀ line, (trim line).isEmpty = isBlankText line := by
    intro line
    rw [Bool.eq_iff_iff, String.isEmpty_iff, ← String.toList_inj, trim, String.toList_ofList,
      String.toList_empty, trimmed_eq_nil_iff, isBlankText]
  rw [Profile.blacklistLines, List.mem_filter, mem_trimmedLines_iff, Bool.and_eq_true,
    Bool.not_eq_true', Option.isNone_iff_eq_none, dropLead?_eq_none_iff]
  constructor
  · rintro ⟨⟨line, hline, rfl⟩, hblank, hcomment⟩
    exact ⟨line, hline, (hempty line).symm.trans hblank, hcomment, rfl⟩
  · rintro ⟨line, hline, hblank, hcomment, rfl⟩
    exact ⟨⟨line, hline, rfl⟩, (hempty line).trans hblank, hcomment⟩

namespace Session

inductive Seeds (config : Configuration.Blacklist) (account : Option Site.Account) :
    String → Prop
  | config {line : String} (h : line ∈ config.lines) (hblank : isBlankText line = false) :
      Seeds config account line
  | account {a : Site.Account} (ha : account = some a) {line : String}
      (h : IsLineOf line a.blacklist) (hblank : isBlankText line = false)
      (hcomment : ¬ IsComment line) : Seeds config account line

structure Covers (config : Configuration.Blacklist) (account : Option Site.Account)
    (config' : Configuration.Blacklist) (account' : Option Site.Account) : Prop where
  config : ∀ line ∈ config.lines, ∃ line' ∈ config'.lines, Respelled line line'
  account : ∀ a, account = some a → ∀ line, IsLineOf line a.blacklist →
    ∃ a', account' = some a' ∧ ∃ line', IsLineOf line' a'.blacklist ∧ Respelled line line'

variable {config config' : Configuration.Blacklist} {account account' : Option Site.Account}

theorem Covers.seeds (h : Covers config account config' account') {line : String}
    (hline : Seeds config account line) :
    ∃ line', Seeds config' account' line' ∧ normalize line' = normalize line := by
  have hsame : ∀ {line'}, Respelled line line' → normalize line' = normalize line ∧
      isBlankText line' = isBlankText line ∧ (IsComment line' ↔ IsComment line) := by
    intro line' hr
    have hkey := Line.normalize_eq_of_respelled hr
    refine ⟨hkey.symm, ?_, ?_⟩
    · rw [← LineMap.isBlankText_normalize, ← hkey, LineMap.isBlankText_normalize]
    · rw [isComment_iff_normalize, isComment_iff_normalize, hkey]
  cases hline with
  | config hmem hblank =>
    obtain ⟨line', hmem', hr⟩ := h.config line hmem
    obtain ⟨hkey, hb, -⟩ := hsame hr
    exact ⟨line', .config hmem' (hb.trans hblank), hkey⟩
  | @account a ha _ hmem hblank hcomment =>
    obtain ⟨a', ha', line', hmem', hr⟩ := h.account a ha line hmem
    obtain ⟨hkey, hb, hc⟩ := hsame hr
    exact ⟨line', .account ha' hmem' (hb.trans hblank) (mt hc.1 hcomment), hkey⟩

/-- The text is the normal form of a line that is asked for. -/
def Wanted (config : Configuration.Blacklist) (account : Option Site.Account) (text : String) :
    Prop := ∃ line, Seeds config account line ∧ normalize line = text

theorem wanted_iff_of_covers (h : Covers config account config' account')
    (h' : Covers config' account' config account) (text : String) :
    Wanted config account text ↔ Wanted config' account' text := by
  constructor
  · rintro ⟨line, hline, rfl⟩
    exact h.seeds hline
  · rintro ⟨line, hline, rfl⟩
    exact h'.seeds hline

theorem wanted_iff_exists_mem {text : String} :
    Wanted config account text ↔
      ∃ t ∈ config.lines ++ ((account.map Site.Account.profile).map (·.blacklist)).getD [],
        isBlankText t = false ∧ normalize t = text := by
  have hblank_trim : ∀ line, isBlankText (trim line) = isBlankText line := by
    intro line
    rw [← LineMap.isBlankText_normalize, Line.normalize_trim, LineMap.isBlankText_normalize]
  constructor
  · rintro ⟨line, hline, rfl⟩
    cases hline with
    | config hmem hblank => exact ⟨line, List.mem_append_left _ hmem, hblank, rfl⟩
    | @account a ha _ hmem hblank hcomment =>
      subst ha
      exact ⟨trim line, List.mem_append_right _
        (Site.Profile.mem_blacklistLines.2 ⟨line, hmem, hblank, hcomment, rfl⟩),
        (hblank_trim line).trans hblank, Line.normalize_trim line⟩
  · rintro ⟨t, ht, hblank, rfl⟩
    rcases List.mem_append.1 ht with ht | ht
    · exact ⟨t, .config ht hblank, rfl⟩
    · cases account with
      | none => exact absurd ht List.not_mem_nil
      | some a =>
        obtain ⟨line, hmem, hb, hcomment, rfl⟩ := Site.Profile.mem_blacklistLines.1 ht
        exact ⟨line, .account rfl hmem hb hcomment, (Line.normalize_trim line).symm⟩

/-- The session has one line of each form, all in one state and without matches, and has stored
them. -/
structure TakesUp (s : Session) (forms : List String) (enabled : Bool) : Prop where
  lines : s.lines = forms.map fun t => ⟨t, enabled, 0⟩
  compiled : s.blacklist.lines = forms.map fun t => Line.compile t enabled s.exemptions
  stored : s.settings.get? Blacklist.key =
    some (.array (forms.map fun t => Blacklist.stored (t, enabled)))

theorem exists_takesUp {settings : Settings} (hnew : settings.get? Blacklist.key = none)
    {client : Site.Client} {s : Session}
    (h : opened config settings client (account.map Site.Account.profile) = .ok s) :
    ∃ forms : List String, forms.Pairwise (· < ·) ∧ (∀ t, t ∈ forms ↔ Wanted config account t) ∧
      s.TakesUp forms config.enabled := by
  obtain ⟨-, ids, -, rfl⟩ := (opened_first_iff hnew).1 h
  obtain ⟨forms, hascending, hmem, hlines⟩ := Blacklist.exists_forms_load
    (config.lines ++ ((account.map Site.Account.profile).map (·.blacklist)).getD [])
    config.enabled (config.exemptions ((account.map Site.Account.profile).map (·.id)))
  -- the forms are their own normal forms
  have htext : ∀ t ∈ forms, ∀ ex, (Line.compile t config.enabled ex).text = t := by
    intro t ht ex
    obtain ⟨line, -, -, rfl⟩ := (hmem t).1 ht
    exact Blacklist.text_compile line config.enabled ex
  refine ⟨forms, hascending, fun t => (hmem t).trans wanted_iff_exists_mem.symm, ?_, hlines, ?_⟩
  · rw [Session.lines, seed, hlines, List.map_map]
    refine List.map_congr_left fun t ht => ?_
    rw [Function.comp_apply, htext t ht]
    rfl
  · rw [Blacklist.get?_save, Blacklist.content, seed, hlines, List.map_map, List.map_map]
    refine congrArg (some <| Json.array ·) (List.map_congr_left fun t ht => ?_)
    rw [Function.comp_apply, Function.comp_apply, htext t ht]
    rfl

theorem exists_account_of_connected (config : Configuration.Blacklist) (settings : Settings)
    (client : Site.Client) :
    ∃ (account : Option Site.Account) (client' : Site.Client),
      connected config settings client =
        opened config settings client' (account.map Site.Account.profile) ∧
      ∀ a, account = some a → ∃ user answer, (client.ask .users (some user) []).1 = .ok answer ∧
        a.IsReadFrom answer.payload := by
  rw [connected_eq_opened]
  cases huser : client.authenticate.1.toOption.bind id with
  | none => exact ⟨none, _, rfl, fun a ha => by cases ha⟩
  | some p =>
    obtain ⟨user, answer, hanswer, a, hread, rfl⟩ := Site.Client.exists_account huser
    refine ⟨some a, _, rfl, fun a' ha => ?_⟩
    cases ha
    exact ⟨user, answer, hanswer, hread⟩

/-- If no lines are stored, a session begins with what is wanted of it and stores just that, and it
is the same for every other spelling of what is asked for. -/
theorem first_session_takes_every_line (config : Configuration.Blacklist) (settings : Settings)
    (hnew : settings.get? Blacklist.key = none) :
    (∀ (client : Site.Client) (account : Option Site.Account),
      ((∃ s, opened config settings client (account.map Site.Account.profile) = .ok s) ↔
        settings.fails = false ∧ ∃ ids, Favorites.load settings = .ok ids) ∧
      ∀ s, opened config settings client (account.map Site.Account.profile) = .ok s →
        (∃ forms : List String, forms.Pairwise (· < ·) ∧
          (∀ t, t ∈ forms ↔ Wanted config account t) ∧ s.TakesUp forms config.enabled) ∧
        (∀ key, key ≠ Blacklist.key → s.settings.get? key = settings.get? key) ∧
        ∀ config' account' client' s', config'.enabled = config.enabled →
          Covers config account config' account' → Covers config' account' config account →
          opened config' settings client' (account'.map Site.Account.profile) = .ok s' →
          s'.lines = s.lines ∧
            s'.settings.get? Blacklist.key = s.settings.get? Blacklist.key) ∧
    ∀ client, ∃ (account : Option Site.Account) (client' : Site.Client),
      connected config settings client =
        opened config settings client' (account.map Site.Account.profile) ∧
      ∀ a, account = some a → ∃ user answer, (client.ask .users (some user) []).1 = .ok answer ∧
        a.IsReadFrom answer.payload := by
  refine ⟨fun client account => ⟨?_, fun s hs => ⟨exists_takesUp hnew hs, ?_, ?_⟩⟩,
    exists_account_of_connected config settings⟩
  · constructor
    · rintro ⟨s, hs⟩
      obtain ⟨hfails, ids, hload, -⟩ := (opened_first_iff hnew).1 hs
      exact ⟨hfails, ids, hload⟩
    · rintro ⟨hfails, ids, hload⟩
      exact ⟨_, (opened_first_iff hnew).2 ⟨hfails, ids, hload, rfl⟩⟩
  · obtain ⟨-, ids, -, rfl⟩ := (opened_first_iff hnew).1 hs
    exact fun key hkey => Settings.get?_set_of_ne hkey _ _
  · intro config' account' client' s' henabled hcovers hcovers' hs'
    obtain ⟨forms, hascending, hmem, htakes⟩ := exists_takesUp hnew hs
    obtain ⟨forms', hascending', hmem', htakes'⟩ := exists_takesUp hnew hs'
    have hforms : forms' = forms := by
      apply hascending'.eq_of_mem_iff hascending
      intro t
      rw [hmem, hmem', wanted_iff_of_covers hcovers hcovers']
    rw [htakes'.lines, htakes.lines, htakes'.stored, htakes.stored, hforms, henabled]
    exact ⟨rfl, rfl⟩

theorem first_session_takes_every_line_of_two :
    let config : Configuration.Blacklist := { lines := ["Solo ", "\u00a0", "duo", "// x"] }
    let config' : Configuration.Blacklist := { lines := ["DUO", "// X\t", "", "solo", "\u3000Duo"] }
    let account := some (⟨7, "anna", "// note\r\n Gore\r\nDUO\n\n  //"⟩ : Site.Account)
    let settings := Settings.empty.set Favorites.key (.array [.int 3])
    ∃ s s', settings.get? Blacklist.key = none ∧
      opened config settings default (account.map Site.Account.profile) = .ok s ∧
      opened config' settings default (account.map Site.Account.profile) = .ok s' ∧
      s.lines = [⟨"// x", true, 0⟩, ⟨"duo", true, 0⟩, ⟨"gore", true, 0⟩, ⟨"solo", true, 0⟩] ∧
      (∃ forms : List String, forms.Pairwise (· < ·) ∧
        (∀ t, t ∈ forms ↔ Wanted config account t) ∧ s.TakesUp forms config.enabled) ∧
      s'.lines = s.lines := by
  intro config config' account settings
  have hnew : settings.get? Blacklist.key = none := by decide
  have hfavorites : ∃ ids, Favorites.load settings = .ok ids := ⟨_, rfl⟩
  obtain ⟨hfirst, -⟩ := first_session_takes_every_line config settings hnew
  obtain ⟨hfirst', -⟩ := first_session_takes_every_line config' settings hnew
  obtain ⟨s, hs⟩ := (hfirst default account).1.2 ⟨rfl, hfavorites⟩
  obtain ⟨s', hs'⟩ := (hfirst' default account).1.2 ⟨rfl, hfavorites⟩
  have hsame : ∀ a, account = some a → ∀ line, IsLineOf line a.blacklist →
      ∃ a', account = some a' ∧ ∃ line', IsLineOf line' a'.blacklist ∧ Respelled line line' :=
    fun a ha line hline => ⟨a, ha, line, hline, .refl line⟩
  have hsolo : Respelled "Solo " "solo" :=
    ⟨"", "Solo", " ", "", "solo", "", by decide, rfl, rfl, by decide⟩
  have hblank : Respelled "\u00a0" "" := ⟨"", "", "\u00a0", "", "", "", by decide, rfl, rfl, rfl⟩
  have hduo : Respelled "duo" "DUO" :=
    ⟨"", "duo", "", "", "DUO", "", by decide, rfl, rfl, by decide⟩
  have hduo' : Respelled "duo" "\u3000Duo" :=
    ⟨"", "duo", "", "\u3000", "Duo", "", by decide, rfl, rfl, by decide⟩
  have hx : Respelled "// x" "// X\t" :=
    ⟨"", "// x", "", "", "// X", "\t", by decide, rfl, rfl, by decide⟩
  have hcovers : Covers config account config' account := by
    refine ⟨fun line hline => ?_, hsame⟩
    simp only [config, List.mem_cons, List.not_mem_nil, or_false] at hline
    rcases hline with rfl | rfl | rfl | rfl
    · exact ⟨_, by decide, hsolo⟩
    · exact ⟨_, by decide, hblank⟩
    · exact ⟨_, by decide, hduo⟩
    · exact ⟨_, by decide, hx⟩
  have hcovers' : Covers config' account config account := by
    refine ⟨fun line hline => ?_, hsame⟩
    simp only [config', List.mem_cons, List.not_mem_nil, or_false] at hline
    rcases hline with rfl | rfl | rfl | rfl | rfl
    · exact ⟨_, by decide, hduo.symm⟩
    · exact ⟨_, by decide, hx.symm⟩
    · exact ⟨_, by decide, hblank.symm⟩
    · exact ⟨_, by decide, hsolo.symm⟩
    · exact ⟨_, by decide, hduo'.symm⟩
  obtain ⟨htakes, -, hother⟩ := (hfirst default account).2 s hs
  refine ⟨s, s', hnew, hs, hs', ?_, htakes,
    (hother config' account default s' rfl hcovers hcovers' hs').1⟩
  have hseed : ((seed config (account.map Site.Account.profile)).lines.map fun l =>
        (⟨l.text, l.enabled, l.matched.size⟩ : LineSummary)) =
      [⟨"// x", true, 0⟩, ⟨"duo", true, 0⟩, ⟨"gore", true, 0⟩, ⟨"solo", true, 0⟩] := by
    decide +kernel
  obtain ⟨-, ids, -, rfl⟩ := (opened_first_iff hnew).1 hs
  exact hseed

end Session

end BoardFilter
