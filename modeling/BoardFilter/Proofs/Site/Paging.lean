import BoardFilter.Site.Client

/-!
# Questions of several requests

A question that takes several requests fails with the first of its pages that fails, however many
pages were read before, and with no other. The searches are sent together and waited for in turn;
the pages of favorites are asked for one after the other, as long as they are full.
-/

namespace BoardFilter.Site.Client

variable {c c' : Client} {failure : Failure}

def page (c : Client) (call : Nat) : Except Failure (List Post) := (c.await call).1.bind readPosts

theorem collect_of_ok {call : Nat} {posts : List Post} (h : c.page call = .ok posts)
    (calls : List Nat) :
    (c.collect (call :: calls)).1 =
      ⟨posts :: ((c.await call).2.collect calls).1.read,
        ((c.await call).2.collect calls).1.failure⟩ := by
  rw [page] at h
  simp only [collect, h]

theorem collect_of_error {call : Nat} (h : c.page call = .error failure) (calls : List Nat) :
    (c.collect (call :: calls)).1 = ⟨[], some failure⟩ := by
  rw [page] at h
  simp only [collect, h]

inductive Reads : Client → List Nat → List (List Post) → Client → Prop where
  | nil (c : Client) : Reads c [] [] c
  | cons {c c' : Client} {call : Nat} {calls : List Nat} {posts : List Post}
      {pages : List (List Post)} (h : c.page call = .ok posts)
      (rest : Reads (c.await call).2 calls pages c') :
      Reads c (call :: calls) (posts :: pages) c'

theorem Reads.collect {calls : List Nat} {pages : List (List Post)} (h : Reads c calls pages c')
    (more : List Nat) :
    (c.collect (calls ++ more)).1 =
      ⟨pages ++ (c'.collect more).1.read, (c'.collect more).1.failure⟩ := by
  induction h with
  | nil => rfl
  | cons h rest ih => rw [List.cons_append, collect_of_ok h, ih, List.cons_append]

theorem exists_reads (c : Client) (calls : List Nat) :
    (∃ c', Reads c calls (c.collect calls).1.read c' ∧ (c.collect calls).1.failure = none) ∨
      ∃ earlier call later c' failure, calls = earlier ++ call :: later ∧
        Reads c earlier (c.collect calls).1.read c' ∧ c'.page call = .error failure := by
  induction calls generalizing c with
  | nil => exact Or.inl ⟨c, .nil c, rfl⟩
  | cons call calls ih =>
    cases hpage : c.page call with
    | error failure =>
      rw [collect_of_error hpage]
      exact Or.inr ⟨[], call, calls, c, failure, rfl, .nil c, hpage⟩
    | ok posts =>
      rw [collect_of_ok hpage]
      rcases ih (c.await call).2 with ⟨c', hread, hnone⟩ |
        ⟨earlier, call', later, c', failure, hcalls, hread, hfail⟩
      · exact Or.inl ⟨c', .cons hpage hread, hnone⟩
      · refine Or.inr ⟨call :: earlier, call', later, c', failure, ?_, .cons hpage hread, hfail⟩
        rw [hcalls, List.cons_append]

theorem collect_eq_iff {calls : List Nat} {read : List (List Post)} :
    (c.collect calls).1 = ⟨read, some failure⟩ ↔
      ∃ earlier call later c', calls = earlier ++ call :: later ∧ Reads c earlier read c' ∧
        c'.page call = .error failure := by
  constructor
  · intro h
    rcases exists_reads c calls with ⟨c', -, hnone⟩ |
      ⟨earlier, call, later, c', other, rfl, hread, hfail⟩
    · rw [h] at hnone
      cases hnone
    · have hstop := hread.collect (call :: later)
      rw [collect_of_error hfail, h, Pages.mk.injEq, Option.some.injEq] at hstop
      rw [h] at hread
      rw [hstop.2]
      exact ⟨earlier, call, later, c', rfl, hread, hfail⟩
  · rintro ⟨earlier, call, later, c', rfl, hread, hfail⟩
    rw [hread.collect, collect_of_error hfail, List.append_nil]

/-- Searches come to a failure after some pages: one of them cannot be sent, and then none is, or
one is not answered with a page. -/
inductive Breaks (c : Client) (searches : List Search) : List (List Post) → Failure → Prop where
  | unsent {failure : Failure}
      (h : searches.mapM (Search.request c.config) = .error failure) : Breaks c searches [] failure
  | unread {requests : List Request} {earlier later : List Nat} {call : Nat} {c' : Client}
      {read : List (List Post)} {failure : Failure}
      (hsent : searches.mapM (Search.request c.config) = .ok requests)
      (hcalls : (c.sendAll .posts requests).1 = earlier ++ call :: later)
      (hread : Reads (c.sendAll .posts requests).2 earlier read c')
      (hfail : c'.page call = .error failure) : Breaks c searches read failure

theorem searchAll_eq_iff {searches : List Search} {read : List (List Post)} :
    (c.searchAll searches).1 = ⟨read, some failure⟩ ↔ c.Breaks searches read failure := by
  rw [searchAll]
  cases hsent : searches.mapM (Search.request c.config) with
  | error other =>
    constructor
    · intro h
      cases h
      exact .unsent hsent
    · rintro (h | h)
      · rw [hsent] at h
        cases h
        rfl
      · rw [hsent] at h
        cases h
  | ok requests =>
    simp only [collect_eq_iff]
    constructor
    · rintro ⟨earlier, call, later, c', hcalls, hread, hfail⟩
      exact .unread hsent hcalls hread hfail
    · rintro (h | ⟨h, hcalls, hread, hfail⟩)
      · rw [hsent] at h
        cases h
      · rw [hsent] at h
        cases h
        exact ⟨_, _, _, _, hcalls, hread, hfail⟩

theorem searchAll_error_iff {searches : List Search} :
    (c.searchAll searches).1.posts = .error failure ↔ ∃ read, c.Breaks searches read failure := by
  simp only [← searchAll_eq_iff]
  generalize (c.searchAll searches).1 = pages
  obtain ⟨read, stop⟩ := pages
  cases stop <;> simp [Pages.posts]

def favoritesPage (c : Client) (user : Option Nat) (page : Nat) : Except Failure (List Post) :=
  (c.ask .favorites none (favoritesQuery user page)).1.bind readPosts

def afterFavorites (c : Client) (user : Option Nat) (page : Nat) : Client :=
  (c.ask .favorites none (favoritesQuery user page)).2

inductive FullPages (user : Option Nat) : Client → Nat → Nat → Client → Prop where
  | zero (c : Client) (page : Nat) : FullPages user c page 0 c
  | succ {c c' : Client} {page n : Nat} {posts : List Post}
      (h : c.favoritesPage user page = .ok posts) (hfull : ¬ posts.length < largestLimit)
      (rest : FullPages user (c.afterFavorites user page) (page + 1) n c') :
      FullPages user c page (n + 1) c'

variable {user : Option Nat} {page : Nat}

theorem favoritesFrom_of_error (h : c.favoritesPage user page = .error failure) (count : Nat) :
    c.favoritesFrom user page (count + 1) = (.error failure, c.afterFavorites user page) := by
  rw [favoritesPage] at h
  simp only [favoritesFrom, h, afterFavorites]

theorem favoritesFrom_of_short {posts : List Post} (h : c.favoritesPage user page = .ok posts)
    (hshort : posts.length < largestLimit) (count : Nat) :
    c.favoritesFrom user page (count + 1) =
      (.ok (posts.map (·.id)), c.afterFavorites user page) := by
  rw [favoritesPage] at h
  simp only [favoritesFrom, h, hshort, ↓reduceIte, afterFavorites]

theorem favoritesFrom_of_full {posts : List Post} (h : c.favoritesPage user page = .ok posts)
    (hfull : ¬ posts.length < largestLimit) (count : Nat) :
    c.favoritesFrom user page (count + 1) =
      (((c.afterFavorites user page).favoritesFrom user (page + 1) count).1.map
          (posts.map (·.id) ++ ·),
        ((c.afterFavorites user page).favoritesFrom user (page + 1) count).2) := by
  rw [favoritesPage] at h
  simp only [favoritesFrom, h, hfull, ↓reduceIte, afterFavorites]

theorem FullPages.favoritesFrom {n : Nat} (h : FullPages user c page n c') {count : Nat}
    (hfail : (c'.favoritesFrom user (page + n) count).1 = .error failure) :
    (c.favoritesFrom user page (n + count)).1 = .error failure := by
  induction h with
  | zero c page =>
    rw [Nat.zero_add]
    exact hfail
  | succ h hfull rest ih =>
    rw [Nat.succ_add, favoritesFrom_of_full h hfull, ih (by rwa [Nat.succ_add_eq_add_succ])]
    rfl

theorem exists_fullPages {count : Nat} (h : (c.favoritesFrom user page count).1 = .error failure) :
    ∃ n c', n < count ∧ FullPages user c page n c' ∧
      c'.favoritesPage user (page + n) = .error failure := by
  induction count generalizing c page with
  | zero => cases h
  | succ count ih =>
    cases hpage : c.favoritesPage user page with
    | error other =>
      rw [favoritesFrom_of_error hpage] at h
      cases h
      exact ⟨0, c, Nat.succ_pos count, .zero c page, hpage⟩
    | ok posts =>
      by_cases hshort : posts.length < largestLimit
      · rw [favoritesFrom_of_short hpage hshort] at h
        cases h
      · rw [favoritesFrom_of_full hpage hshort] at h
        cases hrest : ((c.afterFavorites user page).favoritesFrom user (page + 1) count).1 with
        | ok ids =>
          rw [hrest] at h
          cases h
        | error other =>
          rw [hrest] at h
          cases h
          obtain ⟨n, c', hn, hfull, hfail⟩ := ih hrest
          refine ⟨n + 1, c', Nat.succ_lt_succ hn, .succ hpage hshort hfull, ?_⟩
          rwa [← Nat.succ_add_eq_add_succ]

theorem favoriteIds_error_iff :
    (c.favoriteIds user).1 = .error failure ↔
      ∃ n c', n < lastPage ∧ FullPages user c 1 n c' ∧
        c'.favoritesPage user (1 + n) = .error failure := by
  constructor
  · exact exists_fullPages
  · rintro ⟨n, c', hn, hfull, hfail⟩
    obtain ⟨m, hm⟩ : ∃ m, lastPage = n + (m + 1) := ⟨lastPage - n - 1, by omega⟩
    rw [favoriteIds, hm]
    exact hfull.favoritesFrom (by rw [favoritesFrom_of_error hfail])

end BoardFilter.Site.Client
