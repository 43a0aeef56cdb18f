import BoardFilter.Favorites
import BoardFilter.Site.Client

/-!
# Favorites outlive a session

The settings give back favorites whose ids have 64 bits, and the site lists no others.
-/

namespace BoardFilter

def Storable (ids : List Nat) : Prop := ∀ i ∈ ids, i < 0x10000000000000000

theorem Favorites.load_save {favorites : IdSet} (h : Storable favorites.toList)
    (settings : Settings) : load (save favorites settings) = .ok favorites := by
  obtain ⟨words, hwords⟩ : ∃ words : List Json.Word, words.map (·.val) = favorites.toList :=
    have hlt : ∀ i ∈ favorites.toList, i < 0x10000000000000000 := h
    ⟨favorites.toList.pmap Fin.mk hlt, by simp [List.map_pmap]⟩
  have hread : Json.asList? Json.asWord? (.array (favorites.toList.map Json.nat)) =
      some words := by
    refine Json.asList?_eq_some_iff.2 ⟨_, rfl, ?_⟩
    rw [← hwords, List.map_map, List.map_map]
    apply List.map_congr_left
    intro n _
    rw [Function.comp_apply, Function.comp_apply, Json.asWord?]
    exact Json.asNatBelow?_eq_some_iff.2 rfl
  rw [load, Settings.read?, save, Settings.get?_set_self]
  simp only [hread, Except.map, Option.getD_some, hwords, Except.ok.injEq]
  apply IdSet.ext
  intro i
  rw [IdSet.mem_ofList, IdSet.mem_iff]

theorem storable_ids (posts : List Post) : Storable (posts.map (·.id)) := by
  intro i hi
  obtain ⟨p, -, rfl⟩ := List.mem_map.1 hi
  exact p.id_lt

namespace Site

theorem Client.storable_favoritesFrom {user : Option Nat} {count : Nat} {ids : List Nat}
    {c : Client} {page : Nat} (h : (c.favoritesFrom user page count).1 = .ok ids) :
    Storable ids := by
  induction count generalizing c page ids with
  | zero =>
    cases h
    intro i hi
    cases hi
  | succ count ih =>
    unfold favoritesFrom at h
    generalize c.ask .favorites none (favoritesQuery user page) = asked at h
    obtain ⟨answer, c⟩ := asked
    simp only at h
    cases hread : answer.bind readPosts with
    | error failure =>
      rw [hread] at h
      cases h
    | ok posts =>
      have hpage := storable_ids posts
      simp only [hread] at h
      split at h
      · cases h
        exact hpage
      · cases hrest : (c.favoritesFrom user (page + 1) count).1 with
        | error failure => simp [hrest, Except.map] at h
        | ok rest =>
          simp only [hrest, Except.map, Except.ok.injEq] at h
          rw [← h]
          intro i hi
          rcases List.mem_append.1 hi with hi | hi
          · exact hpage i hi
          · exact ih hrest i hi

end Site

end BoardFilter
