import BoardFilter.Proofs.Line.Matches
import Mathlib.Data.List.DropRight

/-!
# What updates leave behind

A match is remembered at once, but a miss is forgotten only on request. What a line remembers
therefore depends on all its updates since it was last cleared: an id is remembered just if one of
them matched it and no later one both missed it and evicted.
-/

namespace BoardFilter.Line

inductive Step where
  | update (post : Post) (evict : Bool)
  | updateAll (posts : List Post) (evict : Bool)
  | setEnabled (enabled : Bool)
  | toggle
  | clear

def step (l : Line) : Step → Line
  | .update post evict => (l.update post evict).1
  | .updateAll posts evict => (l.updateAll posts evict).1
  | .setEnabled enabled => l.setEnabled enabled
  | .toggle => l.toggle
  | .clear => l.clear

def run (l : Line) (steps : List Step) : Line := steps.foldl step l

namespace Step

def updates : Step → List (Post × Bool)
  | update post evict => [(post, evict)]
  | updateAll posts evict => posts.map (·, evict)
  | _ => []

def clears : Step → Bool
  | clear => true
  | _ => false

def switches : Step → Bool
  | setEnabled _ | toggle => true
  | _ => false

theorem of_switches {s : Step} (h : s.switches = true) : s.clears = false ∧ s.updates = [] := by
  cases s with
  | setEnabled | toggle => exact ⟨rfl, rfl⟩
  | update | updateAll | clear => cases h

end Step

def updatesSinceClear (steps : List Step) : List (Post × Bool) :=
  (steps.rtakeWhile (!·.clears)).flatMap Step.updates

theorem updatesSinceClear_concat (steps : List Step) (s : Step) :
    updatesSinceClear (steps ++ [s]) =
      if s.clears then [] else updatesSinceClear steps ++ s.updates := by
  rw [updatesSinceClear, List.rtakeWhile_concat]
  cases s.clears with
  | true => rfl
  | false => simp [updatesSinceClear]

theorem updatesSinceClear_filter (steps : List Step) :
    updatesSinceClear (steps.filter (!·.switches)) = updatesSinceClear steps := by
  induction steps using List.reverseRecOn with
  | nil => rfl
  | append_singleton steps s ih =>
    rw [List.filter_append, updatesSinceClear_concat]
    cases hs : s.switches with
    | true =>
      obtain ⟨hclears, hupdates⟩ := Step.of_switches hs
      simp [hs, hclears, hupdates, ih]
    | false =>
      have hone : [s].filter (!·.switches) = [s] := by simp [hs]
      rw [hone, updatesSinceClear_concat, ih]

/-- One of the updates with the id matched, and no later one missed and evicted. -/
def Survives (matching : Post → Bool) (id : Nat) (updates : List (Post × Bool)) : Prop :=
  ∃ before p evict after, updates = before ++ (p, evict) :: after ∧ p.id = id ∧
    matching p = true ∧ ∀ u ∈ after, u.1.id = id → u.2 = true → matching u.1 = true

section

variable {matching : Post → Bool} {id : Nat} {us : List (Post × Bool)}

theorem not_survives_nil : ¬ Survives matching id [] := by
  rintro ⟨before, p, evict, after, heq, -⟩
  simp at heq

theorem survives_concat (u : Post × Bool) :
    Survives matching id (us ++ [u]) ↔ (u.1.id = id ∧ matching u.1 = true) ∨
      (Survives matching id us ∧ (u.1.id = id → u.2 = true → matching u.1 = true)) := by
  constructor
  · rintro ⟨before, p, evict, after, heq, hid, hm, hafter⟩
    -- the update that matched is the new one just if nothing comes after it
    rcases List.eq_nil_or_concat after with rfl | ⟨rest, v, rfl⟩
    · obtain ⟨-, hu⟩ := List.append_inj' heq rfl
      rw [List.singleton_inj.1 hu]
      exact Or.inl ⟨hid, hm⟩
    · have hsplit : us ++ [u] = (before ++ (p, evict) :: rest) ++ [v] := by simpa using heq
      obtain ⟨rfl, hu⟩ := List.append_inj' hsplit rfl
      rw [List.singleton_inj.1 hu]
      exact Or.inr ⟨⟨before, p, evict, rest, rfl, hid, hm, fun w hw => hafter w (by simp [hw])⟩,
        hafter v (by simp)⟩
  · rintro (⟨hid, hm⟩ | ⟨⟨before, p, evict, after, rfl, hid, hm, hafter⟩, hu⟩)
    · exact ⟨us, u.1, u.2, [], rfl, hid, hm, by simp⟩
    · refine ⟨before, p, evict, after ++ [u], by simp, hid, hm, fun w hw => ?_⟩
      rcases List.mem_append.1 hw with hw | hw
      · exact hafter w hw
      · rwa [List.mem_singleton.1 hw]

end

theorem update_snd (l : Line) (p : Post) (evict : Bool) : (l.update p evict).2 = l.evaluate p := by
  rw [update]
  cases l.evaluate p <;> cases evict <;> rfl

theorem updateEach_snd (l : Line) (evict : Bool) (posts : List Post) :
    (l.updateEach evict posts).2 = posts.map l.evaluate := by
  induction posts generalizing l with
  | nil => rfl
  | cons p ps ih =>
    change (l.update p evict).2 :: ((l.update p evict).1.updateEach evict ps).2 = _
    rw [update_snd, ih, (sameRule_update l p evict).evaluate, List.map_cons]

theorem updateAll_eq_run (l : Line) (posts : List Post) (evict : Bool) :
    (l.updateAll posts evict).1 = l.run (posts.map (Step.update · evict)) := by
  change (l.updateEach evict posts).1 = _
  induction posts generalizing l with
  | nil => rfl
  | cons p ps ih =>
    change ((l.update p evict).1.updateEach evict ps).1 = _
    rw [ih, List.map_cons, run, run, List.foldl_cons, step]

structure Recalls (l : Line) (matching : Post → Bool) (updates : List (Post × Bool)) : Prop where
  evaluate : l.evaluate = matching
  mem_iff : ∀ id, id ∈ l.matched ↔ Survives matching id updates

namespace Recalls

variable {l : Line} {matching : Post → Bool} {us : List (Post × Bool)}

theorem of_new (h : l.matched = .empty) : l.Recalls l.evaluate [] := by
  refine ⟨rfl, fun id => ?_⟩
  rw [h]
  exact iff_of_false (IdSet.not_mem_empty id) not_survives_nil

theorem update (h : l.Recalls matching us) (p : Post) (evict : Bool) :
    (l.update p evict).1.Recalls matching (us ++ [(p, evict)]) := by
  refine ⟨(sameRule_update l p evict).evaluate.trans h.evaluate, fun id => ?_⟩
  rw [mem_update_iff, survives_concat, h.evaluate, h.mem_iff]

theorem updateAll (h : l.Recalls matching us) (posts : List Post) (evict : Bool) :
    (l.updateAll posts evict).1.Recalls matching (us ++ posts.map (·, evict)) := by
  change (l.updateEach evict posts).1.Recalls matching _
  induction posts generalizing l us with
  | nil => simpa [updateEach] using h
  | cons p ps ih =>
    have hrest := ih (h.update p evict)
    rwa [List.append_assoc, List.singleton_append] at hrest

theorem congr {m : Line} (h : l.Recalls matching us) (he : m.evaluate = l.evaluate)
    (hm : m.matched = l.matched) : m.Recalls matching us := by
  refine ⟨he.trans h.evaluate, fun id => ?_⟩
  rw [hm]
  exact h.mem_iff id

theorem step (h : l.Recalls matching us) (s : Step) :
    (l.step s).Recalls matching (if s.clears then [] else us ++ s.updates) := by
  cases s with
  | update p evict => exact h.update p evict
  | updateAll posts evict => exact h.updateAll posts evict
  | setEnabled enabled =>
    change (l.setEnabled enabled).Recalls matching (us ++ [])
    rw [List.append_nil]
    exact h.congr rfl rfl
  | toggle =>
    change l.toggle.Recalls matching (us ++ [])
    rw [List.append_nil]
    exact h.congr rfl rfl
  | clear =>
    have hclear := of_new (l := l.clear) rfl
    rwa [l.sameRule_clear.evaluate, h.evaluate] at hclear

theorem run (h : l.Recalls l.evaluate []) (steps : List Step) :
    (l.run steps).Recalls l.evaluate (updatesSinceClear steps) := by
  induction steps using List.reverseRecOn with
  | nil => exact h
  | append_singleton steps s ih =>
    rw [updatesSinceClear_concat, Line.run, List.foldl_concat]
    exact ih.step s

end Recalls

/-- What a compiled line remembers after any steps is told by the updates since it was last cleared.
Its state has no part in it, an update answers with the evaluation of its post, and a batch shows
every post to the line, also those after one that missed. -/
theorem run_remembers_survivors (text : String) (enabled : Bool) (ex : Exemptions)
    (steps : List Step) :
    let l := compile text enabled ex
    let m := l.run steps
    (∀ id, id ∈ m.matched ↔
      ∃ before p evict after, updatesSinceClear steps = before ++ (p, evict) :: after ∧
        p.id = id ∧ l.evaluate p = true ∧
        ∀ u ∈ after, u.1.id = id → u.2 = true → l.evaluate u.1 = true) ∧
    (m.toggle.matched = m.matched ∧ ∀ e, (m.setEnabled e).matched = m.matched) ∧
    (l.run (steps.filter (!·.switches))).matched = m.matched ∧
    (∀ p evict, (m.update p evict).2 = l.evaluate p) ∧
    ∀ posts evict, (m.updateAll posts evict).2 = posts.all l.evaluate ∧
      (m.updateAll posts evict).1 = m.run (posts.map (Step.update · evict)) := by
  intro l m
  have hnew : l.Recalls l.evaluate [] := .of_new rfl
  have hrun := hnew.run steps
  refine ⟨hrun.mem_iff, ⟨rfl, fun _ => rfl⟩, ?_, fun p evict => ?_, fun posts evict => ⟨?_, ?_⟩⟩
  · apply IdSet.ext
    intro id
    rw [(hnew.run _).mem_iff, updatesSinceClear_filter, hrun.mem_iff]
  · rw [update_snd, hrun.evaluate]
  · change (m.updateEach evict posts).2.all (fun b => b) = _
    rw [updateEach_snd, hrun.evaluate, List.all_map]
    rfl
  · exact m.updateAll_eq_run posts evict

end BoardFilter.Line
