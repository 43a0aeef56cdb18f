import BoardFilter.Site.Queue

/-!
# The worker of a queue

A queue never has more than one worker, and it has one whenever an entry waits. So the phases of
that worker say everything that a step can do.
-/

namespace BoardFilter.Site.Queue

/-- The queue is marked as draining just while its one worker is there, and no entry is left without
it. -/
structure Steady (q : Queue) : Prop where
  workers : q.workers.length = if q.draining then 1 else 0
  busy : q.entries ≠ [] → q.draining = true

theorem steady_empty : Steady {} := ⟨rfl, fun h => absurd rfl h⟩

theorem Steady.workers_le {q : Queue} (h : q.Steady) : q.workers.length ≤ 1 := by
  rw [h.workers]
  split <;> omega

theorem Steady.workers_cases {q : Queue} (h : q.Steady) :
    (q.workers = [] ∧ q.draining = false ∧ q.entries = []) ∨
      ∃ phase, q.workers = [phase] ∧ q.draining = true := by
  have hw := h.workers
  cases hd : q.draining with
  | true =>
    rw [hd, if_pos rfl] at hw
    obtain ⟨phase, hphase⟩ := List.length_eq_one_iff.1 hw
    exact Or.inr ⟨phase, hphase, rfl⟩
  | false =>
    rw [hd, if_neg Bool.false_ne_true] at hw
    refine Or.inl ⟨List.length_eq_zero_iff.1 hw, rfl, ?_⟩
    cases he : q.entries with
    | nil => rfl
    | cons e rest =>
      have hbusy := h.busy (by rw [he]; exact List.cons_ne_nil e rest)
      rw [hd] at hbusy
      cases hbusy

theorem Steady.of_working {q : Queue} {phase : Phase} (hw : q.workers = [phase])
    (hd : q.draining = true) : q.Steady := ⟨by rw [hw, hd]; rfl, fun _ => hd⟩

variable {q : Queue}

theorem Steady.draining_of_workers (h : q.Steady) {phase : Phase} (hw : q.workers = [phase]) :
    q.draining = true := by
  rcases h.workers_cases with ⟨hnone, -, -⟩ | ⟨-, -, hd⟩
  · rw [hnone] at hw
    cases hw
  · exact hd

theorem advance_take_nil (hw : q.workers = [.ready]) (he : q.entries = []) :
    q.advance 0 .take = { q with draining := false, workers := [] } := by
  simp [advance, hw, he]

theorem advance_take_cons {entry : Entry} {rest : List Entry} (hw : q.workers = [.ready])
    (he : q.entries = entry :: rest) :
    q.advance 0 .take = { q with entries := rest, workers := [.sending entry] } := by
  simp [advance, hw, he]

theorem advance_settle {entry : Entry} (hw : q.workers = [.sending entry]) (reply : Reply) :
    q.advance 0 (.settle reply) =
      { q with workers := [.holding entry (Answer.ofReply entry.endpoint reply)] } := by
  simp [advance, hw]

theorem advance_deliver {entry : Entry} {outcome : Except Failure Answer}
    (hw : q.workers = [.holding entry outcome]) :
    q.advance 0 .deliver =
      { q with
        waiters := q.waiters.filter (· ≠ entry.index)
        inbox :=
          if q.waiters.contains entry.index && q.holds entry.index then
            q.inbox ++ [(entry.index, outcome)]
          else q.inbox
        workers := [.resting entry] } := by
  simp [advance, hw]

theorem advance_wake {entry : Entry} (hw : q.workers = [.resting entry]) :
    q.advance 0 .wake = { q with workers := [.ready] } := by
  simp [advance, hw]

def Phase.fits : Phase → Move → Bool
  | .ready, .take => true
  | .sending _, .settle _ => true
  | .holding _ _, .deliver => true
  | .resting _, .wake => true
  | _, _ => false

theorem advance_of_not_fits {phase : Phase} {move : Move} (hw : q.workers = [phase])
    (hf : phase.fits move = false) : q.advance 0 move = q := by
  cases phase <;> cases move <;> simp_all [Phase.fits, advance]

theorem advance_of_none {worker : Nat} (h : q.workers[worker]? = none) (move : Move) :
    q.advance worker move = q := by
  simp [advance, h]

theorem nextIndex_advance (q : Queue) (worker : Nat) (move : Move) :
    (q.advance worker move).nextIndex = q.nextIndex := by
  unfold advance
  split
  · split <;> rfl
  all_goals rfl

theorem Steady.enqueue (h : q.Steady) (request : Request) (endpoint : Endpoint) (delay : Nat) :
    (q.enqueue request endpoint delay).Steady := by
  rcases h.workers_cases with ⟨hw, hd, -⟩ | ⟨phase, hw, hd⟩
  · have hnew : (q.enqueue request endpoint delay).workers = [.ready] := by
      simp [Queue.enqueue, hw, hd]
    exact .of_working hnew rfl
  · have hsame : (q.enqueue request endpoint delay).workers = [phase] := by
      simp [Queue.enqueue, hw, hd]
    exact .of_working hsame rfl

theorem Steady.drop (h : q.Steady) (index : Nat) : (q.drop index).Steady := ⟨h.workers, h.busy⟩

theorem Steady.advance_cases (h : q.Steady) (worker : Nat) (move : Move) :
    q.advance worker move = q ∨
      worker = 0 ∧ ∃ phase, q.workers = [phase] ∧ phase.fits move = true := by
  rcases h.workers_cases with ⟨hw, -, -⟩ | ⟨phase, hw, -⟩
  · exact Or.inl (advance_of_none (by rw [hw]; rfl) move)
  cases worker with
  | succ n => exact Or.inl (advance_of_none (by rw [hw]; rfl) move)
  | zero =>
    cases hf : phase.fits move with
    | false => exact Or.inl (advance_of_not_fits hw hf)
    | true => exact Or.inr ⟨rfl, phase, hw, hf⟩

theorem Steady.advance (h : q.Steady) (worker : Nat) (move : Move) :
    (q.advance worker move).Steady := by
  rcases h.advance_cases worker move with he | ⟨rfl, phase, hw, hf⟩
  · rw [he]
    exact h
  have hd := h.draining_of_workers hw
  cases phase with
  | ready =>
    cases move with
    | take =>
      cases he : q.entries with
      | nil =>
        rw [advance_take_nil hw he]
        exact ⟨rfl, fun hne => absurd he hne⟩
      | cons entry rest =>
        rw [advance_take_cons hw he]
        exact .of_working rfl hd
    | _ => cases hf
  | sending entry =>
    cases move with
    | settle reply =>
      rw [advance_settle hw]
      exact .of_working rfl hd
    | _ => cases hf
  | holding entry outcome =>
    cases move with
    | deliver =>
      rw [advance_deliver hw]
      exact .of_working rfl hd
    | _ => cases hf
  | resting entry =>
    cases move with
    | wake =>
      rw [advance_wake hw]
      exact .of_working rfl hd
    | _ => cases hf

end BoardFilter.Site.Queue
