import BoardFilter.Proofs.Site.Worker
import Mathlib.Data.List.Nodup
import Mathlib.Data.List.Range

/-!
# The history of a queue

A queue forgets what it is done with. Its history keeps what was asked, sent, settled and delivered,
in order, and with it every call can be accounted for: it is delivered, in the hands of the worker,
or still among the entries.
-/

namespace BoardFilter.Site.Queue

structure History where
  queue : Queue := {}
  asked : List Entry := []
  sent : List Entry := []
  settled : List (Entry × Reply) := []
  delivered : List (Nat × Except Failure Answer) := []
  dropped : List Nat := []
  moves : Nat := 0

namespace History

def next (h : History) (e : Event) : History :=
  let queue := h.queue.apply e
  match e with
  | .enqueue request endpoint delay =>
    { h with queue, asked := h.asked ++ [⟨h.queue.nextIndex, request, endpoint, delay⟩] }
  | .drop index =>
    { h with
      queue
      dropped := if index < h.queue.nextIndex then h.dropped ++ [index] else h.dropped }
  | .advance worker move =>
    match h.queue.workers[worker]?, move with
    | some .ready, .take =>
      { h with queue, sent := h.sent ++ h.queue.entries.take 1, moves := h.moves + 1 }
    | some (.sending entry), .settle reply =>
      { h with queue, settled := h.settled ++ [(entry, reply)], moves := h.moves + 1 }
    | some (.holding entry outcome), .deliver =>
      { h with
        queue
        delivered := h.delivered ++ [(entry.index, outcome)]
        moves := h.moves + 1 }
    | some (.resting _), .wake => { h with queue, moves := h.moves + 1 }
    | _, _ => { h with queue }

def run (events : List Event) : History := events.foldl next {}

theorem next_queue (h : History) (e : Event) : (h.next e).queue = h.queue.apply e := by
  cases e with
  | enqueue request endpoint delay => rfl
  | drop index => rfl
  | advance worker move =>
    unfold next
    simp only
    split <;> rfl

theorem foldl_next_queue (h : History) (events : List Event) :
    (events.foldl next h).queue = events.foldl apply h.queue := by
  induction events generalizing h with
  | nil => rfl
  | cons e rest ih => rw [List.foldl_cons, List.foldl_cons, ih, next_queue]

/-- All that an event can change, as long as there is at most one worker. -/
inductive Change (h : History) : History → Prop where
  | none : Change h h
  | enqueue (request : Request) (endpoint : Endpoint) (delay : Nat) :
    Change h
      { h with
        queue := h.queue.enqueue request endpoint delay
        asked := h.asked ++ [⟨h.queue.nextIndex, request, endpoint, delay⟩] }
  | drop (index : Nat) :
    Change h
      { h with
        queue := h.queue.drop index
        dropped := if index < h.queue.nextIndex then h.dropped ++ [index] else h.dropped }
  | stop (hw : h.queue.workers = [.ready]) (he : h.queue.entries = []) :
    Change h
      { h with queue := { h.queue with draining := false, workers := [] }, moves := h.moves + 1 }
  | take {entry : Entry} {rest : List Entry} (hw : h.queue.workers = [.ready])
      (he : h.queue.entries = entry :: rest) :
    Change h
      { h with
        queue := { h.queue with entries := rest, workers := [.sending entry] }
        sent := h.sent ++ [entry]
        moves := h.moves + 1 }
  | settle {entry : Entry} (hw : h.queue.workers = [.sending entry]) (reply : Reply) :
    Change h
      { h with
        queue :=
          { h.queue with workers := [.holding entry (Answer.ofReply entry.endpoint reply)] }
        settled := h.settled ++ [(entry, reply)]
        moves := h.moves + 1 }
  | deliver {entry : Entry} {outcome : Except Failure Answer}
      (hw : h.queue.workers = [.holding entry outcome]) :
    Change h
      { h with
        queue := h.queue.advance 0 .deliver
        delivered := h.delivered ++ [(entry.index, outcome)]
        moves := h.moves + 1 }
  | wake {entry : Entry} (hw : h.queue.workers = [.resting entry]) :
    Change h { h with queue := { h.queue with workers := [.ready] }, moves := h.moves + 1 }

theorem next_of_not_fits {h : History} {phase : Phase} {move : Move}
    (hw : h.queue.workers = [phase]) (hf : phase.fits move = false) :
    h.next (.advance 0 move) = h := by
  cases phase <;> cases move <;> simp_all [next, apply, advance, Phase.fits]

theorem next_of_none {h : History} {worker : Nat} (hw : h.queue.workers[worker]? = none)
    (move : Move) : h.next (.advance worker move) = h := by
  simp [next, apply, advance, hw]

theorem change_next {h : History} (hs : h.queue.Steady) (e : Event) : h.Change (h.next e) := by
  cases e with
  | enqueue request endpoint delay => exact .enqueue request endpoint delay
  | drop index => exact .drop index
  | advance worker move =>
    rcases hs.workers_cases with ⟨hw, -, -⟩ | ⟨phase, hw, -⟩
    · rw [next_of_none (by rw [hw]; rfl)]
      exact .none
    cases worker with
    | succ n =>
      rw [next_of_none (by rw [hw]; rfl)]
      exact .none
    | zero =>
      cases hf : phase.fits move with
      | false =>
        rw [next_of_not_fits hw hf]
        exact .none
      | true =>
        cases phase with
        | ready =>
          cases move with
          | take =>
            cases he : h.queue.entries with
            | nil => simpa [next, apply, advance, hw, he] using Change.stop hw he
            | cons entry rest => simpa [next, apply, advance, hw, he] using Change.take hw he
          | _ => cases hf
        | sending entry =>
          cases move with
          | settle reply => simpa [next, apply, advance, hw] using Change.settle hw reply
          | _ => cases hf
        | holding entry outcome =>
          cases move with
          | deliver => simpa [next, apply, hw] using Change.deliver hw
          | _ => cases hf
        | resting entry =>
          cases move with
          | wake => simpa [next, apply, advance, hw] using Change.wake hw
          | _ => cases hf

end History

end BoardFilter.Site.Queue
