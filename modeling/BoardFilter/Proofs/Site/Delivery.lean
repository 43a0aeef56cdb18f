import BoardFilter.Proofs.Site.History

/-!
# Every call is answered once

Whatever callers and workers do and in whatever order, the answers are those of the requests
themselves, in turn and once each, and no call is left behind.
-/

namespace BoardFilter.Site

theorem Answer.unwrap_ne_abandoned (endpoint : Endpoint) (v : Json) :
    unwrap endpoint v ≠ .error .abandoned := by
  unfold unwrap
  split
  · split <;> simp
  · simp

theorem Answer.read_ne_abandoned (endpoint : Endpoint) (body : String) :
    read endpoint body ≠ .error .abandoned := by
  unfold read
  split
  · simp
  split
  · exact unwrap_ne_abandoned endpoint _
  · simp

theorem Answer.ofReply_ne_abandoned (endpoint : Endpoint) (reply : Reply) :
    ofReply endpoint reply ≠ .error .abandoned := by
  cases reply with
  | received status body =>
    rw [ofReply]
    split
    · have hread := read_ne_abandoned endpoint body
      cases hr : read endpoint body with
      | error failure =>
        rw [hr] at hread
        simpa [Except.map] using hread
      | ok payload => simp [Except.map]
    · simp
  | none why => simp [ofReply]
  | broken => simp [ofReply]

namespace Queue

def Phase.unsettled : Phase → List Entry
  | .sending entry => [entry]
  | _ => []

def Phase.undelivered : Phase → List Entry
  | .sending entry => [entry]
  | .holding entry _ => [entry]
  | _ => []

def Phase.outcome : Phase → List (Nat × Except Failure Answer)
  | .holding entry outcome => [(entry.index, outcome)]
  | _ => []

def taken (q : Queue) : List Entry := q.workers.flatMap Phase.undelivered

def lead (q : Queue) : Nat :=
  match q.workers with
  | [.ready] => if q.entries.isEmpty then 1 else 2
  | [.sending _] => 3
  | [.holding _ _] => 4
  | [.resting _] => 0
  | _ => 2

theorem lead_le (q : Queue) : q.lead ≤ 4 := by
  unfold lead
  split
  · split <;> omega
  all_goals omega

theorem lead_le_enqueue {q : Queue} (hq : q.Steady) (request : Request) (endpoint : Endpoint)
    (delay : Nat) : q.lead ≤ (q.enqueue request endpoint delay).lead := by
  rcases hq.workers_cases with ⟨hw, hd, -⟩ | ⟨phase, hw, hd⟩
  · simp [lead, Queue.enqueue, hw, hd]
  · simp only [lead, Queue.enqueue, hw, hd, if_true]
    cases phase with
    | ready =>
      have hne (e : Entry) : (q.entries ++ [e]).isEmpty = false := by simp
      simp only [hne, Bool.false_eq_true, if_false]
      split <;> omega
    | _ => exact Nat.le_refl _

namespace History

/-- Every entry is where its call can be answered from, and every answer is the one to its
request. -/
structure Sound (h : History) : Prop where
  steady : h.queue.Steady
  asked : h.asked.map (·.index) = List.range h.queue.nextIndex
  sent : h.sent ++ h.queue.entries = h.asked
  settled : h.settled.map (·.1) ++ h.queue.workers.flatMap Phase.unsettled = h.sent
  delivered : h.delivered ++ h.queue.workers.flatMap Phase.outcome =
    h.settled.map fun s => (s.1.index, Answer.ofReply s.1.endpoint s.2)
  waiters : h.queue.waiters = (h.queue.taken ++ h.queue.entries).map (·.index)
  callers : ∀ i, i ∈ h.queue.callers ↔ i < h.queue.nextIndex ∧ i ∉ h.dropped
  dropped : ∀ i ∈ h.dropped, i < h.queue.nextIndex
  inbox : h.queue.inbox = h.delivered.filter fun a => h.queue.callers.contains a.1
  pace : h.moves + 2 ≤ 5 * h.delivered.length + h.queue.lead

theorem sound_empty : Sound {} where
  steady := steady_empty
  asked := rfl
  sent := rfl
  settled := rfl
  delivered := rfl
  waiters := rfl
  callers := by simp
  dropped := by simp
  inbox := rfl
  pace := Nat.le_refl 2

variable {h : History}

theorem map_outcome_append_unsettled {q : Queue} (hq : q.Steady) :
    (q.workers.flatMap Phase.outcome).map (·.1) ++
      (q.workers.flatMap Phase.unsettled).map (·.index) = q.taken.map (·.index) := by
  rcases hq.workers_cases with ⟨hw, -, -⟩ | ⟨phase, hw, -⟩
  · rw [taken, hw]
    rfl
  · rw [taken, hw]
    cases phase <;> rfl

theorem Sound.calls (hs : h.Sound) :
    h.delivered.map (·.1) ++ h.queue.waiters = List.range h.queue.nextIndex := by
  have hd := congrArg (List.map Prod.fst) hs.delivered
  rw [List.map_append, List.map_map] at hd
  have hst := congrArg (List.map Entry.index) hs.settled
  rw [List.map_append, List.map_map] at hst
  rw [hs.waiters, List.map_append, ← map_outcome_append_unsettled hs.steady, ← hs.asked, ← hs.sent,
    List.map_append, ← hst, ← List.append_assoc, ← List.append_assoc, hd]
  rfl

theorem Sound.nodup_calls (hs : h.Sound) : (h.delivered.map (·.1) ++ h.queue.waiters).Nodup := by
  rw [hs.calls]
  exact List.nodup_range

theorem Sound.delivered_lt (hs : h.Sound) {a : Nat × Except Failure Answer}
    (ha : a ∈ h.delivered) : a.1 < h.queue.nextIndex := by
  have hmem : a.1 ∈ h.delivered.map (·.1) ++ h.queue.waiters :=
    List.mem_append_left _ (List.mem_map_of_mem ha)
  rw [hs.calls] at hmem
  exact List.mem_range.1 hmem

theorem flatMap_workers_enqueue {α : Type} {f : Phase → List α} (hf : f .ready = []) (q : Queue)
    (request : Request) (endpoint : Endpoint) (delay : Nat) :
    (q.enqueue request endpoint delay).workers.flatMap f = q.workers.flatMap f := by
  rw [Queue.enqueue]
  cases q.draining <;> simp [hf]

theorem Sound.enqueue (hs : h.Sound) (request : Request) (endpoint : Endpoint) (delay : Nat) :
    Sound
      { h with
        queue := h.queue.enqueue request endpoint delay
        asked := h.asked ++ [⟨h.queue.nextIndex, request, endpoint, delay⟩] } where
  steady := hs.steady.enqueue request endpoint delay
  asked := by
    rw [List.map_append, hs.asked]
    exact List.range_succ.symm
  sent := by
    rw [← hs.sent, List.append_assoc]
    rfl
  settled := by
    rw [flatMap_workers_enqueue rfl, hs.settled]
  delivered := by
    rw [flatMap_workers_enqueue rfl, hs.delivered]
  waiters := by
    rw [taken, flatMap_workers_enqueue rfl]
    simp [Queue.enqueue, hs.waiters, taken]
  callers := by
    intro i
    have hnew := hs.dropped i
    simp only [Queue.enqueue, List.mem_append, hs.callers, List.mem_singleton]
    constructor
    · rintro (⟨hlt, hkept⟩ | rfl)
      · exact ⟨by omega, hkept⟩
      · exact ⟨by omega, fun hd => by have := hnew hd; omega⟩
    · rintro ⟨hlt, hkept⟩
      rcases Nat.lt_succ_iff_lt_or_eq.1 hlt with hlt | heq
      · exact Or.inl ⟨hlt, hkept⟩
      · exact Or.inr heq
  dropped := fun i hi => Nat.lt_succ_of_lt (hs.dropped i hi)
  inbox := by
    rw [Queue.enqueue, hs.inbox]
    apply List.filter_congr
    intro a ha
    have hne : a.1 ≠ h.queue.nextIndex := Nat.ne_of_lt (hs.delivered_lt ha)
    simp [hne]
  pace := by
    have hp := hs.pace
    have hl := lead_le_enqueue hs.steady request endpoint delay
    simp only
    omega

theorem Sound.drop (hs : h.Sound) (index : Nat) :
    Sound
      { h with
        queue := h.queue.drop index
        dropped := if index < h.queue.nextIndex then h.dropped ++ [index] else h.dropped } :=
  { hs with
    steady := hs.steady.drop index
    callers := by
      intro i
      simp only [Queue.drop, List.mem_filter, hs.callers, decide_eq_true_eq]
      constructor
      · rintro ⟨⟨hlt, hkept⟩, hne⟩
        refine ⟨hlt, ?_⟩
        split
        · simp [hkept, hne]
        · exact hkept
      · rintro ⟨hlt, hkept⟩
        split at hkept
        · simp only [List.mem_append, List.mem_singleton, not_or] at hkept
          exact ⟨⟨hlt, hkept.1⟩, hkept.2⟩
        · next hout => exact ⟨⟨hlt, hkept⟩, fun heq => hout (by rwa [← heq])⟩
    dropped := by
      intro i hi
      simp only at hi
      split at hi
      · next hlt =>
        rcases List.mem_append.1 hi with hi | hi
        · exact hs.dropped i hi
        · rw [List.mem_singleton.1 hi]
          exact hlt
      · exact hs.dropped i hi
    inbox := by
      rw [Queue.drop, hs.inbox, List.filter_filter]
      apply List.filter_congr
      intro a _
      by_cases hi : a.1 = index <;> simp [hi] }

theorem Sound.stop (hs : h.Sound) (hw : h.queue.workers = [.ready]) (he : h.queue.entries = []) :
    Sound
      { h with
        queue := { h.queue with draining := false, workers := [] }
        moves := h.moves + 1 } :=
  { hs with
    steady := ⟨rfl, fun hne => absurd he hne⟩
    settled := by
      have hold := hs.settled
      rwa [hw] at hold
    delivered := by
      have hold := hs.delivered
      rwa [hw] at hold
    waiters := by
      have hold := hs.waiters
      rwa [taken, hw] at hold
    pace := by
      have hp := hs.pace
      simp only [lead, hw, he, List.isEmpty_nil, if_true] at hp ⊢
      omega }

theorem Sound.take (hs : h.Sound) {entry : Entry} {rest : List Entry}
    (hw : h.queue.workers = [.ready]) (he : h.queue.entries = entry :: rest) :
    Sound
      { h with
        queue := { h.queue with entries := rest, workers := [.sending entry] }
        sent := h.sent ++ [entry]
        moves := h.moves + 1 } :=
  { hs with
    steady := .of_working rfl (hs.steady.draining_of_workers hw)
    sent := by
      rw [List.append_assoc, ← hs.sent, he]
      rfl
    settled := by
      have hold := hs.settled
      rw [hw] at hold
      simp only [List.flatMap_cons, List.flatMap_nil, Phase.unsettled, List.append_nil] at hold ⊢
      rw [hold]
    delivered := by
      have hold := hs.delivered
      rwa [hw] at hold
    waiters := by
      have hold := hs.waiters
      rwa [taken, hw, he] at hold
    pace := by
      have hp := hs.pace
      simp only [lead, hw, he, List.isEmpty_cons, Bool.false_eq_true, if_false] at hp ⊢
      omega }

theorem Sound.settle (hs : h.Sound) {entry : Entry} (hw : h.queue.workers = [.sending entry])
    (reply : Reply) :
    Sound
      { h with
        queue :=
          { h.queue with workers := [.holding entry (Answer.ofReply entry.endpoint reply)] }
        settled := h.settled ++ [(entry, reply)]
        moves := h.moves + 1 } :=
  { hs with
    steady := .of_working rfl (hs.steady.draining_of_workers hw)
    settled := by
      have hold := hs.settled
      rw [hw] at hold
      simpa [Phase.unsettled] using hold
    delivered := by
      have hold := hs.delivered
      rw [hw] at hold
      simp only [List.flatMap_cons, List.flatMap_nil, Phase.outcome, List.append_nil] at hold ⊢
      rw [hold, List.map_append]
      rfl
    waiters := by
      have hold := hs.waiters
      rwa [taken, hw] at hold
    pace := by
      have hp := hs.pace
      simp only [lead, hw] at hp ⊢
      omega }

theorem Sound.deliver (hs : h.Sound) {entry : Entry} {outcome : Except Failure Answer}
    (hw : h.queue.workers = [.holding entry outcome]) :
    Sound
      { h with
        queue := h.queue.advance 0 .deliver
        delivered := h.delivered ++ [(entry.index, outcome)]
        moves := h.moves + 1 } := by
  have hwait : h.queue.waiters = entry.index :: h.queue.entries.map (·.index) := by
    rw [hs.waiters, taken, hw]
    rfl
  have hnodup := (List.nodup_append.1 hs.nodup_calls).2.1
  rw [hwait, List.nodup_cons] at hnodup
  have hrest : h.queue.waiters.filter (· ≠ entry.index) = h.queue.entries.map (·.index) := by
    rw [hwait, List.filter_cons_of_neg (by simp), List.filter_eq_self]
    intro i hi
    simpa using fun heq : i = entry.index => hnodup.1 (heq ▸ hi)
  have hthere : h.queue.waiters.contains entry.index = true := by simp [hwait]
  rw [advance_deliver hw, hrest, hthere]
  exact { hs with
    steady := .of_working rfl (hs.steady.draining_of_workers hw)
    settled := by
      have hold := hs.settled
      rwa [hw] at hold
    delivered := by
      have hold := hs.delivered
      rw [hw] at hold
      simpa [Phase.outcome] using hold
    waiters := rfl
    inbox := by
      simp only [Bool.true_and, List.filter_append, ← hs.inbox, holds]
      rw [List.filter_cons, List.filter_nil]
      split
      · rfl
      · rw [List.append_nil]
    pace := by
      have hp := hs.pace
      simp only [lead, hw, List.length_append, List.length_singleton] at hp ⊢
      omega }

theorem Sound.wake (hs : h.Sound) {entry : Entry} (hw : h.queue.workers = [.resting entry]) :
    Sound
      { h with queue := { h.queue with workers := [.ready] }, moves := h.moves + 1 } :=
  { hs with
    steady := .of_working rfl (hs.steady.draining_of_workers hw)
    settled := by
      have hold := hs.settled
      rwa [hw] at hold
    delivered := by
      have hold := hs.delivered
      rwa [hw] at hold
    waiters := by
      have hold := hs.waiters
      rwa [taken, hw] at hold
    pace := by
      have hp := hs.pace
      simp only [lead, hw] at hp ⊢
      split <;> omega }

theorem Sound.next (hs : h.Sound) (e : Event) : (h.next e).Sound := by
  have hc := change_next hs.steady e
  generalize h.next e = h' at hc
  cases hc with
  | none => exact hs
  | enqueue request endpoint delay => exact hs.enqueue request endpoint delay
  | drop index => exact hs.drop index
  | stop hw he => exact hs.stop hw he
  | take hw he => exact hs.take hw he
  | settle hw reply => exact hs.settle hw reply
  | deliver hw => exact hs.deliver hw
  | wake hw => exact hs.wake hw

theorem Sound.foldl_next (hs : h.Sound) (events : List Event) :
    (events.foldl History.next h).Sound := by
  induction events generalizing h with
  | nil => exact hs
  | cons e rest ih => exact ih (hs.next e)

theorem sound_run (events : List Event) : (run events).Sound := sound_empty.foldl_next events

theorem filter_key_eq {α : Type} (key : α → Nat) {l : List α} (hn : (l.map key).Nodup) {a : α}
    (ha : a ∈ l) : (l.filter fun b => key b = key a) = [a] := by
  induction l with
  | nil => cases ha
  | cons b rest ih =>
    rw [List.map_cons, List.nodup_cons] at hn
    rcases List.mem_cons.1 ha with rfl | ha
    · rw [List.filter_cons_of_pos (by simp), List.filter_eq_nil_iff.2]
      intro c hc heq
      exact hn.1 (of_decide_eq_true heq ▸ List.mem_map_of_mem hc)
    · have hne : key b ≠ key a := fun heq => hn.1 (heq ▸ List.mem_map_of_mem ha)
      rw [List.filter_cons_of_neg (by simpa using hne), ih hn.2 ha]

theorem Sound.nodup_asked (hs : h.Sound) : (h.asked.map (·.index)).Nodup := by
  rw [hs.asked]
  exact List.nodup_range

theorem Sound.settled_prefix (hs : h.Sound) : h.settled.map (·.1) <+: h.asked :=
  ⟨h.queue.workers.flatMap Phase.unsettled ++ h.queue.entries, by
    rw [← List.append_assoc, hs.settled, hs.sent]⟩

theorem Sound.entries_consecutive (hs : h.Sound) :
    ∃ first, h.queue.entries.map (·.index) = List.range' first h.queue.entries.length ∧
      first + h.queue.entries.length = h.queue.nextIndex := by
  have hindex := hs.asked
  have hlen := congrArg List.length hindex
  rw [← hs.sent, List.map_append] at hindex
  rw [← hs.sent, List.length_map, List.length_append, List.length_range] at hlen
  refine ⟨h.sent.length, ?_, hlen⟩
  have hdrop := congrArg (List.drop h.sent.length) hindex
  rw [List.drop_left' (List.length_map _), List.range_eq_range', List.drop_range'] at hdrop
  rw [hdrop, ← hlen]
  congr 1 <;> omega

theorem Sound.inbox_of_waiting (hs : h.Sound) {i : Nat} (hi : i ∈ h.queue.waiters) :
    (h.queue.inbox.filter fun a => a.1 = i) = [] := by
  rw [List.filter_eq_nil_iff]
  intro a ha heq
  rw [hs.inbox] at ha
  have hmem : a.1 ∈ h.delivered.map (·.1) := List.mem_map_of_mem (List.mem_filter.1 ha).1
  rw [of_decide_eq_true heq] at hmem
  exact (List.nodup_append.1 hs.nodup_calls).2.2 i hmem i hi rfl

theorem Sound.inbox_of_not_waiting (hs : h.Sound) {e : Entry} (he : e ∈ h.asked)
    (hheld : e.index ∈ h.queue.callers) (hi : e.index ∉ h.queue.waiters) :
    ∃ reply, (h.settled.filter fun s => s.1.index = e.index) = [(e, reply)] ∧
      (h.queue.inbox.filter fun a => a.1 = e.index) =
        [(e.index, Answer.ofReply e.endpoint reply)] := by
  have hcall : e.index ∈ h.delivered.map (·.1) := by
    have hmem : e.index ∈ h.asked.map (·.index) := List.mem_map_of_mem he
    rw [hs.asked, ← hs.calls] at hmem
    exact (List.mem_append.1 hmem).resolve_right hi
  obtain ⟨a, ha, hkey⟩ := List.mem_map.1 hcall
  have hsource : a ∈ h.settled.map fun s => (s.1.index, Answer.ofReply s.1.endpoint s.2) := by
    rw [← hs.delivered]
    exact List.mem_append_left _ ha
  obtain ⟨⟨e', reply⟩, hsettled, rfl⟩ := List.mem_map.1 hsource
  simp only at hkey ha
  have hasked : e' ∈ h.asked := hs.settled_prefix.subset (List.mem_map_of_mem hsettled)
  have hsame : e' = e := List.inj_on_of_nodup_map hs.nodup_asked hasked he hkey
  subst hsame
  have hkeys : (h.settled.map fun s => s.1.index).Nodup := by
    have hsub := (hs.settled_prefix.sublist.map Entry.index).nodup hs.nodup_asked
    rwa [List.map_map] at hsub
  refine ⟨reply, filter_key_eq (fun s : Entry × Reply => s.1.index) hkeys hsettled, ?_⟩
  have hd : (h.delivered.map (·.1)).Nodup := (List.nodup_append.1 hs.nodup_calls).1
  have hin : (e'.index, Answer.ofReply e'.endpoint reply) ∈ h.queue.inbox := by
    rw [hs.inbox]
    exact List.mem_filter.2 ⟨ha, by simpa using hheld⟩
  have hinbox : (h.queue.inbox.map (·.1)).Nodup := by
    rw [hs.inbox]
    exact (List.filter_sublist.map _).nodup hd
  exact filter_key_eq Prod.fst hinbox hin

theorem Sound.answered_of_moves (hs : h.Sound) {i : Nat} (hm : 5 * i + 3 ≤ h.moves) :
    i ∉ h.queue.waiters := by
  have hp := hs.pace
  have hl := lead_le h.queue
  have hlt : i < h.delivered.length := by omega
  have hprefix : h.delivered.map (·.1) <+: List.range h.queue.nextIndex := ⟨_, hs.calls⟩
  have hlen := hprefix.length_le
  have hmem : i ∈ h.delivered.map (·.1) := by
    rw [List.prefix_iff_eq_take.1 hprefix, List.take_range, List.mem_range]
    simp only [List.length_map, List.length_range] at hlen ⊢
    omega
  intro hi
  exact (List.nodup_append.1 hs.nodup_calls).2.2 i hmem i hi rfl

theorem Sound.idle (hs : h.Sound) (hw : h.queue.workers = []) :
    h.queue.entries = [] ∧ h.queue.waiters = [] ∧ h.sent = h.asked := by
  rcases hs.steady.workers_cases with ⟨-, -, he⟩ | ⟨phase, hphase, -⟩
  · refine ⟨he, ?_, ?_⟩
    · rw [hs.waiters, taken, hw, he]
      rfl
    · rw [← hs.sent, he, List.append_nil]
  · rw [hw] at hphase
    cases hphase

theorem Sound.progress (hs : h.Sound) (hwait : h.queue.waiters ≠ []) :
    ∃ move, (h.next (.advance 0 move)).moves = h.moves + 1 := by
  rcases hs.steady.workers_cases with ⟨hw, -, -⟩ | ⟨phase, hw, -⟩
  · exact absurd (hs.idle hw).2.1 hwait
  · cases phase with
    | ready => exact ⟨.take, by simp [History.next, hw]⟩
    | sending entry => exact ⟨.settle .broken, by simp [History.next, hw]⟩
    | holding entry outcome => exact ⟨.deliver, by simp [History.next, hw]⟩
    | resting entry => exact ⟨.wake, by simp [History.next, hw]⟩

/-- In every state that a queue can come to, each call is accounted for, and a caller that still
holds on to its call gets the answer to the one round trip of its own request: nothing while the
answer is owed, and then just that. An answer is not owed for longer than five steps of the worker
for each call up to it, and the worker can go on while one is owed. -/
theorem answered_once (events : List Event) :
    let h := run events
    let q := events.foldl apply {}
    h.queue = q ∧
    (q.waiters = (q.taken ++ q.entries).map (·.index) ∧
      (∃ first, q.entries.map (·.index) = List.range' first q.entries.length ∧
        first + q.entries.length = q.nextIndex) ∧
      (q.draining = true ↔ q.workers.length = 1) ∧ q.workers.length ≤ 1 ∧
      (q.entries ≠ [] → q.draining = true)) ∧
    (h.asked.map (·.index) = List.range q.nextIndex ∧ h.sent ++ q.entries = h.asked) ∧
    (∀ i, i ∈ q.callers ↔ i < q.nextIndex ∧ i ∉ h.dropped) ∧
    (∀ e ∈ h.asked, e.index ∈ q.callers →
      (e.index ∈ q.waiters ∧ (q.inbox.filter fun a => a.1 = e.index) = []) ∨
      (e.index ∉ q.waiters ∧ ∃ reply,
        (h.settled.filter fun s => s.1.index = e.index) = [(e, reply)] ∧
        (q.inbox.filter fun a => a.1 = e.index) =
          [(e.index, Answer.ofReply e.endpoint reply)] ∧
        Answer.ofReply e.endpoint reply ≠ .error .abandoned ∧
        (reply = .broken →
          ∃ why, Answer.ofReply e.endpoint reply = .error (.refused e.endpoint 0 why)))) ∧
    (∀ i, 5 * i + 3 ≤ h.moves → i ∉ q.waiters) ∧
    (q.waiters ≠ [] → ∃ move, (h.next (.advance 0 move)).moves = h.moves + 1) ∧
    (q.workers = [] → q.entries = [] ∧ q.waiters = [] ∧ h.sent = h.asked) := by
  intro h q
  have hs : h.Sound := sound_run events
  have hq : h.queue = q := foldl_next_queue {} events
  rw [← hq]
  refine ⟨rfl, ⟨hs.waiters, hs.entries_consecutive, ?_, hs.steady.workers_le, hs.steady.busy⟩,
    ⟨hs.asked, hs.sent⟩, hs.callers, ?_, fun i => hs.answered_of_moves, hs.progress, hs.idle⟩
  · rw [hs.steady.workers]
    cases h.queue.draining <;> simp
  · intro e he hheld
    by_cases hi : e.index ∈ h.queue.waiters
    · exact Or.inl ⟨hi, hs.inbox_of_waiting hi⟩
    · obtain ⟨reply, hsettled, hinbox⟩ := hs.inbox_of_not_waiting he hheld hi
      refine Or.inr ⟨hi, reply, hsettled, hinbox, Answer.ofReply_ne_abandoned e.endpoint reply, ?_⟩
      rintro rfl
      exact ⟨_, rfl⟩

end History

end Queue

end BoardFilter.Site
