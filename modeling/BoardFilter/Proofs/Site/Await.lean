import BoardFilter.Proofs.Site.Delivery
import BoardFilter.Proofs.Site.Spacing

/-!
# Waiting for an answer

Whoever waits for a call gets the answer to it, whatever has happened to the channel before. A call
is abandoned only by its caller.
-/

namespace BoardFilter.Site

namespace Queue

namespace History

theorem next_advance (h : History) (worker : Nat) (move : Move) :
    (h.next (.advance worker move)).asked = h.asked ∧
      (h.next (.advance worker move)).queue.callers = h.queue.callers := by
  constructor
  · unfold next
    simp only
    split <;> rfl
  · rw [next_queue]
    unfold apply advance
    simp only
    split
    · split <;> rfl
    all_goals rfl

theorem foldl_advance (h : History) (moves : List Move) :
    ((moves.map (Event.advance 0)).foldl next h).asked = h.asked ∧
      ((moves.map (Event.advance 0)).foldl next h).queue.callers = h.queue.callers := by
  induction moves generalizing h with
  | nil => exact ⟨rfl, rfl⟩
  | cons move rest ih =>
    obtain ⟨hasked, hcallers⟩ := ih (h.next (.advance 0 move))
    obtain ⟨hasked', hcallers'⟩ := h.next_advance 0 move
    exact ⟨hasked.trans hasked', hcallers.trans hcallers'⟩

theorem Sound.answer?_eq {h : History} (hs : h.Sound) {e : Entry} (he : e ∈ h.asked)
    (hheld : e.index ∈ h.queue.callers)
    (hdone : (h.queue.answer? e.index).isSome = true ∨ h.queue.workers = []) :
    e.index ∉ h.queue.waiters ∧ ∃ reply, (e, reply) ∈ h.settled ∧
      h.queue.answer? e.index = some (Answer.ofReply e.endpoint reply) := by
  have hi : e.index ∉ h.queue.waiters := by
    intro hwait
    rcases hdone with hsome | hw
    · rw [answer?, ← List.head?_filter, hs.inbox_of_waiting hwait] at hsome
      cases hsome
    · rw [(hs.idle hw).2.1] at hwait
      cases hwait
  obtain ⟨reply, hsettled, hinbox⟩ := hs.inbox_of_not_waiting he hheld hi
  refine ⟨hi, reply, ?_, ?_⟩
  · have hmem : (e, reply) ∈ h.settled.filter fun s => s.1.index = e.index := by simp [hsettled]
    exact (List.mem_filter.1 hmem).1
  · rw [answer?, ← List.head?_filter, hinbox]
    rfl

theorem Sound.length_asked {h : History} (hs : h.Sound) :
    h.asked.length = h.queue.nextIndex := by
  have hlen := congrArg List.length hs.asked
  rwa [List.length_map, List.length_range] at hlen

theorem Sound.index_of_settled {h : History} (hs : h.Sound) {k : Nat} {e : Entry} {reply : Reply}
    (hk : h.settled[k]? = some (e, reply)) : e.index = k := by
  have hmap : (h.settled.map (·.1))[k]? = some e := by simp [hk]
  have hasked : h.asked[k]? = some e := by
    obtain ⟨later, hlater⟩ := hs.settled_prefix
    rw [← hlater, List.getElem?_append_left (List.getElem?_eq_some_iff.1 hmap).1]
    exact hmap
  have hindex : (h.asked.map (·.index))[k]? = some e.index := by simp [hasked]
  rw [hs.asked, List.getElem?_eq_some_iff] at hindex
  obtain ⟨hlt, heq⟩ := hindex
  rw [← heq, List.getElem_range]

theorem Sound.entries_eq_nil {h : History} (hs : h.Sound) {i : Nat} (hi : i ∉ h.queue.waiters)
    (hlast : i + 1 = h.queue.nextIndex) : h.queue.entries = [] := by
  obtain ⟨first, hindex, hnext⟩ := hs.entries_consecutive
  by_contra hne
  have hpos : 0 < h.queue.entries.length := List.length_pos_iff.2 hne
  apply hi
  rw [hs.waiters, List.map_append, hindex]
  exact List.mem_append_right _ (List.mem_range'_1.2 (by omega))

theorem next_take {h : History} (hw : h.queue.workers = [.ready]) :
    h.next (.advance 0 .take) =
      { h with
        queue := h.queue.advance 0 .take
        sent := h.sent ++ h.queue.entries.take 1
        moves := h.moves + 1 } := by
  simp [next, apply, hw]

theorem next_settle {h : History} {entry : Entry} (hw : h.queue.workers = [.sending entry])
    (reply : Reply) :
    h.next (.advance 0 (.settle reply)) =
      { h with
        queue := h.queue.advance 0 (.settle reply)
        settled := h.settled ++ [(entry, reply)]
        moves := h.moves + 1 } := by
  simp [next, apply, hw]

theorem next_deliver {h : History} {entry : Entry} {outcome : Except Failure Answer}
    (hw : h.queue.workers = [.holding entry outcome]) :
    h.next (.advance 0 .deliver) =
      { h with
        queue := h.queue.advance 0 .deliver
        delivered := h.delivered ++ [(entry.index, outcome)]
        moves := h.moves + 1 } := by
  simp [next, apply, hw]

theorem next_wake {h : History} {entry : Entry} (hw : h.queue.workers = [.resting entry]) :
    h.next (.advance 0 .wake) =
      { h with queue := h.queue.advance 0 .wake, moves := h.moves + 1 } := by
  simp [next, apply, hw]

end History

end Queue

namespace Channel

open Queue (Event Move History)

/-- The channel has this history, and the site replies to its requests by the script. -/
structure Recorded (script : Nat → Reply) (h : History) (c : Channel) : Prop where
  queue : h.queue = c.queue
  sound : h.Sound
  sent : h.sent.map (·.request) = c.sent.map (·.request)
  settled : h.settled.map (·.2) = (List.range h.settled.length).map script
  coming : ∀ k, (c.replies.getD k c.spare).reply = script (h.settled.length + k)

theorem recorded_opened (delay : Nat) (replies : List TimedReply) (spare : TimedReply)
    (wait : Nat → Nat) :
    Recorded (fun i => (replies.getD i spare).reply) {} (.opened delay replies spare wait) where
  queue := rfl
  sound := History.sound_empty
  sent := rfl
  settled := rfl
  coming := by simp [opened]

variable {script : Nat → Reply} {h : History} {c : Channel}

theorem Recorded.nextReply (hr : Recorded script h c) :
    c.nextReply.reply = script h.settled.length := by
  have hcoming := hr.coming 0
  rw [Channel.nextReply, List.headD_eq_head?_getD, List.head?_eq_getElem?]
  rwa [List.getD_eq_getElem?_getD] at hcoming

theorem Recorded.take (hr : Recorded script h c) (hw : h.queue.workers = [.ready]) :
    Recorded script (h.next (.advance 0 .take)) c.step := by
  have hwc : c.queue.workers = [.ready] := by rw [← hr.queue, hw]
  have hs := hr.sound.next (.advance 0 .take)
  rw [History.next_take hw] at hs ⊢
  cases he : c.queue.entries with
  | nil =>
    rw [step_ready_nil hwc he]
    refine ⟨?_, hs, ?_, hr.settled, hr.coming⟩
    · simp only [hr.queue, Queue.advance_take_nil hwc he]
    · simp only [hr.queue, he, List.take_nil, List.append_nil, hr.sent]
  | cons entry rest =>
    rw [step_ready_cons hwc he]
    refine ⟨?_, hs, ?_, hr.settled, hr.coming⟩
    · simp only [hr.queue, Queue.advance_take_cons hwc he]
    · simp only [hr.queue, he, List.take_succ_cons, List.take_zero, List.map_append, hr.sent,
        List.map_cons, List.map_nil]

theorem Recorded.settle (hr : Recorded script h c) {entry : Queue.Entry}
    (hw : h.queue.workers = [.sending entry]) :
    Recorded script (h.next (.advance 0 (.settle c.nextReply.reply))) c.step := by
  have hwc : c.queue.workers = [.sending entry] := by rw [← hr.queue, hw]
  have hs := hr.sound.next (.advance 0 (.settle c.nextReply.reply))
  rw [History.next_settle hw] at hs ⊢
  rw [step_sending hwc]
  refine ⟨by simp only [hr.queue], hs, hr.sent, ?_, fun k => ?_⟩
  · simp only [List.map_append, hr.settled, List.length_append, List.length_singleton,
      List.range_succ, List.map_cons, List.map_nil, hr.nextReply]
  · have hnext := hr.coming (k + 1)
    simp only [List.length_append, List.length_singleton]
    rw [Nat.add_assoc, Nat.add_comm 1 k, ← hnext, List.getD_eq_getElem?_getD,
      List.getD_eq_getElem?_getD, List.getElem?_tail]

theorem Recorded.deliver (hr : Recorded script h c) {entry : Queue.Entry}
    {outcome : Except Failure Answer} (hw : h.queue.workers = [.holding entry outcome]) :
    Recorded script (h.next (.advance 0 .deliver)) c.step := by
  have hwc : c.queue.workers = [.holding entry outcome] := by rw [← hr.queue, hw]
  have hs := hr.sound.next (.advance 0 .deliver)
  rw [History.next_deliver hw] at hs ⊢
  rw [step_holding hwc]
  exact ⟨by simp only [hr.queue], hs, hr.sent, hr.settled, hr.coming⟩

theorem Recorded.wake (hr : Recorded script h c) {entry : Queue.Entry}
    (hw : h.queue.workers = [.resting entry]) :
    Recorded script (h.next (.advance 0 .wake)) c.step := by
  have hwc : c.queue.workers = [.resting entry] := by rw [← hr.queue, hw]
  have hs := hr.sound.next (.advance 0 .wake)
  rw [History.next_wake hw] at hs ⊢
  rw [step_resting hwc]
  exact ⟨by simp only [hr.queue, Queue.advance_wake hwc], hs, hr.sent, hr.settled, hr.coming⟩

theorem Recorded.step (hr : Recorded script h c) :
    ∃ moves : List Move,
      Recorded script ((moves.map (Event.advance 0)).foldl History.next h) c.step := by
  rcases hr.sound.steady.workers_cases with ⟨hw, -, -⟩ | ⟨phase, hw, -⟩
  · exact ⟨[], by rwa [step_nil (by rw [← hr.queue, hw])]⟩
  cases phase with
  | ready => exact ⟨[.take], hr.take hw⟩
  | sending entry => exact ⟨[.settle c.nextReply.reply], hr.settle hw⟩
  | holding entry outcome => exact ⟨[.deliver], hr.deliver hw⟩
  | resting entry => exact ⟨[.wake], hr.wake hw⟩

theorem Recorded.enqueue (hr : Recorded script h c) (request : Request) (endpoint : Endpoint)
    (delay : Option Nat) :
    Recorded script
      (h.next (.enqueue request endpoint (Queue.delayFor c.defaultDelay delay)))
      (c.enqueue request endpoint delay).2 where
  queue := by rw [History.next_queue, hr.queue]; rfl
  sound := hr.sound.next _
  sent := hr.sent
  settled := hr.settled
  coming := hr.coming

theorem Recorded.drop (hr : Recorded script h c) (call : Nat) :
    Recorded script (h.next (.drop call)) (c.drop call) where
  queue := by rw [History.next_queue, hr.queue]; rfl
  sound := hr.sound.next _
  sent := hr.sent
  settled := hr.settled
  coming := hr.coming

theorem Recorded.act (hr : Recorded script h c) (a : Act) :
    ∃ h', Recorded script h' (c.act a) := by
  cases a with
  | enqueue request endpoint delay => exact ⟨_, hr.enqueue request endpoint delay⟩
  | drop call => exact ⟨_, hr.drop call⟩
  | step =>
    obtain ⟨moves, hmoves⟩ := hr.step
    exact ⟨_, hmoves⟩
  | pass time => exact ⟨h, hr.queue, hr.sound, hr.sent, hr.settled, hr.coming⟩

theorem Recorded.foldl_act (hr : Recorded script h c) (acts : List Act) :
    ∃ h', Recorded script h' (acts.foldl Channel.act c) := by
  induction acts generalizing h c with
  | nil => exact ⟨h, hr⟩
  | cons a rest ih =>
    obtain ⟨h', hr'⟩ := hr.act a
    exact ih hr'

theorem Recorded.runUntil (hr : Recorded script h c) (stop : Channel → Bool) :
    ∃ moves : List Move,
      Recorded script ((moves.map (Event.advance 0)).foldl History.next h) (c.runUntil stop) ∧
      (stop (c.runUntil stop) = true ∨ (c.runUntil stop).queue.workers = []) := by
  fun_induction Channel.runUntil stop c generalizing h with
  | case1 c hw => exact ⟨[], hr, Or.inr hw⟩
  | case2 c hw hstop => exact ⟨[], hr, Or.inl hstop⟩
  | case3 c hw hstop hlt ih =>
    obtain ⟨first, hfirst⟩ := hr.step
    obtain ⟨later, hlater, hdone⟩ := ih hfirst
    refine ⟨first ++ later, ?_, hdone⟩
    rwa [List.map_append, List.foldl_append]

theorem Recorded.reply_eq (hr : Recorded script h c) {e : Queue.Entry} {reply : Reply}
    (hs : (e, reply) ∈ h.settled) : reply = script e.index := by
  obtain ⟨k, hk⟩ := List.mem_iff_getElem?.1 hs
  have hreply : (h.settled.map (·.2))[k]? = some reply := by simp [hk]
  have hlt : k < h.settled.length := (List.getElem?_eq_some_iff.1 hk).1
  rw [hr.settled, List.getElem?_map, List.getElem?_range hlt] at hreply
  rw [hr.sound.index_of_settled hk]
  exact (Option.some.inj hreply).symm

/-- Whoever holds a call and waits for it gets what the reply of the same number comes to, so a call
is never abandoned by the queue. -/
theorem Recorded.await (hr : Recorded script h c) {e : Queue.Entry} (he : e ∈ h.asked)
    (hheld : e.index ∈ h.queue.callers) :
    (c.await e.index).1 = Answer.ofReply e.endpoint (script e.index) ∧
      ∃ h', Recorded script h' (c.await e.index).2 ∧ h'.asked = h.asked ∧
        h'.queue.callers = h.queue.callers.filter (· ≠ e.index) ∧ e.index ∉ h'.queue.waiters := by
  obtain ⟨moves, hmoves, hdone⟩ := hr.runUntil fun c => (c.queue.answer? e.index).isSome
  obtain ⟨hasked, hcallers⟩ := h.foldl_advance moves
  generalize (moves.map (Event.advance 0)).foldl History.next h = t at hmoves hasked hcallers
  have heasked : e ∈ t.asked := by rwa [hasked]
  have hheld' : e.index ∈ t.queue.callers := by rwa [hcallers]
  rw [← hmoves.queue] at hdone
  obtain ⟨hwait, reply, hsettled, hanswer⟩ := hmoves.sound.answer?_eq heasked hheld' hdone
  have hholds : c.queue.holds e.index = true := by
    rw [← hr.queue]
    simpa [Queue.holds] using hheld
  rw [hmoves.queue] at hanswer
  rw [Channel.await, await?, if_pos hholds]
  refine ⟨?_, t.next (.drop e.index), hmoves.drop e.index, hasked, ?_, hwait⟩
  · simp only [hanswer, Option.getD_some, hmoves.reply_eq hsettled]
  · rw [History.next_queue, ← hcallers]
    rfl

theorem Recorded.exists_await (hr : Recorded script h c) (call : Nat) :
    ∃ h', Recorded script h' (c.await call).2 ∧ h'.asked = h.asked := by
  rw [Channel.await, await?]
  by_cases hholds : c.queue.holds call = true
  · obtain ⟨moves, hmoves, -⟩ := hr.runUntil fun c => (c.queue.answer? call).isSome
    rw [if_pos hholds]
    exact ⟨_, hmoves.drop call, (h.foldl_advance moves).1⟩
  · rw [if_neg hholds]
    exact ⟨h, hr, rfl⟩

end Channel

end BoardFilter.Site
