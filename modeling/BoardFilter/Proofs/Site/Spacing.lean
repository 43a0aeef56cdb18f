import BoardFilter.Proofs.Site.Timeline

/-!
# Requests keep their distance

Requests are sent in order and one at a time, each at the earliest time that the rest after the one
before allows. A rest that the runtime cuts short lets a request that is there before the rest is
over leave too early.
-/

namespace BoardFilter.Site

namespace Channel

theorem runUntil_eq_foldl (stop : Channel → Bool) (c : Channel) :
    ∃ n, c.runUntil stop = (List.replicate n Act.step).foldl act c := by
  fun_induction runUntil stop c with
  | case1 c hw => exact ⟨0, rfl⟩
  | case2 c hw hstop => exact ⟨0, rfl⟩
  | case3 c hw hstop hlt ih =>
    obtain ⟨n, hn⟩ := ih
    exact ⟨n + 1, hn⟩

theorem await?_eq_foldl (c : Channel) (call : Nat) :
    ∃ acts : List Act, (c.await? call).2 = acts.foldl act c := by
  unfold await?
  split
  · obtain ⟨n, hn⟩ := runUntil_eq_foldl (fun c => (c.queue.answer? call).isSome) c
    refine ⟨List.replicate n .step ++ [.drop call], ?_⟩
    rw [List.foldl_append, ← hn]
    rfl
  · exact ⟨[], rfl⟩

theorem nextIndex_step (c : Channel) : c.step.queue.nextIndex = c.queue.nextIndex := by
  unfold step
  split
  · rfl
  · split <;> exact Queue.nextIndex_advance _ _ _
  all_goals exact Queue.nextIndex_advance _ _ _

theorem nextIndex_le_act (c : Channel) (a : Act) :
    c.queue.nextIndex ≤ (c.act a).queue.nextIndex := by
  cases a with
  | enqueue request endpoint delay => exact Nat.le_succ _
  | drop call => exact Nat.le_refl _
  | step => exact Nat.le_of_eq c.nextIndex_step.symm
  | pass time => exact Nat.le_refl _

theorem nextIndex_le_foldl_act (c : Channel) (acts : List Act) :
    c.queue.nextIndex ≤ (acts.foldl act c).queue.nextIndex := by
  induction acts generalizing c with
  | nil => exact Nat.le_refl _
  | cons a rest ih => exact Nat.le_trans (c.nextIndex_le_act a) (ih _)

theorem clock_step_le {c : Channel} {time due : Nat} (hn : c.nextTime? = some due)
    (hdue : due ≤ time) (hclock : c.clock ≤ time) : c.step.clock ≤ time := by
  unfold nextTime? at hn
  unfold step
  cases hw : c.queue.workers with
  | nil => exact hclock
  | cons phase rest =>
    rw [hw] at hn
    cases phase with
    | ready => cases c.queue.entries <;> exact hclock
    | holding entry outcome => exact hclock
    | sending entry =>
      cases hn
      exact hdue
    | resting entry =>
      cases hn
      exact hdue

theorem runUntil_time {time : Nat} {stop : Channel → Bool}
    (hstop : stop = fun c => c.nextTime?.all (time ≤ ·)) (c : Channel) (hclock : c.clock ≤ time) :
    (c.runUntil stop).clock ≤ time ∧
      (c.runUntil stop).nextTime?.all (time ≤ ·) = true := by
  fun_induction runUntil stop c with
  | case1 c hw => exact ⟨hclock, by simp [nextTime?, hw]⟩
  | case2 c hw hnow =>
    rw [hstop] at hnow
    exact ⟨hclock, hnow⟩
  | case3 c hw hnow hlt ih =>
    rw [hstop] at hnow
    cases hn : c.nextTime? with
    | none => simp [hn] at hnow
    | some due =>
      have hdue : due < time := by simpa [hn] using hnow
      exact ih (clock_step_le hn (Nat.le_of_lt hdue) hclock)

theorem reach_eq {c : Channel} {time : Nat} (hclock : c.clock ≤ time)
    (hn : c.nextTime?.all (time ≤ ·) = true) : c.reach time = time := by
  unfold reach
  cases hnext : c.nextTime? with
  | none =>
    rw [Option.getD_none]
    omega
  | some due =>
    have hdue : time ≤ due := by simpa [hnext] using hn
    rw [Option.getD_some]
    omega

theorem sleep_eq_foldl (c : Channel) (time : Nat) :
    ∃ acts : List Act, c.sleep time = acts.foldl act c := by
  have hle : c.clock ≤ c.clock + time := Nat.le_add_right _ _
  unfold sleep
  generalize c.clock + time = wake at hle
  obtain ⟨n, hn⟩ := runUntil_eq_foldl (fun c => c.nextTime?.all (wake ≤ ·)) c
  obtain ⟨hclock, hnext⟩ := runUntil_time rfl c hle
  refine ⟨List.replicate n .step ++ [.pass wake], ?_⟩
  rw [List.foldl_append, ← hn, List.foldl_cons, List.foldl_nil, act, reach_eq hclock hnext]

/-- The runtime rests as long as it is asked to, but not longer than some time. -/
def CutAt (wait : Nat → Nat) (limit : Nat) : Prop := ∀ time, wait time = min time limit

theorem CutAt.max_eq_iff {wait : Nat → Nat} {limit : Nat} (hcut : CutAt wait limit)
    (asked finished rest : Nat) :
    max asked (finished + wait rest) = max asked (finished + rest) ↔
      rest ≤ limit ∨ finished + rest ≤ asked := by
  rw [hcut rest]
  omega

end Channel

namespace Timeline

open Channel (Act CutAt)

theorem next_channel (t : Timeline) (a : Act) : (t.next a).channel = t.channel.act a := by
  unfold next
  split <;> rfl

theorem run_channel (c : Channel) (acts : List Act) :
    (run c acts).channel = acts.foldl Channel.act c := by
  unfold run
  have hstart : ({ channel := c } : Timeline).channel = c := rfl
  rw [← hstart]
  generalize ({ channel := c } : Timeline) = t
  induction acts generalizing t with
  | nil => rfl
  | cons a rest ih => rw [List.foldl_cons, List.foldl_cons, ih, next_channel]

theorem Punctual.sent_prefix {wait : Nat → Nat} {default : Nat} {replies : List TimedReply}
    {spare : TimedReply} {t : Timeline} (h : Punctual wait default replies spare t) :
    t.channel.sent.map (·.request) <+: t.asked.map (·.request) := by
  rw [List.prefix_iff_getElem?]
  intro k hk
  have hlt : k < t.channel.sent.length := by simpa using hk
  obtain ⟨a, ha, hrequest, -⟩ := h.starts k _ (List.getElem?_eq_getElem hlt)
  simp [ha, hrequest]

theorem Punctual.not_late {wait : Nat → Nat} {default : Nat} {replies : List TimedReply}
    {spare : TimedReply} {t : Timeline} (h : Punctual wait default replies spare t) {a : Asked}
    (ha : t.asked[t.channel.sent.length]? = some a)
    (hn : t.finished.length = t.channel.sent.length) :
    t.channel.clock ≤ max a.time (free wait default t.asked t.finished t.channel.sent.length) := by
  have hlt := (List.getElem?_eq_some_iff.1 ha).1
  have hstage := h.stage
  rcases h.steady.workers_cases with ⟨hw, -, -⟩ | ⟨phase, hw, -⟩
  · rw [hw] at hstage
    have hall := hstage.2.1
    omega
  rw [hw] at hstage
  rw [← hn] at ha ⊢
  cases phase with
  | ready => exact Nat.le_of_eq (hstage.2.2 a ha)
  | sending entry =>
    have hmore := hstage.1
    omega
  | holding entry outcome =>
    obtain ⟨-, k, hk, hf, -⟩ := hstage
    rw [hk, free, List.getD_eq_getElem?_getD, hf, Option.getD_some]
    omega
  | resting entry =>
    obtain ⟨-, hle, hdue⟩ := hstage
    omega

/-- Requests are sent in their order, never two at once, and each as soon as it was asked and the
rest after the one before it is over. That is the rest that was asked for where the runtime does not
cut it. -/
theorem starts_in_turn (configured : Nat) (replies : List TimedReply) (spare : TimedReply)
    (wait : Nat → Nat) (acts : List Act) :
    let t := run (.opened configured replies spare wait) acts
    let sent := t.channel.sent
    t.channel = acts.foldl Channel.act (.opened configured replies spare wait) ∧
    sent.map (·.request) <+: t.asked.map (·.request) ∧
    (t.finished.length ≤ sent.length ∧ sent.length ≤ t.finished.length + 1) ∧
    (∀ k f, t.finished[k]? = some f →
      ∃ d, sent[k]? = some d ∧ f = d.time + (replies.getD k spare).latency) ∧
    (∀ a d, t.asked[0]? = some a → sent[0]? = some d → d.time = a.time) ∧
    (∀ k a d, t.asked[k + 1]? = some a → sent[k + 1]? = some d →
      ∃ b f, t.asked[k]? = some b ∧ t.finished[k]? = some f ∧
        let rest := Queue.delayFor (max configured Queue.leastDelay) b.delay
        d.time = max a.time (f + wait rest) ∧
        ∀ limit, CutAt wait limit →
          (d.time = max a.time (f + rest) ↔ rest ≤ limit ∨ f + rest ≤ a.time)) ∧
    (∀ a, t.asked[sent.length]? = some a → t.finished.length = sent.length →
      t.channel.clock ≤ max a.time
        (free wait (max configured Queue.leastDelay) t.asked t.finished sent.length)) := by
  intro t sent
  have h := punctual_run configured replies spare wait acts
  refine ⟨run_channel _ acts, h.sent_prefix, h.sent_le, h.ends, fun a d ha hd => ?_,
    fun k a d ha hd => ?_, fun a ha hn => h.not_late ha hn⟩
  · obtain ⟨a', ha', -, -, htime⟩ := h.starts 0 d hd
    rw [ha] at ha'
    cases ha'
    simpa [free] using htime
  · obtain ⟨a', ha', -, hk, htime⟩ := h.starts (k + 1) d hd
    rw [ha] at ha'
    cases ha'
    have hb : k < t.asked.length := by
      have hlt := (List.getElem?_eq_some_iff.1 ha).1
      omega
    refine ⟨t.asked[k], t.finished[k], List.getElem?_eq_getElem hb, List.getElem?_eq_getElem hk, ?_⟩
    have hfree : free wait (max configured Queue.leastDelay) t.asked t.finished (k + 1) =
        t.finished[k] +
          wait (Queue.delayFor (max configured Queue.leastDelay) t.asked[k].delay) := by
      rw [free, rest_eq (List.getElem?_eq_getElem hb), List.getD_eq_getElem?_getD,
        List.getElem?_eq_getElem hk, Option.getD_some]
    rw [hfree] at htime
    refine ⟨htime, fun limit hcut => ?_⟩
    rw [htime]
    exact hcut.max_eq_iff _ _ _

theorem early_after_long_rest :
    let wait := fun time => min time 946080000000
    let t := run (.opened Queue.usualDelay [] .nothing wait)
      ([.enqueue { url := "a" } .tags (some 946080000001), .enqueue { url := "b" } .tags none] ++
        List.replicate 5 .step)
    CutAt wait 946080000000 ∧ t.asked.map (·.time) = [0, 0] ∧ t.finished = [0] ∧
      t.channel.sent.map (·.time) = [0, 946080000000] ∧
      946080000000 < max 0 (0 + Queue.delayFor Queue.usualDelay (some 946080000001)) :=
  ⟨fun _ => rfl, rfl, rfl, rfl, by decide⟩

end Timeline

end BoardFilter.Site
