import BoardFilter.Proofs.Site.Worker
import BoardFilter.Site.Channel
import Mathlib.Data.List.GetD

/-!
# The timeline of a channel

A timeline keeps when each request was asked for and when each round trip ended. Requests may be
added at any time; time passes freely up to the next step that is due.
-/

namespace BoardFilter.Site

namespace Channel

inductive Act where
  | enqueue (request : Request) (endpoint : Endpoint) (delay : Option Nat)
  | drop (call : Nat)
  | step
  | pass (time : Nat)

def reach (c : Channel) (time : Nat) : Nat := max c.clock (min time (c.nextTime?.getD time))

def act (c : Channel) : Act → Channel
  | .enqueue request endpoint delay => (c.enqueue request endpoint delay).2
  | .drop call => c.drop call
  | .step => c.step
  | .pass time => { c with clock := c.reach time }

section

variable {c : Channel}

theorem step_nil (hw : c.queue.workers = []) : c.step = c := by simp [step, hw]

theorem step_ready_nil (hw : c.queue.workers = [.ready]) (he : c.queue.entries = []) :
    c.step = { c with queue := { c.queue with draining := false, workers := [] } } := by
  simp [step, hw, he, Queue.advance_take_nil]

theorem step_ready_cons {entry : Queue.Entry} {rest : List Queue.Entry}
    (hw : c.queue.workers = [.ready]) (he : c.queue.entries = entry :: rest) :
    c.step =
      { c with
        queue := { c.queue with entries := rest, workers := [.sending entry] }
        sent := c.sent ++ [⟨entry.request, c.clock⟩]
        due := c.clock + c.nextReply.latency } := by
  simp [step, hw, he, Queue.advance_take_cons hw he]

theorem step_sending {entry : Queue.Entry} (hw : c.queue.workers = [.sending entry]) :
    c.step =
      { c with
        queue := c.queue.advance 0 (.settle c.nextReply.reply)
        clock := c.due
        replies := c.replies.tail } := by
  simp [step, hw]

theorem step_holding {entry : Queue.Entry} {outcome : Except Failure Answer}
    (hw : c.queue.workers = [.holding entry outcome]) :
    c.step =
      { c with queue := c.queue.advance 0 .deliver, due := c.clock + c.wait entry.delay } := by
  simp [step, hw]

theorem step_resting {entry : Queue.Entry} (hw : c.queue.workers = [.resting entry]) :
    c.step = { c with queue := { c.queue with workers := [.ready] }, clock := c.due } := by
  simp [step, hw, Queue.advance_wake hw]

end

end Channel

structure Asked where
  time : Nat
  request : Request
  delay : Option Nat

structure Timeline where
  channel : Channel
  asked : List Asked := []
  finished : List Nat := []

namespace Timeline

open Channel (Act)

def next (t : Timeline) (a : Act) : Timeline :=
  let channel := t.channel.act a
  match a, t.channel.queue.workers with
  | .enqueue request _ delay, _ =>
    { t with channel, asked := t.asked ++ [⟨t.channel.clock, request, delay⟩] }
  | .step, .sending _ :: _ => { t with channel, finished := t.finished ++ [channel.clock] }
  | _, _ => { t with channel }

def run (c : Channel) (acts : List Act) : Timeline := acts.foldl next { channel := c }

def rest (default : Nat) (asked : List Asked) (k : Nat) : Nat :=
  Queue.delayFor default (asked[k]?.bind (·.delay))

def free (wait : Nat → Nat) (default : Nat) (asked : List Asked) (finished : List Nat) : Nat → Nat
  | 0 => 0
  | k + 1 => finished.getD k 0 + wait (rest default asked k)

theorem rest_append {default : Nat} {asked : List Asked} {k : Nat} (hk : k < asked.length)
    (a : Asked) : rest default (asked ++ [a]) k = rest default asked k := by
  rw [rest, rest, List.getElem?_append_left hk]

theorem rest_eq {default : Nat} {asked : List Asked} {k : Nat} {a : Asked}
    (ha : asked[k]? = some a) : rest default asked k = Queue.delayFor default a.delay := by
  rw [rest, ha]
  rfl

theorem free_append_asked {wait : Nat → Nat} {default : Nat} {asked : List Asked}
    {finished : List Nat} {k : Nat}
    (hk : k ≤ asked.length) (a : Asked) :
    free wait default (asked ++ [a]) finished k = free wait default asked finished k := by
  cases k with
  | zero => rfl
  | succ j => rw [free, free, rest_append hk]

theorem free_append_finished {wait : Nat → Nat} {default : Nat} {asked : List Asked}
    {finished : List Nat} {k : Nat}
    (hk : k ≤ finished.length) (f : Nat) :
    free wait default asked (finished ++ [f]) k = free wait default asked finished k := by
  cases k with
  | zero => rfl
  | succ j => rw [free, free, List.getD_append _ _ _ _ hk]

/-- Where the worker is in its round: every phase has its own time. -/
def Stage (wait : Nat → Nat) (default : Nat) (t : Timeline) : List Queue.Phase → Prop
  | [] =>
    t.channel.sent.length = t.finished.length ∧ t.asked.length = t.finished.length ∧
      free wait default t.asked t.finished t.finished.length ≤ t.channel.clock
  | [.ready] =>
    t.channel.sent.length = t.finished.length ∧
      free wait default t.asked t.finished t.finished.length ≤ t.channel.clock ∧
      ∀ a, t.asked[t.finished.length]? = some a →
        t.channel.clock = max a.time (free wait default t.asked t.finished t.finished.length)
  | [.sending entry] =>
    t.channel.sent.length = t.finished.length + 1 ∧ t.channel.clock ≤ t.channel.due ∧
      entry.delay = rest default t.asked t.finished.length ∧
      ∀ d, t.channel.sent[t.finished.length]? = some d →
        t.channel.due = d.time + t.channel.nextReply.latency
  | [.holding entry _] =>
    t.channel.sent.length = t.finished.length ∧
      ∃ k, t.finished.length = k + 1 ∧ t.finished[k]? = some t.channel.clock ∧
        entry.delay = rest default t.asked k
  | [.resting _] =>
    t.channel.sent.length = t.finished.length ∧ t.channel.clock ≤ t.channel.due ∧
      t.channel.due = free wait default t.asked t.finished t.finished.length
  | _ => False

/-- Every request was sent on time so far. -/
structure Punctual (wait : Nat → Nat) (default : Nat) (replies : List TimedReply)
    (spare : TimedReply) (t : Timeline) : Prop where
  steady : t.channel.queue.Steady
  usual : t.channel.defaultDelay = default
  waits : t.channel.wait = wait
  coming : t.channel.replies = replies.drop t.finished.length
  last : t.channel.spare = spare
  past : ∀ a ∈ t.asked, a.time ≤ t.channel.clock
  entries : t.channel.queue.entries.map (fun e => (e.request, e.delay)) =
    (t.asked.drop t.channel.sent.length).map fun a => (a.request, Queue.delayFor default a.delay)
  asked : t.channel.sent.length ≤ t.asked.length
  starts : ∀ k d, t.channel.sent[k]? = some d → ∃ a, t.asked[k]? = some a ∧
    d.request = a.request ∧ k ≤ t.finished.length ∧
    d.time = max a.time (free wait default t.asked t.finished k)
  ends : ∀ k f, t.finished[k]? = some f → ∃ d, t.channel.sent[k]? = some d ∧
    f = d.time + (replies.getD k spare).latency
  stage : Stage wait default t t.channel.queue.workers

theorem punctual_opened (configured : Nat) (replies : List TimedReply) (spare : TimedReply)
    (wait : Nat → Nat) :
    Punctual wait (max configured Queue.leastDelay) replies spare
      { channel := .opened configured replies spare wait } where
  steady := Queue.steady_empty
  usual := rfl
  waits := rfl
  coming := rfl
  last := rfl
  past := by simp
  entries := rfl
  asked := Nat.le_refl 0
  starts := by simp [Channel.opened]
  ends := by simp
  stage := ⟨rfl, rfl, Nat.le_refl 0⟩

variable {wait : Nat → Nat} {default : Nat} {replies : List TimedReply} {spare : TimedReply}
  {t : Timeline}

theorem Punctual.sent_le (h : Punctual wait default replies spare t) :
    t.finished.length ≤ t.channel.sent.length ∧
      t.channel.sent.length ≤ t.finished.length + 1 := by
  have hstage := h.stage
  rcases h.steady.workers_cases with ⟨hw, -, -⟩ | ⟨phase, hw, -⟩
  · rw [hw] at hstage
    have hn := hstage.1
    omega
  · rw [hw] at hstage
    cases phase <;> have hn := hstage.1 <;> omega

theorem Punctual.nextReply (h : Punctual wait default replies spare t) :
    t.channel.nextReply = replies.getD t.finished.length spare := by
  rw [Channel.nextReply, h.coming, h.last, List.headD_eq_head?_getD, List.head?_drop,
    List.getD_eq_getElem?_getD]

section

variable (request : Request) (endpoint : Endpoint) (delay : Option Nat)

theorem next_enqueue : t.next (.enqueue request endpoint delay) =
    { t with
      channel :=
        { t.channel with
          queue := t.channel.queue.enqueue request endpoint
            (Queue.delayFor t.channel.defaultDelay delay) }
      asked := t.asked ++ [⟨t.channel.clock, request, delay⟩] } := rfl

theorem start_append {a : Asked} (hm : t.finished.length ≤ t.asked.length)
    (hfree : free wait default t.asked t.finished t.finished.length ≤ t.channel.clock)
    (hold : ∀ a, t.asked[t.finished.length]? = some a →
      t.channel.clock = max a.time (free wait default t.asked t.finished t.finished.length))
    (ha : (t.asked ++ [⟨t.channel.clock, request, delay⟩])[t.finished.length]? = some a) :
    t.channel.clock = max a.time (free wait default t.asked t.finished t.finished.length) := by
  by_cases hlt : t.finished.length < t.asked.length
  · rw [List.getElem?_append_left hlt] at ha
    exact hold a ha
  · rw [List.getElem?_append_right (by omega), Nat.sub_eq_zero_of_le hm] at ha
    cases ha
    simp only
    omega

theorem Stage.enqueue_first (h : Stage wait default t []) :
    Stage wait default (t.next (.enqueue request endpoint delay)) [.ready] := by
  obtain ⟨hsent, hasked, hfree⟩ := h
  have hm : t.finished.length ≤ t.asked.length := Nat.le_of_eq hasked.symm
  rw [next_enqueue]
  refine ⟨hsent, ?_, fun a ha => ?_⟩
  · rwa [free_append_asked hm]
  · rw [free_append_asked hm]
    refine start_append (t := t) request delay hm hfree (fun b hb => ?_) ha
    rw [List.getElem?_eq_none (by omega)] at hb
    cases hb

theorem Stage.enqueue {phase : Queue.Phase} (h : Stage wait default t [phase])
    (hsent : t.channel.sent.length ≤ t.asked.length) :
    Stage wait default (t.next (.enqueue request endpoint delay)) [phase] := by
  rw [next_enqueue]
  cases phase with
  | ready =>
    obtain ⟨hn, hfree, hstart⟩ := h
    have hm : t.finished.length ≤ t.asked.length := by omega
    refine ⟨hn, ?_, fun a ha => ?_⟩
    · rwa [free_append_asked hm]
    · rw [free_append_asked hm]
      exact start_append (t := t) request delay hm hfree hstart ha
  | sending entry =>
    obtain ⟨hn, hle, hrest, hdue⟩ := h
    have hm : t.finished.length < t.asked.length := by omega
    exact ⟨hn, hle, by rwa [rest_append hm], hdue⟩
  | holding entry outcome =>
    obtain ⟨hn, k, hk, hf, hrest⟩ := h
    have hm : k < t.asked.length := by omega
    exact ⟨hn, k, hk, hf, by rwa [rest_append hm]⟩
  | resting entry =>
    obtain ⟨hn, hle, hdue⟩ := h
    have hm : t.finished.length ≤ t.asked.length := by omega
    exact ⟨hn, hle, by rwa [free_append_asked hm]⟩

theorem Punctual.enqueue (h : Punctual wait default replies spare t) :
    Punctual wait default replies spare (t.next (.enqueue request endpoint delay)) :=
  { h with
    steady := h.steady.enqueue _ _ _
    past := by
      intro a ha
      rcases List.mem_append.1 ha with ha | ha
      · exact h.past a ha
      · rw [List.mem_singleton.1 ha]
        exact Nat.le_refl _
    entries := by
      rw [next_enqueue]
      simp only [Queue.enqueue, List.map_append, h.entries,
        List.drop_append_of_le_length h.asked, h.usual]
      rfl
    asked := by
      have hle := h.asked
      rw [next_enqueue]
      simp only [List.length_append]
      omega
    starts := by
      intro k d hd
      obtain ⟨a, ha, hrequest, hk, htime⟩ := h.starts k d hd
      have hlt : k < t.asked.length := (List.getElem?_eq_some_iff.1 ha).1
      refine ⟨a, ?_, hrequest, hk, ?_⟩
      · rw [next_enqueue]
        rwa [List.getElem?_append_left hlt]
      · rw [next_enqueue]
        rwa [free_append_asked (Nat.le_of_lt hlt)]
    stage := by
      have hstage := h.stage
      rcases h.steady.workers_cases with ⟨hw, hd, -⟩ | ⟨phase, hw, hd⟩
      · rw [hw] at hstage
        have hnew :
            (t.next (.enqueue request endpoint delay)).channel.queue.workers = [.ready] := by
          simp [next_enqueue, Queue.enqueue, hw, hd]
        rw [hnew]
        exact hstage.enqueue_first request endpoint delay
      · rw [hw] at hstage
        have hsame :
            (t.next (.enqueue request endpoint delay)).channel.queue.workers = [phase] := by
          simp [next_enqueue, Queue.enqueue, hw, hd]
        rw [hsame]
        exact hstage.enqueue request endpoint delay h.asked }

end

theorem Punctual.drop (h : Punctual wait default replies spare t) (call : Nat) :
    Punctual wait default replies spare (t.next (.drop call)) :=
  { h with steady := h.steady.drop call }

theorem clock_le_reach (c : Channel) (time : Nat) : c.clock ≤ c.reach time := Nat.le_max_left _ _

theorem reach_le {c : Channel} {time due : Nat} (hn : c.nextTime? = some due)
    (hle : c.clock ≤ due) : c.reach time ≤ due := by
  rw [Channel.reach, hn, Option.getD_some]
  omega

theorem next_pass (time : Nat) : t.next (.pass time) =
    { t with channel := { t.channel with clock := t.channel.reach time } } := rfl

theorem next_pass_of_busy {time : Nat} (hn : t.channel.nextTime? = some t.channel.clock) :
    t.next (.pass time) = t := by
  have hreach : t.channel.reach time = t.channel.clock :=
    Nat.le_antisymm (reach_le hn (Nat.le_refl _)) (clock_le_reach _ time)
  rw [next_pass, hreach]

theorem Stage.pass {phase : Queue.Phase} (h : Stage wait default t [phase])
    (hw : t.channel.queue.workers = [phase]) (time : Nat) :
    Stage wait default (t.next (.pass time)) [phase] := by
  cases phase with
  | ready => rwa [next_pass_of_busy (by rw [Channel.nextTime?, hw])]
  | holding entry outcome => rwa [next_pass_of_busy (by rw [Channel.nextTime?, hw])]
  | sending entry =>
    obtain ⟨hn, hle, hrest, hdue⟩ := h
    have hnext : t.channel.nextTime? = some t.channel.due := by rw [Channel.nextTime?, hw]
    exact ⟨hn, reach_le hnext hle, hrest, hdue⟩
  | resting entry =>
    obtain ⟨hn, hle, hdue⟩ := h
    have hnext : t.channel.nextTime? = some t.channel.due := by rw [Channel.nextTime?, hw]
    exact ⟨hn, reach_le hnext hle, hdue⟩

theorem Punctual.pass (h : Punctual wait default replies spare t) (time : Nat) :
    Punctual wait default replies spare (t.next (.pass time)) :=
  { h with
    past := fun a ha => Nat.le_trans (h.past a ha) (clock_le_reach _ time)
    stage := by
      have hstage := h.stage
      have hworkers : (t.next (.pass time)).channel.queue.workers = t.channel.queue.workers := rfl
      rw [hworkers]
      rcases h.steady.workers_cases with ⟨hw, -, -⟩ | ⟨phase, hw, -⟩
      · rw [hw] at hstage ⊢
        obtain ⟨hsent, hasked, hfree⟩ := hstage
        exact ⟨hsent, hasked, Nat.le_trans hfree (clock_le_reach _ time)⟩
      · rw [hw] at hstage ⊢
        exact hstage.pass hw time }

theorem next_step {phase : Queue.Phase} (hw : t.channel.queue.workers = [phase])
    (hp : ∀ entry, phase ≠ .sending entry) :
    t.next .step = { t with channel := t.channel.step } := by
  cases phase <;> simp_all [next, Channel.act]

theorem next_step_sending {entry : Queue.Entry}
    (hw : t.channel.queue.workers = [.sending entry]) :
    t.next .step =
      { t with channel := t.channel.step, finished := t.finished ++ [t.channel.due] } := by
  simp [next, hw, Channel.act, Channel.step_sending hw]

theorem Punctual.stop (h : Punctual wait default replies spare t)
    (hw : t.channel.queue.workers = [.ready]) (he : t.channel.queue.entries = []) :
    Punctual wait default replies spare (t.next .step) := by
  have hstage := h.stage
  rw [hw] at hstage
  obtain ⟨hsent, hfree, -⟩ := hstage
  have hentries := h.entries
  have hasked := h.asked
  rw [he, List.map_nil, eq_comm, List.map_eq_nil_iff, List.drop_eq_nil_iff] at hentries
  rw [next_step hw nofun, Channel.step_ready_nil hw he]
  exact { h with
    steady := ⟨rfl, fun hne => absurd he hne⟩
    stage := ⟨hsent, by simp only; omega, hfree⟩ }

theorem Punctual.head (h : Punctual wait default replies spare t) {entry : Queue.Entry}
    {waiting : List Queue.Entry} (he : t.channel.queue.entries = entry :: waiting) :
    ∃ a, t.asked[t.channel.sent.length]? = some a ∧ entry.request = a.request ∧
      entry.delay = Queue.delayFor default a.delay ∧
      waiting.map (fun e => (e.request, e.delay)) =
        (t.asked.drop (t.channel.sent.length + 1)).map fun a =>
          (a.request, Queue.delayFor default a.delay) := by
  have hentries := h.entries
  rw [he] at hentries
  cases hd : t.asked.drop t.channel.sent.length with
  | nil =>
    rw [hd] at hentries
    cases hentries
  | cons a later =>
    rw [hd, List.map_cons, List.map_cons, List.cons.injEq, Prod.mk.injEq] at hentries
    obtain ⟨⟨hrequest, hdelay⟩, hlater⟩ := hentries
    have hget : t.asked[t.channel.sent.length]? = some a := by
      rw [← List.head?_drop, hd]
      rfl
    refine ⟨a, hget, hrequest, hdelay, ?_⟩
    rw [hlater, ← List.drop_drop, hd]
    rfl

theorem Punctual.take (h : Punctual wait default replies spare t) {entry : Queue.Entry}
    {waiting : List Queue.Entry} (hw : t.channel.queue.workers = [.ready])
    (he : t.channel.queue.entries = entry :: waiting) :
    Punctual wait default replies spare (t.next .step) := by
  have hstage := h.stage
  rw [hw] at hstage
  obtain ⟨hsent, hfree, hstart⟩ := hstage
  obtain ⟨a, ha, hrequest, hdelay, hwaiting⟩ := h.head he
  have hlt : t.channel.sent.length < t.asked.length := (List.getElem?_eq_some_iff.1 ha).1
  rw [next_step hw nofun, Channel.step_ready_cons hw he]
  exact { h with
    steady := .of_working rfl (h.steady.draining_of_workers hw)
    entries := by
      simp only [List.length_append, List.length_singleton]
      exact hwaiting
    asked := by
      simp only [List.length_append, List.length_singleton]
      omega
    starts := by
      intro k d hd
      simp only at hd ⊢
      by_cases hk : k < t.channel.sent.length
      · rw [List.getElem?_append_left hk] at hd
        exact h.starts k d hd
      · have hlast := (List.getElem?_eq_some_iff.1 hd).1
        rw [List.length_append, List.length_singleton] at hlast
        have hkn : k = t.channel.sent.length := by omega
        rw [hkn, List.getElem?_concat_length, Option.some.injEq] at hd
        subst hkn hd
        refine ⟨a, ha, hrequest, by omega, ?_⟩
        rw [hsent] at ha ⊢
        exact hstart a ha
    ends := by
      intro k f hf
      obtain ⟨d, hd, htime⟩ := h.ends k f hf
      refine ⟨d, ?_, htime⟩
      simp only
      rwa [List.getElem?_append_left (List.getElem?_eq_some_iff.1 hd).1]
    stage := by
      have hle : t.channel.clock ≤ t.channel.clock + t.channel.nextReply.latency :=
        Nat.le_add_right _ _
      refine ⟨by simp [hsent], hle, ?_, fun d hd => ?_⟩
      · rw [← hsent, rest_eq ha, hdelay]
      · simp only [← hsent, List.getElem?_concat_length, Option.some.injEq] at hd
        rw [← hd]
        rfl }

theorem Punctual.settle (h : Punctual wait default replies spare t) {entry : Queue.Entry}
    (hw : t.channel.queue.workers = [.sending entry]) :
    Punctual wait default replies spare (t.next .step) := by
  have hstage := h.stage
  rw [hw] at hstage
  obtain ⟨hsent, hle, hrest, hdue⟩ := hstage
  rw [next_step_sending hw, Channel.step_sending hw, Queue.advance_settle hw]
  exact { h with
    steady := .of_working rfl (h.steady.draining_of_workers hw)
    coming := by
      simp only [h.coming, List.tail_drop, List.length_append, List.length_singleton]
    past := fun a ha => Nat.le_trans (h.past a ha) hle
    starts := by
      intro k d hd
      obtain ⟨a, ha, hrequest, hk, htime⟩ := h.starts k d hd
      refine ⟨a, ha, hrequest, ?_, ?_⟩
      · simp only [List.length_append, List.length_singleton]
        omega
      · simp only
        rwa [free_append_finished hk]
    ends := by
      intro k f hf
      simp only at hf ⊢
      by_cases hk : k < t.finished.length
      · rw [List.getElem?_append_left hk] at hf
        exact h.ends k f hf
      · have hlast := (List.getElem?_eq_some_iff.1 hf).1
        rw [List.length_append, List.length_singleton] at hlast
        have hkn : k = t.finished.length := by omega
        rw [hkn, List.getElem?_concat_length, Option.some.injEq] at hf
        subst hkn hf
        have hd : t.finished.length < t.channel.sent.length := by omega
        refine ⟨_, List.getElem?_eq_getElem hd, ?_⟩
        rw [hdue _ (List.getElem?_eq_getElem hd), h.nextReply]
    stage := by
      refine ⟨by simp [hsent], t.finished.length, by simp, by simp, ?_⟩
      simp only
      exact hrest }

theorem Punctual.deliver (h : Punctual wait default replies spare t) {entry : Queue.Entry}
    {outcome : Except Failure Answer} (hw : t.channel.queue.workers = [.holding entry outcome]) :
    Punctual wait default replies spare (t.next .step) := by
  have hstage := h.stage
  rw [hw] at hstage
  obtain ⟨hsent, k, hk, hf, hrest⟩ := hstage
  rw [next_step hw nofun, Channel.step_holding hw, Queue.advance_deliver hw]
  exact { h with
    steady := .of_working rfl (h.steady.draining_of_workers hw)
    stage := by
      have hle : t.channel.clock ≤ t.channel.clock + t.channel.wait entry.delay :=
        Nat.le_add_right _ _
      refine ⟨hsent, hle, ?_⟩
      simp only
      rw [hk, free, ← hrest, List.getD_eq_getElem?_getD, hf, h.waits]
      rfl }

theorem Punctual.wake (h : Punctual wait default replies spare t) {entry : Queue.Entry}
    (hw : t.channel.queue.workers = [.resting entry]) :
    Punctual wait default replies spare (t.next .step) := by
  have hstage := h.stage
  rw [hw] at hstage
  obtain ⟨hsent, hle, hdue⟩ := hstage
  rw [next_step hw nofun, Channel.step_resting hw]
  exact { h with
    steady := .of_working rfl (h.steady.draining_of_workers hw)
    past := fun a ha => Nat.le_trans (h.past a ha) hle
    stage := by
      refine ⟨hsent, Nat.le_of_eq hdue.symm, fun a ha => ?_⟩
      have hpast := h.past a (List.mem_of_getElem? ha)
      simp only
      omega }

theorem Punctual.step (h : Punctual wait default replies spare t) :
    Punctual wait default replies spare (t.next .step) := by
  rcases h.steady.workers_cases with ⟨hw, -, -⟩ | ⟨phase, hw, -⟩
  · have hnone : t.next .step = t := by
      simp [next, hw, Channel.act, Channel.step_nil hw]
    rwa [hnone]
  cases phase with
  | ready =>
    cases he : t.channel.queue.entries with
    | nil => exact h.stop hw he
    | cons entry waiting => exact h.take hw he
  | sending entry => exact h.settle hw
  | holding entry outcome => exact h.deliver hw
  | resting entry => exact h.wake hw

theorem Punctual.next (h : Punctual wait default replies spare t) (a : Act) :
    Punctual wait default replies spare (t.next a) := by
  cases a with
  | enqueue request endpoint delay => exact h.enqueue request endpoint delay
  | drop call => exact h.drop call
  | step => exact h.step
  | pass time => exact h.pass time

theorem punctual_run (configured : Nat) (replies : List TimedReply) (spare : TimedReply)
    (wait : Nat → Nat) (acts : List Act) :
    Punctual wait (max configured Queue.leastDelay) replies spare
      (run (.opened configured replies spare wait) acts) := by
  unfold run
  have h := punctual_opened configured replies spare wait
  generalize ({ channel := .opened configured replies spare wait } : Timeline) = t at h
  induction acts generalizing t with
  | nil => exact h
  | cons a rest ih => exact ih _ (h.next a)

end Timeline

end BoardFilter.Site
