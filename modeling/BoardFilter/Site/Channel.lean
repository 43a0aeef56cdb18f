import BoardFilter.Site.Queue

/-!
# A queue on a clock

A channel is the queue together with a clock and with the replies that the site is going to give.
Only round trips and rests take time. Nothing happens while the callers go on with their own
affairs; when one of them waits, what is due before the end of the wait happens in turn.
-/

namespace BoardFilter.Site

/-- A reply and the time until it is there, in milliseconds. -/
structure TimedReply where
  reply : Reply
  latency : Nat := 0
deriving DecidableEq, Repr, Inhabited

def TimedReply.nothing : TimedReply := ⟨.received 200 "[]", 0⟩

structure Dispatch where
  request : Request
  time : Nat
deriving DecidableEq, Repr, Inhabited

/-- The runtime rests for `wait n` when it is asked to rest for `n`. The site gives the `replies` in
turn and then the `spare` one, and `due` ends the present round trip or rest. -/
structure Channel where
  queue : Queue := {}
  defaultDelay : Nat := Queue.usualDelay
  wait : Nat → Nat := id
  clock : Nat := 0
  replies : List TimedReply := []
  spare : TimedReply := .nothing
  due : Nat := 0
  sent : List Dispatch := []
deriving Inhabited

namespace Queue

def Phase.rank : Phase → Nat
  | ready => 1
  | resting _ => 2
  | holding _ _ => 3
  | sending _ => 4

def work (q : Queue) : Nat :=
  5 * q.entries.length + q.workers.foldr (fun phase rest => phase.rank + rest) 0

end Queue

namespace Channel

def opened (delay : Nat) (replies : List TimedReply) (spare : TimedReply := .nothing)
    (wait : Nat → Nat := id) : Channel :=
  { defaultDelay := max delay Queue.leastDelay, wait, replies, spare }

def pending (c : Channel) : Nat := c.queue.entries.length

def nextReply (c : Channel) : TimedReply := c.replies.headD c.spare

def nextTime? (c : Channel) : Option Nat :=
  match c.queue.workers with
  | [] => none
  | .ready :: _ | .holding _ _ :: _ => some c.clock
  | .sending _ :: _ | .resting _ :: _ => some c.due

def step (c : Channel) : Channel :=
  match c.queue.workers with
  | [] => c
  | .ready :: _ =>
    let queue := c.queue.advance 0 .take
    match c.queue.entries with
    | [] => { c with queue }
    | entry :: _ =>
      { c with
        queue
        sent := c.sent ++ [⟨entry.request, c.clock⟩]
        due := c.clock + c.nextReply.latency }
  | .sending _ :: _ =>
    { c with
      queue := c.queue.advance 0 (.settle c.nextReply.reply)
      clock := c.due
      replies := c.replies.tail }
  | .holding entry _ :: _ =>
    { c with queue := c.queue.advance 0 .deliver, due := c.clock + c.wait entry.delay }
  | .resting _ :: _ => { c with queue := c.queue.advance 0 .wake, clock := c.due }

theorem work_step_lt {c : Channel} (h : c.queue.workers ≠ []) :
    c.step.queue.work < c.queue.work := by
  obtain ⟨queue, delay, wait, clock, replies, spare, due, sent⟩ := c
  obtain ⟨entries, waiters, nextIndex, draining, workers, callers, inbox⟩ := queue
  cases workers with
  | nil => exact absurd rfl h
  | cons phase rest =>
    cases phase with
    | ready =>
      cases entries with
      | nil => simp [step, Queue.advance, Queue.work, Queue.Phase.rank]
      | cons => simp [step, Queue.advance, Queue.work, Queue.Phase.rank]; omega
    | sending => simp [step, Queue.advance, Queue.work, Queue.Phase.rank]
    | holding => simp [step, Queue.advance, Queue.work, Queue.Phase.rank]
    | resting => simp [step, Queue.advance, Queue.work, Queue.Phase.rank]

def runUntil (stop : Channel → Bool) (c : Channel) : Channel :=
  if h : c.queue.workers = [] then c
  else if stop c then c
  else
    have := work_step_lt h
    runUntil stop c.step
termination_by c.queue.work

def enqueue (c : Channel) (request : Request) (endpoint : Endpoint) (delay : Option Nat) :
    Nat × Channel :=
  let delay := Queue.delayFor c.defaultDelay delay
  (c.queue.nextIndex, { c with queue := c.queue.enqueue request endpoint delay })

def drop (c : Channel) (call : Nat) : Channel := { c with queue := c.queue.drop call }

def sleep (c : Channel) (time : Nat) : Channel :=
  let wake := c.clock + time
  { c.runUntil fun c => c.nextTime?.all (wake ≤ ·) with clock := wake }

/-- Waits for the answer to a call; nothing for a call that nobody holds any more. -/
def await? (c : Channel) (call : Nat) : Option (Except Failure Answer) × Channel :=
  if c.queue.holds call then
    let c := c.runUntil fun c => (c.queue.answer? call).isSome
    (some ((c.queue.answer? call).getD (.error .abandoned)), c.drop call)
  else (none, c)

def await (c : Channel) (call : Nat) : Except Failure Answer × Channel :=
  let (answer, c) := c.await? call
  (answer.getD (.error .abandoned), c)

end Channel

end BoardFilter.Site
