import BoardFilter.Site.Answer

/-!
# The queue of requests

All requests to the site go through one queue, which sends them one at a time in the order in which
they came in. A worker is started with the first request; it takes an entry, waits for the reply,
hands the answer over, rests for as long as the entry says, and goes on until no entry is left.
A caller that loses interest does not take its request back.
-/

namespace BoardFilter.Site

structure Request where
  url : String
  headers : List (String × String) := []
  login : Option (String × String) := none
deriving DecidableEq, Repr, Inhabited

namespace Queue

def leastDelay : Nat := 500

def usualDelay : Nat := 1000

/-- The rest after a request that asks for `wanted`, in a queue with the given default. -/
def delayFor (default : Nat) (wanted : Option Nat) : Nat := max (wanted.getD default) leastDelay

structure Entry where
  index : Nat
  request : Request
  endpoint : Endpoint
  delay : Nat
deriving DecidableEq, Repr, Inhabited

/-- What a worker is about to do. -/
inductive Phase where
  | ready
  | sending (entry : Entry)
  | holding (entry : Entry) (outcome : Except Failure Answer)
  | resting (entry : Entry)
deriving Inhabited

inductive Move where
  | take
  | settle (reply : Reply)
  | deliver
  | wake
deriving Inhabited

end Queue

/-- The `waiters` are the calls that are owed an answer, the `callers` those that somebody still
holds on to, and the `inbox` has the answers that were not fetched yet. -/
structure Queue where
  entries : List Queue.Entry := []
  waiters : List Nat := []
  nextIndex : Nat := 0
  draining : Bool := false
  workers : List Queue.Phase := []
  callers : List Nat := []
  inbox : List (Nat × Except Failure Answer) := []
deriving Inhabited

namespace Queue

def enqueue (q : Queue) (request : Request) (endpoint : Endpoint) (delay : Nat) : Queue :=
  { q with
    entries := q.entries ++ [⟨q.nextIndex, request, endpoint, delay⟩]
    waiters := q.waiters ++ [q.nextIndex]
    callers := q.callers ++ [q.nextIndex]
    nextIndex := q.nextIndex + 1
    draining := true
    workers := if q.draining then q.workers else q.workers ++ [.ready] }

def drop (q : Queue) (index : Nat) : Queue :=
  { q with
    callers := q.callers.filter (· ≠ index)
    inbox := q.inbox.filter (·.1 ≠ index) }

def holds (q : Queue) (index : Nat) : Bool := q.callers.contains index

def answer? (q : Queue) (index : Nat) : Option (Except Failure Answer) :=
  (q.inbox.find? fun a => a.1 = index).map (·.2)

/-- One worker makes a step; a step that does not fit its phase changes nothing. -/
def advance (q : Queue) (worker : Nat) (move : Move) : Queue :=
  match q.workers[worker]?, move with
  | some .ready, .take =>
    match q.entries with
    | [] => { q with draining := false, workers := q.workers.eraseIdx worker }
    | entry :: rest =>
      { q with entries := rest, workers := q.workers.set worker (.sending entry) }
  | some (.sending entry), .settle reply =>
    let outcome := Answer.ofReply entry.endpoint reply
    { q with workers := q.workers.set worker (.holding entry outcome) }
  | some (.holding entry outcome), .deliver =>
    { q with
      waiters := q.waiters.filter (· ≠ entry.index)
      inbox :=
        if q.waiters.contains entry.index && q.holds entry.index then
          q.inbox ++ [(entry.index, outcome)]
        else q.inbox
      workers := q.workers.set worker (.resting entry) }
  | some (.resting _), .wake => { q with workers := q.workers.set worker .ready }
  | _, _ => q

inductive Event where
  | enqueue (request : Request) (endpoint : Endpoint) (delay : Nat)
  | drop (index : Nat)
  | advance (worker : Nat) (move : Move)
deriving Inhabited

def apply (q : Queue) : Event → Queue
  | .enqueue request endpoint delay => q.enqueue request endpoint delay
  | .drop index => q.drop index
  | .advance worker move => q.advance worker move

end Queue

end BoardFilter.Site
