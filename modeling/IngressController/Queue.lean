/-!
# The queue of passes

Triggers for a pass are all alike, so the queue only remembers whether one is pending: triggers
that come while one is pending count once. A consumer takes the pending trigger or parks until it is
notified; a notification that nobody waits for is kept for the next consumer, once. After the queue
has been shut down it takes and hands out nothing.
-/

set_option autoImplicit false

namespace IngressController

/-- The state of a queue. -/
structure Queue where
  /-- Whether a trigger has not been taken yet. -/
  pending : Bool := false
  shuttingDown : Bool := false
  /-- Whether a notification is kept for the next consumer that parks. -/
  permit : Bool := false
  deriving DecidableEq

/-- A consumer that is kept. -/
inductive Consumer where
  /-- It has not been polled yet. -/
  | fresh
  /-- It waits for a notification. -/
  | parked
  /-- It has been notified and not been polled since. -/
  | woken
  deriving DecidableEq

namespace Queue

/-- Notifies a parked consumer, or keeps the notification. -/
def notify (q : Queue) (consumer : Option Consumer) : Queue × Option Consumer :=
  match consumer with
  | some .parked => (q, some .woken)
  | consumer => ({ q with permit := true }, consumer)

/-- Adds a trigger, unless the queue has been shut down; tells whether it was accepted. -/
def enqueue (q : Queue) (consumer : Option Consumer) : Bool × Queue × Option Consumer :=
  if q.shuttingDown then (false, q, consumer)
  else if q.pending then (true, q, consumer)
  else
    let (q, consumer) := { q with pending := true }.notify consumer
    (true, q, consumer)

/-- Shuts the queue down. -/
def shutdown (q : Queue) (consumer : Option Consumer) : Queue × Option Consumer :=
  { q with shuttingDown := true }.notify consumer

/-- Takes the pending trigger; false if the queue has been shut down, nothing if it has to wait. -/
def take? (q : Queue) : Option Bool × Queue :=
  if q.shuttingDown then (some false, q)
  else if q.pending then (some true, { q with pending := false })
  else (none, q)

/-- Looks for a trigger and parks if there is none. A kept notification is used up by looking once
more, which finds the same. -/
def look (q : Queue) : Option Bool × Queue :=
  match q.take? with
  | (none, q) => (none, { q with permit := false })
  | found => found

/-- Polls a consumer once. A parked one that has not been notified does not look. -/
def poll (q : Queue) : Consumer → Option Bool × Queue × Consumer
  | .parked => (none, q, .parked)
  | _ =>
    let (found, q) := q.look
    (found, q, .parked)

/-- Drops a consumer. A notification that it has not used is kept for another one. -/
def drop (q : Queue) : Consumer → Queue
  | .woken => { q with permit := true }
  | _ => q

end Queue

end IngressController
