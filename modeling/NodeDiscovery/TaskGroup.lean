import NodeDiscovery.Message

/-!
# Background tasks

Three tasks drive an explorer: one cleans and one updates at regular times, and one handles the
messages that arrive in a bounded queue.  The first two look at their ticks whether the explorer
has finished.  If so they end, and wake the third, which may be waiting at an empty queue.  A
wake-up that finds the third task busy is kept until it looks for one.

Time is counted in milliseconds since the tasks were started.

## Main definitions

* `Timer` — a task with regular ticks.
* `TaskGroup` — the three tasks and what they share.
* `TaskGroup.isReady` — whether a task has something to do.
-/

namespace NodeDiscovery

/-- A task with regular ticks. -/
structure Timer where
  /-- The time between two ticks. -/
  period : Nat
  /-- The time of the next tick. -/
  nextTick : Nat
  /-- Whether the task has not ended. -/
  isLive : Bool
  /-- Ticks are apart. -/
  period_pos : 0 < period

namespace Timer

theorem max_one_pos (n : Nat) : 0 < max n 1 := by omega

/-- A task whose first tick comes after one period.  A period of zero counts as one
millisecond. -/
def ofPeriod (period : Nat) (isLive : Bool) : Timer where
  period := max period 1
  nextTick := max period 1
  isLive := isLive
  period_pos := max_one_pos period

/-- Whether a tick is due. -/
def isDue (elapsed : Nat) (t : Timer) : Bool :=
  t.isLive && t.nextTick ≤ elapsed

/-- The task after a tick. -/
def tick (t : Timer) : Timer :=
  { t with nextTick := t.nextTick + t.period }

/-- The task after its end. -/
def stop (t : Timer) : Timer :=
  { t with isLive := false }

end Timer

/-- The tasks that drive an explorer. -/
inductive TaskName where
  /-- Cleans at regular times. -/
  | cleaner
  /-- Updates at regular times. -/
  | updater
  /-- Handles the messages in the queue. -/
  | listener
  deriving DecidableEq, Repr

/-- What became of a message that was put into the queue. -/
inductive Receipt where
  /-- It waits to be handled. -/
  | queued
  /-- The queue is full. -/
  | full
  /-- Nobody handles messages any more, or nobody ever did. -/
  | closed
  /-- There is no queue. -/
  | absent
  deriving DecidableEq, Repr

/-- The three tasks and what they share. -/
structure TaskGroup where
  /-- The time. -/
  elapsed : Nat
  /-- The task that cleans. -/
  cleaner : Timer
  /-- The task that updates. -/
  updater : Timer
  /-- Whether the task that handles messages has not ended. -/
  listening : Bool
  /-- The messages that wait, the first one to be handled first. -/
  queue : List Datagram
  /-- How many messages wait at most. -/
  capacity : Nat
  /-- Whether a wake-up is kept for the task that handles messages. -/
  woken : Bool

namespace TaskGroup

/-- The tasks of an explorer with the given periods; none of them is live unless the explorer was
started for them. -/
def spawn (cleanPeriod refreshPeriod capacity : Nat) (started : Bool) : TaskGroup where
  elapsed := 0
  cleaner := .ofPeriod cleanPeriod started
  updater := .ofPeriod refreshPeriod started
  listening := started
  queue := []
  capacity := max capacity 1
  woken := false

/-- The number of tasks that have not ended. -/
def liveTasks (g : TaskGroup) : Nat :=
  g.cleaner.isLive.toNat + g.updater.isLive.toNat + g.listening.toNat

/-- Whether a task has something to do now. -/
def isReady (g : TaskGroup) : TaskName → Bool
  | .cleaner => g.cleaner.isDue g.elapsed
  | .updater => g.updater.isDue g.elapsed
  | .listener => g.listening && (g.woken || !g.queue.isEmpty)

/-- Some task that has something to do now. -/
def nextReady? (g : TaskGroup) : Option TaskName :=
  [.cleaner, .updater, .listener].find? g.isReady

/-- Puts a message into the queue. -/
def post (d : Datagram) (g : TaskGroup) : Receipt × TaskGroup :=
  if !g.listening then (.closed, g)
  else if g.queue.length < g.capacity then (.queued, { g with queue := g.queue ++ [d] })
  else (.full, g)

/-- Puts messages into the queue, one after the other. -/
def postAll : List Datagram → TaskGroup → List Receipt × TaskGroup
  | [], g => ([], g)
  | d :: rest, g =>
    let first := g.post d
    let others := postAll rest first.2
    (first.1 :: others.1, others.2)

/-- Ends the task that handles messages; those that wait are lost. -/
def stopListening (g : TaskGroup) : TaskGroup :=
  { g with listening := false, queue := [] }

/-- A bound on how often tasks have something to do before the time moves on. -/
def backlog (g : TaskGroup) : Nat :=
  (g.elapsed + 1 - g.cleaner.nextTick) + (g.elapsed + 1 - g.updater.nextTick) +
    g.queue.length + 2

end TaskGroup
end NodeDiscovery
