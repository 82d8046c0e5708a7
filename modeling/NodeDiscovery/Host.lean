import NodeDiscovery.Explorer.Call
import NodeDiscovery.TaskGroup

/-!
# Hosts

A host keeps an explorer, the clock that it reads, the bans in force, and perhaps the tasks that
drive it.  Tasks take turns: one that has something to do runs until it waits again, in any order,
and time moves on only when none has anything to do.

## Main definitions

* `Host` — the explorer and what is around it.
* `Host.call` — a call from outside.
* `Host.runTask` — a task takes its turn.
* `Host.settle` — tasks take turns until none has anything to do.
* `Host.spawn`, `Host.post`, `Host.advance`, `Host.shutdown`, `Host.abort` — what is done to the
  tasks.
-/

namespace NodeDiscovery

/-- The tasks of a host. -/
inductive Tasks where
  /-- There were never any. -/
  | absent
  /-- There are some, though they may all have ended. -/
  | held (group : TaskGroup)
  /-- There were some and they were aborted. -/
  | aborted

/-- An explorer and what is around it. -/
structure Host where
  /-- The explorer. -/
  explorer : Explorer
  /-- The clock that the explorer reads. -/
  clock : ManualClock
  /-- The bans in force. -/
  bans : Bans
  /-- The tasks. -/
  tasks : Tasks
  /-- The messages that the explorer has sent and nobody has collected. -/
  sent : List Datagram

namespace Host

/-- A host without tasks. -/
def ofExplorer (explorer : Explorer) (clock : ManualClock) (bans : Bans) : Host :=
  ⟨explorer, clock, bans, .absent, []⟩

/-- Calls the explorer at the time that the clock shows; says whether its phase allowed it. -/
def call (c : Call) (h : Host) : Bool × Host :=
  let turn := h.explorer.perform h.bans h.clock.now c
  (turn.accepted, { h with explorer := turn.explorer, sent := h.sent ++ turn.sent })

/-- Collects the messages sent. -/
def collect (h : Host) : List Datagram × Host :=
  (h.sent, { h with sent := [] })

/-- The number of tasks that have not ended, if there are tasks. -/
def liveTasks? (h : Host) : Option Nat :=
  match h.tasks with
  | .held g => some g.liveTasks
  | _ => none

/-! ### Tasks -/

/-- The task that cleans has a tick. -/
def runCleaner (ties : List MessageId) (g : TaskGroup) (h : Host) : Host :=
  if h.explorer.phase = .finished then
    { h with tasks := .held { g with cleaner := g.cleaner.stop, woken := true } }
  else { (h.call (.clean ties)).2 with tasks := .held { g with cleaner := g.cleaner.tick } }

/-- The task that updates has a tick. -/
def runUpdater (g : TaskGroup) (h : Host) : Host :=
  if h.explorer.phase = .finished then
    { h with tasks := .held { g with updater := g.updater.stop, woken := true } }
  else { (h.call .update).2 with tasks := .held { g with updater := g.updater.tick } }

/-- The task that handles messages takes the first one, or follows a wake-up.  If there are both,
`wakeFirst` tells which of the two it takes. -/
def runListener (wakeFirst : Bool) (g : TaskGroup) (h : Host) : Host :=
  match g.queue with
  | [] => if g.woken then { h with tasks := .held { g.stopListening with woken := false } } else h
  | d :: rest =>
    if g.woken && wakeFirst then
      { h with tasks := .held { g.stopListening with woken := false } }
    else
      let h := (h.call (.receive d)).2
      if h.explorer.phase = .finished then { h with tasks := .held g.stopListening }
      else { h with tasks := .held { g with queue := rest } }

/-- A task takes its turn; nothing happens if it has nothing to do. -/
def runTask (task : TaskName) (wakeFirst : Bool) (ties : List MessageId) (h : Host) : Host :=
  match h.tasks with
  | .held g =>
    if g.isReady task then
      match task with
      | .cleaner => h.runCleaner ties g
      | .updater => h.runUpdater g
      | .listener => h.runListener wakeFirst g
    else h
  | _ => h

/-- The task whose turn is next, if any has something to do. -/
def nextReady? (h : Host) : Option TaskName :=
  match h.tasks with
  | .held g => g.nextReady?
  | _ => none

/-- Tasks take turns, at most as often as the first argument says. -/
def takeTurns : Nat → Host → Host
  | 0, h => h
  | n + 1, h =>
    match h.nextReady? with
    | some task => takeTurns n (h.runTask task false [])
    | none => h

/-- Tasks take turns until none has anything to do. -/
def settle (h : Host) : Host :=
  match h.tasks with
  | .held g => h.takeTurns g.backlog
  | _ => h

/-! ### What is done to the tasks -/

/-- Starts the explorer and the tasks that drive it, in place of any others; says whether there
was an explorer to start. -/
def spawn (capacity : Nat) (h : Host) : Bool × Host :=
  let started := h.call (.start true)
  let config := h.explorer.config
  let group := TaskGroup.spawn config.cleanPeriod config.refreshPeriod capacity started.1
  (started.1, { started.2 with tasks := .held group })

/-- Puts messages into the queue of the tasks. -/
def post (events : List Datagram) (h : Host) : List Receipt × Host :=
  match h.tasks with
  | .held g =>
    let posted := g.postAll events
    (posted.1, { h with tasks := .held posted.2 })
  | .absent => (events.map fun _ => .absent, h)
  | .aborted => (events.map fun _ => .closed, h)

/-- The time of the tasks moves on by a millisecond. -/
def tickTasks (h : Host) : Host :=
  match h.tasks with
  | .held g => { h with tasks := .held { g with elapsed := g.elapsed + 1 } }
  | _ => h

/-- Time moves on by a millisecond, for the explorer and for the tasks. -/
def advanceOne (h : Host) : Host :=
  (tickTasks { h with clock := h.clock.advance 1 }).settle

/-- Time moves on by some milliseconds. -/
def advance : Nat → Host → Host
  | 0, h => h
  | n + 1, h => advance n h.advanceOne

/-- Aborts the tasks and leaves the explorer as it is. -/
def abort (h : Host) : Host :=
  match h.tasks with
  | .held _ => { h with tasks := .aborted }
  | _ => h

/-- Ends the explorer and aborts the tasks. -/
def shutdown (h : Host) : Host :=
  match h.tasks with
  | .held _ => (h.call .dispose).2.abort
  | _ => h

end Host
end NodeDiscovery
