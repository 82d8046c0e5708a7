import NodeDiscovery.Host
import NodeDiscovery.Proofs.Runs

/-!
# How tasks end

The tasks of a host share the explorer, a queue and a wake-up, and any of them may be the first
to see that the explorer has finished.  A task with ticks sees it at a tick, and the task that
handles messages after a message; but no message may ever come, so the first two wake the third
when they end.  The wake-up may find it waiting, busy with messages, or gone.

What a task does in its turn is read off once, as one of seven moves.  Each move leaves a wake-up
that is still needed in place, brings no task back, and takes away from the work that is left.
What is done from outside touches the tasks only by messages, by time, or by aborting all of them;
so what moves keep holds in every state of every script.

## Main definitions

* `TaskGroup.Idle` — no task has something to do.
* `TaskGroup.WakeUpKept` — a task with ticks that has ended left a wake-up for the one that
  handles messages.
* `Host.Moves` — what a task does in its turn.
* `Host.Action`, `Host.play` — what can happen to a host, and a script of it.
* `Host.Step` — what an action comes to.

## Main results

* `Host.no_task_stranded` — at rest nobody listens once a task with ticks has ended, tasks do not
  come back, and a finished explorer stays as it is.
* `Host.Over.liveTasks_advance` — after the end of the explorer the time of the next ticks ends
  every task.
-/

namespace NodeDiscovery

/-! ### Work that is left -/

namespace Timer

variable {elapsed : Nat} {t : Timer}

/-- A bound on the ticks that are due. -/
def workload (elapsed : Nat) (t : Timer) : Nat :=
  if t.isLive then elapsed + 1 - t.nextTick else 0

theorem isDue_iff : t.isDue elapsed = true ↔ t.isLive = true ∧ t.nextTick ≤ elapsed := by
  simp [isDue]

theorem workload_pos_iff : 0 < t.workload elapsed ↔ t.isDue elapsed = true := by
  rw [isDue_iff, workload]
  split
  case isTrue hlive =>
    simp only [hlive, true_and]
    omega
  case isFalse hlive => simp [hlive]

/-- A tick uses up work, as ticks are apart. -/
theorem workload_tick_lt (hdue : t.isDue elapsed = true) :
    t.tick.workload elapsed < t.workload elapsed := by
  obtain ⟨hlive, hle⟩ := isDue_iff.mp hdue
  have hpos := t.period_pos
  simp only [workload, tick, hlive, ↓reduceIte]
  omega

/-- The end of a task uses up the work it had. -/
theorem workload_stop_lt (hdue : t.isDue elapsed = true) :
    t.stop.workload elapsed < t.workload elapsed :=
  workload_pos_iff.mpr hdue

theorem workload_le (elapsed : Nat) (t : Timer) :
    t.workload elapsed ≤ elapsed + 1 - t.nextTick := by
  unfold workload
  split <;> omega

end Timer

namespace TaskGroup

variable {g g' : TaskGroup}

/-- No task has something to do. -/
def Idle (g : TaskGroup) : Prop :=
  ∀ task, g.isReady task = false

/-- A task with ticks has ended. -/
def HasEnded (g : TaskGroup) : Prop :=
  g.cleaner.isLive = false ∨ g.updater.isLive = false

/-- A task with ticks that has ended left a wake-up, which is there until the task that handles
messages has followed it or has ended by itself. -/
def WakeUpKept (g : TaskGroup) : Prop :=
  g.HasEnded → g.listening = true → g.woken = true

/-- Some milliseconds have passed and neither of the next ticks has been moved. -/
structure Passed (millis : Nat) (g g' : TaskGroup) : Prop where
  /-- The time moved on. -/
  elapsed_eq : g'.elapsed = g.elapsed + millis
  /-- The task that cleans waits for the same tick. -/
  cleaner_eq : g'.cleaner.nextTick = g.cleaner.nextTick
  /-- The task that updates waits for the same tick. -/
  updater_eq : g'.updater.nextTick = g.updater.nextTick

/-- A bound on the turns that tasks take before the time moves on. -/
def workload (g : TaskGroup) : Nat :=
  g.cleaner.workload g.elapsed + g.updater.workload g.elapsed +
    if g.listening then g.queue.length + 1 else 0

theorem Passed.refl (g : TaskGroup) : Passed 0 g g :=
  ⟨rfl, rfl, rfl⟩

theorem Passed.trans {m n : Nat} {g₁ g₂ g₃ : TaskGroup} (h : Passed m g₁ g₂) (h' : Passed n g₂ g₃) :
    Passed (m + n) g₁ g₃ where
  elapsed_eq := by rw [h'.elapsed_eq, h.elapsed_eq, Nat.add_assoc]
  cleaner_eq := h'.cleaner_eq.trans h.cleaner_eq
  updater_eq := h'.updater_eq.trans h.updater_eq

theorem nextReady?_eq_none_iff : g.nextReady? = none ↔ g.Idle := by
  rw [nextReady?, List.find?_eq_none]
  constructor
  · intro h task
    refine Bool.eq_false_iff.mpr (h task ?_)
    cases task <;> simp
  · intro h task _
    simp [h task]

theorem isReady_of_nextReady? {task : TaskName} (h : g.nextReady? = some task) :
    g.isReady task = true :=
  List.find?_some h

theorem workload_le_backlog (g : TaskGroup) : g.workload ≤ g.backlog := by
  have hcleaner := g.cleaner.workload_le g.elapsed
  have hupdater := g.updater.workload_le g.elapsed
  unfold workload backlog
  split <;> omega

/-- With no work left no task has something to do. -/
theorem idle_of_workload_eq_zero (h : g.workload = 0) : g.Idle := by
  simp only [workload, Nat.add_eq_zero_iff] at h
  obtain ⟨⟨hcleaner, hupdater⟩, hlistener⟩ := h
  intro task
  cases task with
  | cleaner =>
    refine Bool.eq_false_iff.mpr fun hdue => ?_
    exact Nat.ne_of_gt (Timer.workload_pos_iff.mpr hdue) hcleaner
  | updater =>
    refine Bool.eq_false_iff.mpr fun hdue => ?_
    exact Nat.ne_of_gt (Timer.workload_pos_iff.mpr hdue) hupdater
  | listener =>
    cases hlistening : g.listening with
    | false => simp [isReady, hlistening]
    | true => simp [hlistening] at hlistener

/-- **At rest nobody listens once a task with ticks has ended**: whoever listened would still have
the wake-up to follow. -/
theorem Idle.listening_eq_false (hidle : g.Idle) (hkept : g.WakeUpKept) (hended : g.HasEnded) :
    g.listening = false := by
  refine Bool.eq_false_iff.mpr fun hlistening => ?_
  have hwoken : g.woken = true := hkept hended hlistening
  have hready : g.isReady .listener = true := by simp [isReady, hlistening, hwoken]
  rw [hidle .listener] at hready
  cases hready

/-- At rest, when the next ticks are past, every task has ended. -/
theorem Idle.liveTasks_eq_zero (hidle : g.Idle) (hkept : g.WakeUpKept)
    (hcleaner : g.cleaner.nextTick ≤ g.elapsed) (hupdater : g.updater.nextTick ≤ g.elapsed) :
    g.liveTasks = 0 := by
  have hc : g.cleaner.isLive = false := by
    simpa [isReady, Timer.isDue, hcleaner] using hidle .cleaner
  have hu : g.updater.isLive = false := by
    simpa [isReady, Timer.isDue, hupdater] using hidle .updater
  have hl := hidle.listening_eq_false hkept (.inl hc)
  simp [liveTasks, hc, hu, hl]

/-- Messages that are put into the queue change nothing else. -/
theorem postAll_eq (events : List Datagram) (g : TaskGroup) :
    ∃ queue, (g.postAll events).2 = { g with queue := queue } := by
  induction events generalizing g with
  | nil => exact ⟨g.queue, rfl⟩
  | cons d rest ih =>
    have hpost : ∃ queue, (g.post d).2 = { g with queue := queue } := by
      unfold post
      split
      · exact ⟨g.queue, rfl⟩
      · split
        · exact ⟨_, rfl⟩
        · exact ⟨g.queue, rfl⟩
    obtain ⟨queue, hqueue⟩ := hpost
    obtain ⟨queue', hqueue'⟩ := ih (g.post d).2
    exact ⟨queue', by rw [postAll, hqueue', hqueue]⟩

end TaskGroup

/-! ### What a task does in its turn -/

namespace Host

variable {h h' : Host} {g g' : TaskGroup} {call? : Option Call}

/-- Calls the explorer, or does not. -/
def made : Option Call → Host → Host
  | none, h => h
  | some c, h => (h.call c).2

/-- What a task that has something to do does in its turn: the call that it makes, if any, and the
tasks afterwards. -/
inductive Moves (h : Host) (g : TaskGroup) : Option Call → TaskGroup → Prop where
  /-- A tick of the task that cleans. -/
  | cleans (ties : List MessageId) (hphase : h.explorer.phase ≠ .finished)
      (hdue : g.cleaner.isDue g.elapsed = true) :
      Moves h g (some (.clean ties)) { g with cleaner := g.cleaner.tick }
  /-- The last tick of the task that cleans. -/
  | cleanerEnds (hphase : h.explorer.phase = .finished)
      (hdue : g.cleaner.isDue g.elapsed = true) :
      Moves h g none { g with cleaner := g.cleaner.stop, woken := true }
  /-- A tick of the task that updates. -/
  | updates (hphase : h.explorer.phase ≠ .finished) (hdue : g.updater.isDue g.elapsed = true) :
      Moves h g (some .update) { g with updater := g.updater.tick }
  /-- The last tick of the task that updates. -/
  | updaterEnds (hphase : h.explorer.phase = .finished)
      (hdue : g.updater.isDue g.elapsed = true) :
      Moves h g none { g with updater := g.updater.stop, woken := true }
  /-- A message is handled. -/
  | handles {d : Datagram} {rest : List Datagram} (hlistening : g.listening = true)
      (hqueue : g.queue = d :: rest)
      (hphase : (h.call (.receive d)).2.explorer.phase ≠ .finished) :
      Moves h g (some (.receive d)) { g with queue := rest }
  /-- A message is handled, and then the explorer is seen to have finished. -/
  | handlesLast {d : Datagram} {rest : List Datagram} (hlistening : g.listening = true)
      (hqueue : g.queue = d :: rest)
      (hphase : (h.call (.receive d)).2.explorer.phase = .finished) :
      Moves h g (some (.receive d)) g.stopListening
  /-- The wake-up is followed. -/
  | wakes (hlistening : g.listening = true) (hwoken : g.woken = true) :
      Moves h g none { g.stopListening with woken := false }

theorem runCleaner_eq (ties : List MessageId) (hdue : g.cleaner.isDue g.elapsed = true) :
    ∃ call? g', h.Moves g call? g' ∧
      h.runCleaner ties g = { h.made call? with tasks := .held g' } := by
  unfold runCleaner
  split
  case isTrue hphase => exact ⟨_, _, .cleanerEnds hphase hdue, rfl⟩
  case isFalse hphase => exact ⟨_, _, .cleans ties hphase hdue, rfl⟩

theorem runUpdater_eq (hdue : g.updater.isDue g.elapsed = true) :
    ∃ call? g', h.Moves g call? g' ∧ h.runUpdater g = { h.made call? with tasks := .held g' } := by
  unfold runUpdater
  split
  case isTrue hphase => exact ⟨_, _, .updaterEnds hphase hdue, rfl⟩
  case isFalse hphase => exact ⟨_, _, .updates hphase hdue, rfl⟩

theorem runListener_eq (wakeFirst : Bool) (hready : g.isReady .listener = true) :
    ∃ call? g', h.Moves g call? g' ∧
      h.runListener wakeFirst g = { h.made call? with tasks := .held g' } := by
  obtain ⟨hlistening, hsome⟩ : g.listening = true ∧ (g.woken = true ∨ g.queue ≠ []) := by
    simpa [TaskGroup.isReady] using hready
  unfold runListener
  split
  case h_1 hqueue =>
    -- Only a wake-up makes the task ready at an empty queue.
    have hwoken : g.woken = true := hsome.resolve_right (not_not_intro hqueue)
    rw [if_pos hwoken]
    exact ⟨_, _, .wakes hlistening hwoken, rfl⟩
  case h_2 d rest hqueue =>
    split
    case isTrue hwake =>
      have hwoken : g.woken = true := (Bool.and_eq_true_iff.mp hwake).1
      exact ⟨_, _, .wakes hlistening hwoken, rfl⟩
    case isFalse =>
      dsimp only
      split
      case isTrue hphase => exact ⟨_, _, .handlesLast hlistening hqueue hphase, rfl⟩
      case isFalse hphase => exact ⟨_, _, .handles hlistening hqueue hphase, rfl⟩

/-- **A task that has something to do makes one of the moves**, whichever task it is and whichever
of a message and a wake-up it takes first. -/
theorem runTask_eq {task : TaskName} (wakeFirst : Bool) (ties : List MessageId)
    (htasks : h.tasks = .held g) (hready : g.isReady task = true) :
    ∃ call? g', h.Moves g call? g' ∧
      h.runTask task wakeFirst ties = { h.made call? with tasks := .held g' } := by
  simp only [runTask, htasks, if_pos hready]
  cases task with
  | cleaner => exact runCleaner_eq ties hready
  | updater => exact runUpdater_eq hready
  | listener => exact runListener_eq wakeFirst hready

/-- A task with nothing to do leaves the host as it is. -/
theorem runTask_of_not_ready {task : TaskName} (wakeFirst : Bool) (ties : List MessageId)
    (htasks : h.tasks = .held g) (hready : ¬ g.isReady task = true) :
    h.runTask task wakeFirst ties = h := by
  simp only [runTask, htasks, if_neg hready]

namespace Moves

/-- A wake-up that is still needed stays: only its follower takes it away. -/
theorem wakeUpKept (hmoves : h.Moves g call? g') (hkept : g.WakeUpKept) : g'.WakeUpKept := by
  intro hended hlistening
  cases hmoves with
  | cleans => exact hkept hended hlistening
  | cleanerEnds => rfl
  | updates => exact hkept hended hlistening
  | updaterEnds => rfl
  | handles => exact hkept hended hlistening
  | handlesLast => cases hlistening
  | wakes => cases hlistening

/-- No task that has ended comes back. -/
theorem liveTasks_le (hmoves : h.Moves g call? g') : g'.liveTasks ≤ g.liveTasks := by
  cases hmoves with
  | cleans => exact Nat.le_refl _
  | cleanerEnds => simp [TaskGroup.liveTasks, Timer.stop]
  | updates => exact Nat.le_refl _
  | updaterEnds => simp [TaskGroup.liveTasks, Timer.stop]
  | handles => exact Nat.le_refl _
  | handlesLast => simp [TaskGroup.liveTasks, TaskGroup.stopListening]
  | wakes => simp [TaskGroup.liveTasks, TaskGroup.stopListening]

/-- Each move takes away from the work that is left. -/
theorem workload_lt (hmoves : h.Moves g call? g') : g'.workload < g.workload := by
  cases hmoves with
  | cleans _ _ hdue =>
    have := Timer.workload_tick_lt hdue
    simp only [TaskGroup.workload]
    omega
  | cleanerEnds _ hdue =>
    have := Timer.workload_stop_lt hdue
    simp only [TaskGroup.workload]
    omega
  | updates _ hdue =>
    have := Timer.workload_tick_lt hdue
    simp only [TaskGroup.workload]
    omega
  | updaterEnds _ hdue =>
    have := Timer.workload_stop_lt hdue
    simp only [TaskGroup.workload]
    omega
  | handles hlistening hqueue => simp [TaskGroup.workload, hlistening, hqueue]
  | handlesLast hlistening =>
    simp [TaskGroup.workload, TaskGroup.stopListening, hlistening]
  | wakes hlistening => simp [TaskGroup.workload, TaskGroup.stopListening, hlistening]

/-- Once the explorer has finished, ticks end a task instead of moving to a later one. -/
theorem passed_of_finished (hmoves : h.Moves g call? g') (hphase : h.explorer.phase = .finished) :
    g.Passed 0 g' := by
  cases hmoves with
  | cleans _ hne => exact absurd hphase hne
  | updates hne => exact absurd hphase hne
  | cleanerEnds => exact ⟨rfl, rfl, rfl⟩
  | updaterEnds => exact ⟨rfl, rfl, rfl⟩
  | handles => exact ⟨rfl, rfl, rfl⟩
  | handlesLast => exact ⟨rfl, rfl, rfl⟩
  | wakes => exact ⟨rfl, rfl, rfl⟩

end Moves

/-! ### What happens to a host -/

/-- What can happen to a host. -/
inductive Action where
  /-- A task takes its turn.  If it finds both a message and a wake-up, the flag tells which of
  the two it takes; if it cleans, `ties` orders the requests that were sent at the same time. -/
  | turn (task : TaskName) (wakeFirst : Bool) (ties : List MessageId)
  /-- The explorer is called from outside. -/
  | call (c : Call)
  /-- Messages are put into the queue. -/
  | post (events : List Datagram)
  /-- The time of the tasks moves on by a millisecond. -/
  | elapse
  /-- The clock that the explorer reads moves on. -/
  | wind (millis : UInt64)
  /-- Other bans come into force. -/
  | judge (bans : Bans)
  /-- The explorer is ended and the tasks are aborted. -/
  | shutdown
  /-- The tasks are aborted. -/
  | abort

/-- One thing happens. -/
def act (h : Host) : Action → Host
  | .turn task wakeFirst ties => h.runTask task wakeFirst ties
  | .call c => (h.call c).2
  | .post events => (h.post events).2
  | .elapse => h.tickTasks
  | .wind millis => { h with clock := h.clock.advance millis }
  | .judge bans => { h with bans := bans }
  | .shutdown => h.shutdown
  | .abort => h.abort

/-- Things happen one after the other. -/
def play : List Action → Host → Host
  | [], h => h
  | a :: rest, h => play rest (h.act a)

theorem play_append (script later : List Action) (h : Host) :
    h.play (script ++ later) = (h.play script).play later := by
  induction script generalizing h with
  | nil => rfl
  | cons a rest ih => exact ih (h.act a)

/-- The number of tasks that have not ended, none if there are no tasks. -/
def liveTasks (h : Host) : Nat :=
  h.liveTasks?.getD 0

theorem liveTasks_of_held (htasks : h.tasks = .held g) : h.liveTasks = g.liveTasks := by
  simp [liveTasks, liveTasks?, htasks]

/-- What holds of a host between any two things that happen. -/
structure Sound (h : Host) : Prop where
  /-- No message is left behind. -/
  outbox_eq : h.explorer.outbox = []
  /-- No wake-up is lost. -/
  wakeUpKept : ∀ g, h.tasks = .held g → g.WakeUpKept

/-! ### One thing happens -/

/-- A finished explorer does nothing when it is called. -/
theorem call_of_finished (houtbox : h.explorer.outbox = [])
    (hphase : h.explorer.phase = .finished) (c : Call) : (h.call c).2 = h := by
  have hperform : h.explorer.perform h.bans h.clock.now c = h.explorer.finish false := by
    cases c <;>
      simp [Explorer.perform, Explorer.start, Explorer.dispose, Explorer.whenRunning, hphase]
  have hexplorer : { h.explorer with outbox := [] } = h.explorer := by rw [← houtbox]
  simp [call, hperform, Explorer.finish, houtbox, hexplorer]

theorem made_of_finished (houtbox : h.explorer.outbox = [])
    (hphase : h.explorer.phase = .finished) (call? : Option Call) : h.made call? = h := by
  cases call? with
  | none => rfl
  | some c => exact call_of_finished houtbox hphase c

theorem outbox_made (houtbox : h.explorer.outbox = []) (call? : Option Call) :
    (h.made call?).explorer.outbox = [] := by
  cases call? with
  | none => exact houtbox
  | some c => exact Explorer.outbox_perform _ _ _ _

/-- What an action comes to. -/
inductive Step (h : Host) : Host → Prop where
  /-- Nothing. -/
  | nothing : Step h h
  /-- A task that has something to do makes one of its moves. -/
  | moves {g g' : TaskGroup} {call? : Option Call} (htasks : h.tasks = .held g)
      (hmoves : h.Moves g call? g') : Step h { h.made call? with tasks := .held g' }
  /-- A call from outside. -/
  | calls (c : Call) : Step h (h.call c).2
  /-- Another queue of messages. -/
  | queues {g : TaskGroup} (htasks : h.tasks = .held g) (queue : List Datagram) :
      Step h { h with tasks := .held { g with queue := queue } }
  /-- A millisecond. -/
  | elapses {g : TaskGroup} (htasks : h.tasks = .held g) :
      Step h { h with tasks := .held { g with elapsed := g.elapsed + 1 } }
  /-- Another time on the clock. -/
  | winds (clock : ManualClock) : Step h { h with clock := clock }
  /-- Other bans. -/
  | judges (bans : Bans) : Step h { h with bans := bans }
  /-- The end of the tasks. -/
  | aborts : Step h { h with tasks := .aborted }
  /-- The end of the explorer and of the tasks. -/
  | ends : Step h { (h.call .dispose).2 with tasks := .aborted }

theorem step_runTask (task : TaskName) (wakeFirst : Bool) (ties : List MessageId) (h : Host) :
    h.Step (h.runTask task wakeFirst ties) := by
  cases htasks : h.tasks with
  | absent =>
    simp only [runTask, htasks]
    exact .nothing
  | aborted =>
    simp only [runTask, htasks]
    exact .nothing
  | held g =>
    by_cases hready : g.isReady task = true
    · obtain ⟨call?, g', hmoves, heq⟩ := runTask_eq wakeFirst ties htasks hready
      rw [heq]
      exact .moves htasks hmoves
    · rw [runTask_of_not_ready wakeFirst ties htasks hready]
      exact .nothing

theorem step_act (a : Action) (h : Host) : h.Step (h.act a) := by
  cases a with
  | turn task wakeFirst ties => exact step_runTask task wakeFirst ties h
  | call c => exact .calls c
  | post events =>
    show h.Step (h.post events).2
    unfold post
    split
    case h_1 g htasks =>
      obtain ⟨queue, hqueue⟩ := TaskGroup.postAll_eq events g
      dsimp only
      rw [hqueue]
      exact .queues htasks queue
    case h_2 => exact .nothing
    case h_3 => exact .nothing
  | elapse =>
    show h.Step h.tickTasks
    unfold tickTasks
    split
    case h_1 g htasks => exact .elapses htasks
    case h_2 => exact .nothing
  | wind millis => exact .winds _
  | judge bans => exact .judges bans
  | shutdown =>
    show h.Step h.shutdown
    unfold shutdown
    split
    case h_1 g htasks =>
      have hcall : (h.call .dispose).2.tasks = .held g := htasks
      simp only [abort, hcall]
      exact .ends
    case h_2 => exact .nothing
  | abort =>
    show h.Step h.abort
    unfold abort
    split
    case h_1 => exact .aborts
    case h_2 => exact .nothing

/-- **No wake-up is lost**, whatever happens. -/
theorem Sound.step (hs : h.Sound) (hstep : h.Step h') : h'.Sound := by
  cases hstep with
  | nothing => exact hs
  | moves htasks hmoves =>
    refine ⟨outbox_made hs.outbox_eq _, fun g' heq => ?_⟩
    cases heq
    exact hmoves.wakeUpKept (hs.wakeUpKept _ htasks)
  | calls c => exact ⟨Explorer.outbox_perform _ _ _ _, hs.wakeUpKept⟩
  | @queues g htasks queue =>
    refine ⟨hs.outbox_eq, fun g' heq => ?_⟩
    cases heq
    exact hs.wakeUpKept g htasks
  | @elapses g htasks =>
    refine ⟨hs.outbox_eq, fun g' heq => ?_⟩
    cases heq
    exact hs.wakeUpKept g htasks
  | winds clock => exact ⟨hs.outbox_eq, hs.wakeUpKept⟩
  | judges bans => exact ⟨hs.outbox_eq, hs.wakeUpKept⟩
  | aborts => exact ⟨hs.outbox_eq, fun _ htasks => nomatch htasks⟩
  | ends => exact ⟨Explorer.outbox_perform _ _ _ _, fun _ htasks => nomatch htasks⟩

/-- **Tasks do not come back**, whatever happens. -/
theorem Step.liveTasks_le (hstep : h.Step h') : h'.liveTasks ≤ h.liveTasks := by
  cases hstep with
  | nothing => exact Nat.le_refl _
  | moves htasks hmoves =>
    rw [liveTasks_of_held rfl, liveTasks_of_held htasks]
    exact hmoves.liveTasks_le
  | calls c => exact Nat.le_refl _
  | queues htasks queue =>
    rw [liveTasks_of_held rfl, liveTasks_of_held htasks]
    exact Nat.le_refl _
  | elapses htasks =>
    rw [liveTasks_of_held rfl, liveTasks_of_held htasks]
    exact Nat.le_refl _
  | winds clock => exact Nat.le_refl _
  | judges bans => exact Nat.le_refl _
  | aborts => exact Nat.zero_le _
  | ends => exact Nat.zero_le _

/-- The explorer and the messages that it has sent are the same. -/
def SameExplorer (h h' : Host) : Prop :=
  h'.explorer = h.explorer ∧ h'.sent = h.sent

/-- **A finished explorer stays as it is and sends nothing**, whatever happens. -/
theorem Sound.step_of_finished (hs : h.Sound) (hphase : h.explorer.phase = .finished)
    (hstep : h.Step h') : h.SameExplorer h' := by
  have hcall := call_of_finished hs.outbox_eq hphase
  cases hstep with
  | nothing => exact ⟨rfl, rfl⟩
  | moves _ hmoves =>
    rw [made_of_finished hs.outbox_eq hphase]
    exact ⟨rfl, rfl⟩
  | calls c =>
    rw [hcall c]
    exact ⟨rfl, rfl⟩
  | queues => exact ⟨rfl, rfl⟩
  | elapses => exact ⟨rfl, rfl⟩
  | winds => exact ⟨rfl, rfl⟩
  | judges => exact ⟨rfl, rfl⟩
  | aborts => exact ⟨rfl, rfl⟩
  | ends =>
    rw [hcall .dispose]
    exact ⟨rfl, rfl⟩

/-! ### One thing after the other -/

/-- The tasks have only just been started, all of them or none. -/
theorem Sound.spawn (capacity : Nat) (h : Host) : (h.spawn capacity).2.Sound := by
  refine ⟨Explorer.outbox_perform _ _ _ _, fun g htasks => ?_⟩
  cases htasks
  rintro (hended | hended) hlistening <;> exact absurd hlistening (Bool.eq_false_iff.mp hended)

theorem Sound.play (hs : h.Sound) (script : List Action) : (h.play script).Sound := by
  induction script generalizing h with
  | nil => exact hs
  | cons a rest ih => exact ih (hs.step (step_act a h))

theorem Sound.play_of_finished (hs : h.Sound) (hphase : h.explorer.phase = .finished)
    (script : List Action) : h.SameExplorer (h.play script) := by
  induction script generalizing h with
  | nil => exact ⟨rfl, rfl⟩
  | cons a rest ih =>
    have hs' := hs.step (step_act a h)
    obtain ⟨hexplorer, hsent⟩ := hs.step_of_finished hphase (step_act a h)
    obtain ⟨hexplorer', hsent'⟩ := ih hs' (by rw [hexplorer, hphase])
    exact ⟨hexplorer'.trans hexplorer, hsent'.trans hsent⟩

/-! ### Coming to rest -/

/-- Tasks take their turns in the order given, messages before the wake-up. -/
def turns (tasks : List TaskName) : List Action :=
  tasks.map (.turn · false [])

theorem takeTurns_eq_play (n : Nat) (h : Host) : ∃ tasks, h.takeTurns n = h.play (turns tasks) := by
  induction n generalizing h with
  | zero => exact ⟨[], rfl⟩
  | succ n ih =>
    unfold takeTurns
    split
    case h_1 task _ =>
      obtain ⟨tasks, heq⟩ := ih (h.runTask task false [])
      exact ⟨task :: tasks, heq⟩
    case h_2 => exact ⟨[], rfl⟩

theorem settle_eq_play (h : Host) : ∃ tasks, h.settle = h.play (turns tasks) := by
  unfold settle
  split
  · exact takeTurns_eq_play _ h
  · exact ⟨[], rfl⟩

/-- Tasks come to rest within as many turns as there is work left. -/
theorem idle_takeTurns {n : Nat} (htasks : h.tasks = .held g) (hwork : g.workload ≤ n) :
    ∃ g', (h.takeTurns n).tasks = .held g' ∧ g'.Idle := by
  induction n generalizing h g with
  | zero => exact ⟨g, htasks, TaskGroup.idle_of_workload_eq_zero (Nat.le_zero.mp hwork)⟩
  | succ n ih =>
    unfold takeTurns
    have hnext : h.nextReady? = g.nextReady? := by simp only [nextReady?, htasks]
    rw [hnext]
    split
    case h_1 task hready =>
      obtain ⟨call?, g', hmoves, heq⟩ :=
        runTask_eq false [] htasks (TaskGroup.isReady_of_nextReady? hready)
      have hlt := hmoves.workload_lt
      rw [heq]
      exact ih rfl (by omega)
    case h_2 hnone => exact ⟨g, htasks, TaskGroup.nextReady?_eq_none_iff.mp hnone⟩

/-- **Tasks come to rest before the time moves on.** -/
theorem idle_settle (htasks : h.tasks = .held g) :
    ∃ g', h.settle.tasks = .held g' ∧ g'.Idle := by
  simp only [settle, htasks]
  exact idle_takeTurns htasks g.workload_le_backlog

theorem advanceOne_eq_play (h : Host) : ∃ script, h.advanceOne = h.play script := by
  obtain ⟨tasks, hsettle⟩ := settle_eq_play (h.play [.wind 1, .elapse])
  exact ⟨[.wind 1, .elapse] ++ turns tasks, by rw [play_append, ← hsettle]; rfl⟩

/-- Time that moves on is a script of ticks of the clocks and turns of the tasks. -/
theorem advance_eq_play (n : Nat) (h : Host) : ∃ script, h.advance n = h.play script := by
  induction n generalizing h with
  | zero => exact ⟨[], rfl⟩
  | succ n ih =>
    obtain ⟨first, hfirst⟩ := advanceOne_eq_play h
    obtain ⟨rest, hrest⟩ := ih h.advanceOne
    exact ⟨first ++ rest, by rw [advance, hrest, hfirst, play_append]⟩

/-! ### After the end -/

/-- The explorer has finished, and these are the tasks. -/
structure Over (h : Host) (g : TaskGroup) : Prop where
  /-- Nothing got lost before. -/
  sound : h.Sound
  /-- The explorer has finished. -/
  phase_eq : h.explorer.phase = .finished
  /-- These are the tasks. -/
  tasks_eq : h.tasks = .held g

theorem Over.play (ho : h.Over g) (script : List Action)
    (htasks : (h.play script).tasks = .held g') : (h.play script).Over g' where
  sound := ho.sound.play script
  phase_eq := by rw [(ho.sound.play_of_finished ho.phase_eq script).1, ho.phase_eq]
  tasks_eq := htasks

/-- After the end no turn moves a tick. -/
theorem Over.runTask (ho : h.Over g) (task : TaskName) (wakeFirst : Bool)
    (ties : List MessageId) :
    ∃ g', (h.runTask task wakeFirst ties).tasks = .held g' ∧ g.Passed 0 g' := by
  by_cases hready : g.isReady task = true
  · obtain ⟨call?, g', hmoves, heq⟩ := runTask_eq wakeFirst ties ho.tasks_eq hready
    exact ⟨g', by rw [heq], hmoves.passed_of_finished ho.phase_eq⟩
  · rw [runTask_of_not_ready wakeFirst ties ho.tasks_eq hready]
    exact ⟨g, ho.tasks_eq, .refl g⟩

theorem Over.play_turns (ho : h.Over g) (tasks : List TaskName) :
    ∃ g', (h.play (turns tasks)).Over g' ∧ g.Passed 0 g' := by
  induction tasks generalizing h g with
  | nil => exact ⟨g, ho, .refl g⟩
  | cons task rest ih =>
    obtain ⟨g₁, htasks, hpassed⟩ := ho.runTask task false []
    obtain ⟨g', ho', hpassed'⟩ := ih (ho.play [.turn task false []] htasks)
    exact ⟨g', ho', hpassed.trans hpassed'⟩

/-- A millisecond after the end leaves the tasks at rest and moves no tick. -/
theorem Over.advanceOne (ho : h.Over g) :
    ∃ g', h.advanceOne.Over g' ∧ g'.Idle ∧ g.Passed 1 g' := by
  have htasks : (h.play [.wind 1, .elapse]).tasks = .held { g with elapsed := g.elapsed + 1 } := by
    simp [Host.play, act, tickTasks, ho.tasks_eq]
  have hsettle : h.advanceOne = (h.play [.wind 1, .elapse]).settle := rfl
  obtain ⟨tasks, heq⟩ := settle_eq_play (h.play [.wind 1, .elapse])
  obtain ⟨g', ho', hpassed⟩ := (ho.play _ htasks).play_turns tasks
  rw [← heq, ← hsettle] at ho'
  obtain ⟨g'', htasks'', hidle⟩ := idle_settle htasks
  obtain rfl : g' = g'' := Tasks.held.inj (ho'.tasks_eq.symm.trans htasks'')
  have htick : g.Passed 1 { g with elapsed := g.elapsed + 1 } := ⟨rfl, rfl, rfl⟩
  exact ⟨g', ho', hidle, htick.trans hpassed⟩

theorem Over.advance (ho : h.Over g) (n : Nat) :
    ∃ g', (h.advance (n + 1)).Over g' ∧ g'.Idle ∧ g.Passed (n + 1) g' := by
  induction n generalizing h g with
  | zero => exact ho.advanceOne
  | succ n ih =>
    obtain ⟨g₁, ho₁, -, hpassed⟩ := ho.advanceOne
    obtain ⟨g', ho', hidle, hpassed'⟩ := ih ho₁
    refine ⟨g', ho', hidle, ?_⟩
    rw [Nat.add_comm (n + 1) 1]
    exact hpassed.trans hpassed'

/-- **After the end, the time of the next ticks ends every task**: those with ticks see the end
there, and wake the one that handles messages. -/
theorem Over.liveTasks_advance (ho : h.Over g) {n : Nat}
    (hcleaner : g.cleaner.nextTick ≤ g.elapsed + (n + 1))
    (hupdater : g.updater.nextTick ≤ g.elapsed + (n + 1)) :
    (h.advance (n + 1)).liveTasks = 0 := by
  obtain ⟨g', ho', hidle, hpassed⟩ := ho.advance n
  rw [liveTasks_of_held ho'.tasks_eq]
  apply hidle.liveTasks_eq_zero (ho'.sound.wakeUpKept g' ho'.tasks_eq)
  · rw [hpassed.cleaner_eq, hpassed.elapsed_eq]
    exact hcleaner
  · rw [hpassed.updater_eq, hpassed.elapsed_eq]
    exact hupdater

/-- The task that cleans is the first to see the end, and takes the one that handles messages with
it. -/
example :
    let config := { Sample.config 1 1 with cleanPeriod := 1, refreshPeriod := 2 }
    let e := Explorer.create config (fun _ => none) (Sample.source 0)
    let h := ((ofExplorer e ⟨0⟩ .none).spawn 4).2.play [.call .dispose]
    h.liveTasks = 3 ∧ (h.advance 1).liveTasks = 1 ∧ (h.advance 2).liveTasks = 0 := by
  decide

/-- **No task is stranded, and nothing is done after the end.**  Tasks are started for an explorer
in any state, and anything happens after that, in any order.  At rest, if a task with ticks has
ended then nobody listens any more; nothing that happens brings a task back; and once the explorer
has finished it stays as it is and sends nothing, whatever happens later.  Turns do lead to rest,
and time moves on by nothing but the clocks and such turns. -/
theorem no_task_stranded (config : Config) (system : SystemLookup) (random : RandomSource)
    (occasions : List Occasion) (clock : ManualClock) (bans : Bans) (capacity : Nat)
    (script : List Action) :
    let e := (Explorer.run occasions (.create config system random)).1
    let h := ((ofExplorer e clock bans).spawn capacity).2.play script
    (∀ g, h.tasks = .held g → g.Idle → g.HasEnded → g.listening = false) ∧
      (∀ a, (h.act a).liveTasks ≤ h.liveTasks) ∧
      (h.explorer.phase = .finished → ∀ later, h.SameExplorer (h.play later)) ∧
      (∃ tasks, h.settle = h.play (turns tasks) ∧ ∀ g, h.settle.tasks = .held g → g.Idle) ∧
      ∀ n, ∃ later, h.advance n = h.play later := by
  intro e h
  have hs : h.Sound := (Sound.spawn capacity (ofExplorer e clock bans)).play script
  refine ⟨?_, fun a => (step_act a h).liveTasks_le, hs.play_of_finished, ?_,
    fun n => advance_eq_play n h⟩
  · intro g htasks hidle hended
    exact hidle.listening_eq_false (hs.wakeUpKept g htasks) hended
  · obtain ⟨tasks, hsettle⟩ := settle_eq_play h
    refine ⟨tasks, hsettle, fun g hg => ?_⟩
    cases htasks : h.tasks with
    | held g₀ =>
      obtain ⟨g', hg', hidle⟩ := idle_settle htasks
      rw [hg] at hg'
      cases hg'
      exact hidle
    | absent => simp [settle, htasks] at hg
    | aborted => simp [settle, htasks] at hg

/-- The explorer ends, the task that cleans sees it at its tick, and the one that handles messages
follows the wake-up.  Only the task that updates is left, and its tick changes nothing. -/
theorem listener_ends_with_cleaner :
    let config := { Sample.config 1 1 with cleanPeriod := 1, refreshPeriod := 2 }
    let h := ((ofExplorer (.create config (fun _ => none) (Sample.source 0)) ⟨0⟩ .none).spawn
      4).2.play [.call .dispose, .wind 1, .elapse, .turn .cleaner false [],
        .turn .listener false []]
    let g := { TaskGroup.spawn 1 2 4 true with
      elapsed := 1, cleaner := (Timer.ofPeriod 1 true).stop, listening := false }
    h.tasks = .held g ∧ g.Idle ∧ g.HasEnded ∧ g.listening = false ∧
      h.explorer.phase = .finished ∧
      h.SameExplorer (h.play [.elapse, .turn .updater false []]) := by
  intro config h g
  obtain ⟨hlistening, -, hfinished, -⟩ :=
    no_task_stranded config (fun _ => none) (Sample.source 0) [] ⟨0⟩ .none 4
      [.call .dispose, .wind 1, .elapse, .turn .cleaner false [], .turn .listener false []]
  have htasks : h.tasks = .held g := rfl
  have hidle : g.Idle := TaskGroup.nextReady?_eq_none_iff.mp rfl
  have hended : g.HasEnded := .inl rfl
  have hphase : h.explorer.phase = .finished := rfl
  exact ⟨htasks, hidle, hended, hlistening g htasks hidle hended, hphase, hfinished hphase _⟩

end Host
end NodeDiscovery
