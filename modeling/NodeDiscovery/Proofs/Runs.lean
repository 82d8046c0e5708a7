import NodeDiscovery.Explorer.Call

/-!
# Runs of an explorer

A run is a list of calls made on an explorer one after the other.  What holds in every state of
every run is proved by induction on the calls; what relates a state to the calls before it speaks
of the states and the messages by their number.

## Main definitions

* `Explorer.Reachable` — the states that runs of newly created explorers lead to.
* `Explorer.stateAt`, `Explorer.sentAt` — the state before a call of a run, and the messages that
  the call sends.
-/

namespace NodeDiscovery
namespace Explorer

/-- The states that calls lead to, in any order and at any time, from an explorer that has not
started. -/
inductive Reachable : Explorer → Prop where
  /-- The explorer that has not started. -/
  | create (config : Config) (system : SystemLookup) (random : RandomSource) :
      Reachable (create config system random)
  /-- One more call. -/
  | perform {e : Explorer} (bans : Bans) (now : Timestamp) (call : Call) :
      Reachable e → Reachable (e.perform bans now call).explorer

/-- The state of a run before its call number `i`, counted from zero. -/
def stateAt (occasions : List Occasion) (e : Explorer) (i : Nat) : Explorer :=
  (run (occasions.take i) e).1

/-- The messages sent by call number `i` of a run. -/
def sentAt (occasions : List Occasion) (e : Explorer) (i : Nat) : List Datagram :=
  ((run occasions e).2[i]?).getD []

variable {occasions : List Occasion} {e : Explorer}

theorem stateAt_cons_succ (o : Occasion) (i : Nat) :
    stateAt (o :: occasions) e (i + 1)
      = stateAt occasions (e.perform o.bans o.now o.call).explorer i := rfl

theorem sentAt_cons_succ (o : Occasion) (i : Nat) :
    sentAt (o :: occasions) e (i + 1)
      = sentAt occasions (e.perform o.bans o.now o.call).explorer i := rfl

/-- The next state is what the call makes of the state before it. -/
theorem stateAt_succ {i : Nat} {o : Occasion} (h : occasions[i]? = some o) :
    stateAt occasions e (i + 1)
      = ((stateAt occasions e i).perform o.bans o.now o.call).explorer := by
  induction occasions generalizing e i with
  | nil => simp at h
  | cons o' rest ih =>
    cases i with
    | zero =>
      obtain rfl : o' = o := by simpa using h
      rfl
    | succ i =>
      rw [stateAt_cons_succ, stateAt_cons_succ]
      exact ih (by simpa using h)

/-- The messages sent by a call are those that the state before it hands over. -/
theorem sentAt_eq {i : Nat} {o : Occasion} (h : occasions[i]? = some o) :
    sentAt occasions e i = ((stateAt occasions e i).perform o.bans o.now o.call).sent := by
  induction occasions generalizing e i with
  | nil => simp at h
  | cons o' rest ih =>
    cases i with
    | zero =>
      obtain rfl : o' = o := by simpa using h
      rfl
    | succ i =>
      rw [stateAt_cons_succ, sentAt_cons_succ]
      exact ih (by simpa using h)

/-- What every call of a run keeps holds in each of its states. -/
theorem stateAt_induction {P : Explorer → Prop} (hzero : P e)
    (hstep : ∀ i o, occasions[i]? = some o → P (stateAt occasions e i) →
      P ((stateAt occasions e i).perform o.bans o.now o.call).explorer) :
    ∀ i, i ≤ occasions.length → P (stateAt occasions e i) := by
  intro i
  induction i with
  | zero => intro _; exact hzero
  | succ i ih =>
    intro hi
    have ho : occasions[i]? = some occasions[i] := List.getElem?_eq_getElem hi
    rw [stateAt_succ ho]
    exact hstep i _ ho (ih (Nat.le_of_succ_le hi))

theorem Reachable.run {e : Explorer} (h : Reachable e) (occasions : List Occasion) :
    Reachable (Explorer.run occasions e).1 := by
  induction occasions generalizing e with
  | nil => exact h
  | cons o rest ih => exact ih (h.perform o.bans o.now o.call)

theorem Reachable.stateAt {e : Explorer} (h : Reachable e) (occasions : List Occasion) (i : Nat) :
    Reachable (Explorer.stateAt occasions e i) :=
  h.run _

theorem run_append (os : List Occasion) (os' : List Occasion) (e : Explorer) :
    (run (os ++ os') e).1 = (run os' (run os e).1).1 := by
  induction os generalizing e with
  | nil => rfl
  | cons o rest ih => exact ih _

/-- The reachable states are the last states of runs of newly created explorers. -/
theorem reachable_iff {e : Explorer} :
    Reachable e ↔ ∃ config system random occasions,
      e = (run occasions (create config system random)).1 := by
  constructor
  · intro h
    induction h with
    | create config system random => exact ⟨config, system, random, [], rfl⟩
    | perform bans now call _ ih =>
      obtain ⟨config, system, random, os, rfl⟩ := ih
      refine ⟨config, system, random, os ++ [⟨bans, now, call⟩], ?_⟩
      rw [run_append]
      rfl
  · rintro ⟨config, system, random, os, rfl⟩
    exact (Reachable.create config system random).run os

/-! ### What ends a call -/

@[simp] theorem explorer_finish (accepted : Bool) (e : Explorer) :
    (e.finish accepted).explorer = { e with outbox := [] } := rfl

@[simp] theorem sent_finish (accepted : Bool) (e : Explorer) :
    (e.finish accepted).sent = e.outbox := rfl

/-- Between two calls no message is left behind. -/
theorem outbox_perform (bans : Bans) (now : Timestamp) (call : Call) (e : Explorer) :
    (e.perform bans now call).explorer.outbox = [] := by
  cases call with
  | start contact =>
    show (e.start contact now).explorer.outbox = []
    unfold start
    split <;> rfl
  | dispose =>
    show e.dispose.explorer.outbox = []
    unfold dispose
    split <;> rfl
  | receive d =>
    show (e.whenRunning _).explorer.outbox = []
    unfold whenRunning
    split <;> rfl
  | clean =>
    show (e.whenRunning _).explorer.outbox = []
    unfold whenRunning
    split <;> rfl
  | update =>
    show (e.whenRunning _).explorer.outbox = []
    unfold whenRunning
    split <;> rfl

theorem Reachable.outbox_eq {e : Explorer} (h : Reachable e) : e.outbox = [] := by
  cases h with
  | create config system random => rfl
  | perform bans now call _ => exact outbox_perform bans now call _

end Explorer

/-! ### A small network

Identifiers, addresses, a source of random words and calls from which concrete runs are put
together. -/

namespace Sample

/-- The identifier that starts with a given byte, followed by zeros. -/
def nodeId (b : UInt8) : NodeId :=
  ⟨b :: List.replicate 31 0, rfl⟩

/-- A port at the address 10.0.0.d. -/
def address (d : UInt8) : SocketAddress :=
  .v4 ⟨10, 0, 0, d⟩ 30303

/-- The settings of a peer whose buckets have room for one node. -/
def config (id address : UInt8) : Config :=
  { Config.standard ⟨nodeId id, .ofAddress (Sample.address address)⟩ with bucketSize := 1 }

/-- Words for identifiers that name their owner and count up.  The first four identifiers carry a
mark that none of the later ones does. -/
def words (owner : UInt32) (n : Nat) : UInt32 :=
  if n % 16 = 14 then owner
  else if n % 16 = 15 then if n < 64 then 1 else 0
  else UInt32.ofNat (n / 16)

/-- Every word comes again, as the first one of an identifier. -/
theorem words_recur (owner w : UInt32) (place : Nat) : ∃ k, words owner (place + k) = w := by
  obtain ⟨k, hk⟩ := RandomSource.exists_word w (place + 1)
  have hfirst : words owner (16 * (place + 1 + k)) = w := by
    have hplace : 16 * (place + 1 + k) % 16 = 0 ∧ 16 * (place + 1 + k) / 16 = place + 1 + k := by
      omega
    simp [words, hplace, hk]
  exact ⟨16 * (place + 1 + k) - place, by rwa [Nat.add_sub_cancel' (by omega)]⟩

/-- The source of these words. -/
def source (owner : UInt32) : RandomSource :=
  .ofWords (words owner) (words_recur owner)

/-- A source that gives the same identifier many times before its words count up. -/
def monotonous : RandomSource :=
  .continuing 4096 (fun _ => 0) UInt64.ofNat 1 Nat.one_pos

/-- The identifier that an owner draws after a number of others. -/
def messageId (owner : UInt32) (n : Nat) : MessageId :=
  (MessageId.draw ((source owner).skip (16 * n))).1

/-- An explorer that has not started. -/
def explorer (id address : UInt8) : Explorer :=
  .create (config id address) (fun _ => none) (source 0)

/-- The start of an explorer. -/
def starts : Occasion :=
  ⟨.none, .ofMillis 0, .start true⟩

/-- A message is heard from an address. -/
def hears (id sender : UInt8) (message : MessageId) (body : Message.Body) : Occasion :=
  ⟨.none, .ofMillis 0, .receive ⟨⟨message, nodeId id, some 0, body⟩, address sender⟩⟩

/-- A PING is heard from an address. -/
def pinged (id sender : UInt8) : Occasion :=
  hears id sender .nil (.ping ⟨"", 0⟩)

/-- A PONG is heard from an address. -/
def ponged (id sender : UInt8) (message : MessageId) : Occasion :=
  hears id sender message .pong

/-- A round of asking and checking. -/
def updates : Occasion :=
  ⟨.none, .ofMillis 0, .update⟩

/-- A round of expiring after some milliseconds. -/
def cleans (millis : Nat) : Occasion :=
  ⟨.none, .ofMillis millis, .clean []⟩

end Sample
end NodeDiscovery
