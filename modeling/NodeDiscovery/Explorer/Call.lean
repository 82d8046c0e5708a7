import NodeDiscovery.Explorer.Conversation
import NodeDiscovery.Explorer.Rounds

/-!
# Calls

What the outside can ask of an explorer.  A call changes the state and hands over the messages
that are to be sent; between two calls no message is left behind.

## Main definitions

* `Call` — what can be asked.
* `Turn` — what comes of it.
* `Explorer.perform` — one call.
* `Explorer.run` — calls one after the other.
-/

namespace NodeDiscovery

/-- What can be asked of an explorer. -/
inductive Call where
  /-- Start, with PINGs to the endpoints to contact first or without. -/
  | start (contact : Bool)
  /-- End.  Requests that wait for an answer are abandoned. -/
  | dispose
  /-- Handle a message that has come from an address. -/
  | receive (d : Datagram)
  /-- Expire the requests that wait for too long; `ties` orders those sent at the same time. -/
  | clean (ties : List MessageId)
  /-- Ask for more nodes and check for those that are known. -/
  | update
  deriving DecidableEq

/-- What comes of a call. -/
structure Turn where
  /-- The explorer afterwards. -/
  explorer : Explorer
  /-- The messages to be sent, in order. -/
  sent : List Datagram
  /-- Whether the phase of the explorer allowed the call. -/
  accepted : Bool

namespace Explorer

/-- Ends a call: hands over the queued messages. -/
def finish (accepted : Bool) (e : Explorer) : Turn :=
  ⟨{ e with outbox := [] }, e.outbox, accepted⟩

/-- Starts an explorer that has not started. -/
def start (contact : Bool) (now : Timestamp) (e : Explorer) : Turn :=
  if e.phase = .created then
    let e := { e with phase := .running }
    (if contact then e.contactQueued now else e).finish true
  else e.finish false

/-- Ends an explorer that has not ended. -/
def dispose (e : Explorer) : Turn :=
  if e.phase = .finished then e.finish false else { e with phase := .finished }.finish true

/-- Does something that only a running explorer does. -/
def whenRunning (f : Explorer → Explorer) (e : Explorer) : Turn :=
  if e.phase = .running then (f e).finish true else e.finish false

/-- Performs a call. -/
def perform (bans : Bans) (now : Timestamp) (call : Call) (e : Explorer) : Turn :=
  match call with
  | .start contact => e.start contact now
  | .dispose => e.dispose
  | .receive d => e.whenRunning (·.receive bans now d)
  | .clean ties => e.whenRunning (·.purge now ties)
  | .update => e.whenRunning (·.explore now)

end Explorer

/-- A call with the moment at which it is made and the bans in force then. -/
structure Occasion where
  /-- The bans in force. -/
  bans : Bans
  /-- The moment. -/
  now : Timestamp
  /-- The call. -/
  call : Call

namespace Explorer

/-- Performs calls one after the other; gives the messages sent by each. -/
def run : List Occasion → Explorer → Explorer × List (List Datagram)
  | [], e => (e, [])
  | o :: rest, e =>
    let turn := e.perform o.bans o.now o.call
    let later := run rest turn.explorer
    (later.1, turn.sent :: later.2)

end Explorer
end NodeDiscovery
