/-!
# Time

Moments are milliseconds since the Unix epoch and never lie beyond the end of the year 9999:
a clock that runs past it is read as standing there.

## Main definitions

* `Timestamp`, `Timestamp.ofMillis` — a moment, clamped.
* `Timestamp.add`, `Timestamp.since` — later moments and elapsed time.
* `ManualClock` — a clock that moves only when told to.
-/

namespace NodeDiscovery

/-- The last millisecond count that a moment can have. -/
def lastMillis : Nat := 253402300799000

/-- A moment in milliseconds since the Unix epoch. -/
structure Timestamp where
  /-- Milliseconds since the Unix epoch. -/
  millis : Nat
  /-- Moments end with the year 9999. -/
  le_last : millis ≤ lastMillis
  deriving DecidableEq

namespace Timestamp

/-- The moment of a millisecond count, clamped at the last one. -/
def ofMillis (millis : Nat) : Timestamp :=
  ⟨min millis lastMillis, Nat.min_le_right _ _⟩

instance : LT Timestamp := ⟨fun a b => a.millis < b.millis⟩

instance : LE Timestamp := ⟨fun a b => a.millis ≤ b.millis⟩

instance (a b : Timestamp) : Decidable (a < b) :=
  inferInstanceAs (Decidable (a.millis < b.millis))

instance (a b : Timestamp) : Decidable (a ≤ b) :=
  inferInstanceAs (Decidable (a.millis ≤ b.millis))

/-- The moment some milliseconds later, clamped at the last one. -/
def add (t : Timestamp) (millis : Nat) : Timestamp :=
  ofMillis (t.millis + millis)

/-- The milliseconds passed since another moment, none if that is the later one. -/
def since (t start : Timestamp) : Nat :=
  t.millis - start.millis

/-- The reading of a system clock that is set forward by some seconds. -/
def ofSystem (sinceEpoch offsetSeconds : Nat) : Timestamp :=
  ofMillis (sinceEpoch + 1000 * offsetSeconds)

@[simp] theorem millis_ofMillis (n : Nat) : (ofMillis n).millis = min n lastMillis := rfl

@[simp] theorem millis_add (t : Timestamp) (n : Nat) :
    (t.add n).millis = min (t.millis + n) lastMillis := rfl

end Timestamp

/-- A clock that moves only when told to.  It counts in a 64-bit word, which may lie beyond the
last moment and wraps around at its end. -/
structure ManualClock where
  /-- The millisecond count, not clamped. -/
  count : UInt64
  deriving DecidableEq

namespace ManualClock

/-- The clock some milliseconds later. -/
def advance (c : ManualClock) (millis : UInt64) : ManualClock :=
  ⟨c.count + millis⟩

/-- What the clock shows. -/
def now (c : ManualClock) : Timestamp :=
  .ofMillis c.count.toNat

end ManualClock
end NodeDiscovery
