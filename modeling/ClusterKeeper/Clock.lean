import ClusterKeeper.Duration
import ClusterKeeper.History

/-!
# `Clock.lean` — a clock that moves only when told

Time is measured in whole nanoseconds from an origin, within the signed 64-bit range of seconds. A
clock starts some time after the origin (`Instant.start`), so it can never move through the whole
range. Sleeping never blocks: it records the request and moves the clock. A move that would leave
the range is impossible (`none`); a sleep that asks for one has still been recorded.
-/

set_option autoImplicit false

namespace ClusterKeeper

/-- A moment: nanoseconds since the origin of time, fewer than 2⁶³ seconds of them. -/
structure Instant where
  nanos : Nat
  nanos_lt : nanos < signedLimit * nanosPerSecond
  deriving DecidableEq, Repr

namespace Instant

/-- The moment at which clocks start, an hour after the origin. -/
def start : Instant := ⟨3600 * nanosPerSecond, by decide⟩

instance : Inhabited Instant := ⟨start⟩

theorem ext {a b : Instant} (h : a.nanos = b.nanos) : a = b := by
  cases a; cases b
  cases h
  rfl

def after? (t : Instant) (d : Duration) : Option Instant :=
  if h : t.nanos + d.nanos < signedLimit * nanosPerSecond then some ⟨t.nanos + d.nanos, h⟩ else none

/-- The time from `s` to `t`; none has passed if `s` is the later one. -/
def since (t s : Instant) : Duration :=
  ⟨t.nanos - s.nanos, Nat.lt_of_le_of_lt (Nat.sub_le _ _) (Nat.lt_trans t.nanos_lt (by decide))⟩

/-- The time from the clock's start. -/
def elapsed (t : Instant) : Duration := t.since start

theorem after?_eq_some_iff {t t' : Instant} {d : Duration} :
    t.after? d = some t' ↔ t.nanos + d.nanos = t'.nanos := by
  unfold after?
  split
  · constructor
    · rintro ⟨⟩
      rfl
    · intro h
      exact congrArg some (ext h)
  · next h =>
    constructor
    · intro h'
      cases h'
    · intro h'
      exact absurd (h' ▸ t'.nanos_lt) h

end Instant

/-- A clock and the sleeps asked of it. -/
structure Clock where
  now : Instant
  sleeps : History Duration
  deriving DecidableEq, Repr, Inhabited

namespace Clock

def fresh : Clock := ⟨.start, ∅⟩

def advance? (c : Clock) (d : Duration) : Option Clock :=
  (c.now.after? d).map fun t => { c with now := t }

/-- Records a sleep, then moves the clock. The second component is false if it could not move. -/
def sleep (c : Clock) (d : Duration) : Clock × Bool :=
  let asked : Clock := { c with sleeps := c.sleeps.add d }
  match asked.advance? d with
  | some moved => (moved, true)
  | none => (asked, false)

/-- The sum of all sleeps, if a duration can hold it. -/
def totalSlept? (c : Clock) : Option Duration := Duration.sum? c.sleeps.toList

end Clock

/-! ## Histories of use -/

inductive ClockAction
  | advance (span : Duration)
  | sleep (span : Duration)
  | read
  deriving DecidableEq, Repr

namespace Clock

/-- Uses the clock. The second component is false if the use could not be completed. -/
def act (c : Clock) : ClockAction → Clock × Bool
  | .advance d =>
    match c.advance? d with
    | some moved => (moved, true)
    | none => (c, false)
  | .sleep d => c.sleep d
  | .read => (c, true)

end Clock

end ClusterKeeper
