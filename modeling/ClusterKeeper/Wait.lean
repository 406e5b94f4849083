import ClusterKeeper.Clock

/-!
# `Wait.lean` — polling within a bound

A `BoundedWait` looks at something, sleeps a fixed interval, looks again, until what it sees
satisfies it, it is cancelled, or its budget of polls or time is used up. It always looks once
before it sleeps, so a wait that is satisfied from the start never sleeps. What ends a wait is
checked in that order: satisfaction, cancellation, exhaustion.

`BoundedWait.await` is written over any monad that can look, sleep, tell the time and tell whether
the wait was cancelled, because a wait runs in different surroundings: alone on a clock
(`WaitScript`), or as the drain of a node among other activities.
-/

set_option autoImplicit false

namespace ClusterKeeper

structure WaitOutcome where
  polls : Nat
  /-- What was seen last was satisfying. -/
  satisfied : Bool
  /-- The wait was cancelled before it was satisfied. -/
  cancelled : Bool
  deriving DecidableEq, Repr, Inhabited

def WaitOutcome.timedOut (o : WaitOutcome) : Bool := !o.satisfied && !o.cancelled

/-- A wait that polls at a fixed interval, at most `maxPolls` times. -/
structure BoundedWait where
  interval : Duration
  maxPolls : Nat
  deriving DecidableEq, Repr, Inhabited

namespace BoundedWait

/-- The total time a wait may take; the longest duration if the product leaves the range. -/
def budget (w : BoundedWait) : Duration := (w.interval.times? w.maxPolls).getD .longest

/-- The moment at which a wait that starts now has used up its time. A moment outside the clock's
range is none: such a wait has only its budget of polls. -/
def deadline? (w : BoundedWait) (now : Instant) : Option Instant := now.after? w.budget

def isPast (deadline : Option Instant) (now : Instant) : Bool :=
  match deadline with
  | some d => d.nanos ≤ now.nanos
  | none => false

/-- What a wait can do in its surroundings. -/
structure Surroundings (m : Type → Type) (β : Type) where
  look : m β
  isCancelled : m Bool
  now : m Instant
  sleep : Duration → m Unit

/-- One look and what follows from it, with `remaining` polls of the budget left and `polls`
made. The outcome comes with what was seen last. -/
def poll {m : Type → Type} [Monad m] {β : Type} (w : BoundedWait) (s : Surroundings m β)
    (satisfies : β → Bool) (deadline : Option Instant) (remaining polls : Nat) :
    m (WaitOutcome × β) := do
  let seen ← s.look
  if satisfies seen then return (⟨polls, true, false⟩, seen)
  if ← s.isCancelled then return (⟨polls, false, true⟩, seen)
  let now ← s.now
  match remaining with
  | 0 => return (⟨polls, false, false⟩, seen)
  | remaining + 1 =>
    if isPast deadline now then return (⟨polls, false, false⟩, seen)
    s.sleep w.interval
    w.poll s satisfies deadline remaining (polls + 1)

/-- Waits until what is seen satisfies. -/
def await {m : Type → Type} [Monad m] {β : Type} (w : BoundedWait) (s : Surroundings m β)
    (satisfies : β → Bool) : m (WaitOutcome × β) := do
  let deadline := w.deadline? (← s.now)
  w.poll s satisfies deadline w.maxPolls 0

end BoundedWait

/-! ## A wait alone on a clock -/

/-- What happens at one look: the clock moves, the wait is cancelled, the condition holds. -/
structure Check where
  holds : Bool
  advance : Duration
  cancel : Bool
  deriving DecidableEq, Repr, Inhabited

/-- The state of a wait that runs alone: its clock, whether it is cancelled, the number of looks
made. -/
structure WaitState where
  clock : Clock
  cancelled : Bool
  checks : Nat
  deriving DecidableEq, Repr, Inhabited

/-- What every look will find: the listed checks, then always the last one. -/
structure WaitScript where
  checks : Array Check
  after : Check
  deriving DecidableEq, Repr, Inhabited

def WaitScript.check (s : WaitScript) (n : Nat) : Check := s.checks[n]?.getD s.after

/-- An activity on a wait's state that stops where the clock cannot move. -/
abbrev WaitRun := OptionT (StateM WaitState)

namespace WaitRun

/-- Moves the clock, then cancels, then reports. -/
def look (check : Nat → Check) : WaitRun Bool := do
  let s ← get
  let c := check s.checks
  match s.clock.advance? c.advance with
  | none =>
    set { s with checks := s.checks + 1 }
    failure
  | some clock =>
    set { s with clock := clock, cancelled := s.cancelled || c.cancel, checks := s.checks + 1 }
    return c.holds

def sleep (d : Duration) : WaitRun Unit := do
  let s ← get
  let (clock, moved) := s.clock.sleep d
  set { s with clock := clock }
  if moved then return () else failure

def surroundings (check : Nat → Check) : BoundedWait.Surroundings WaitRun Bool where
  look := look check
  isCancelled := do return (← get).cancelled
  now := do return (← get).clock.now
  sleep := sleep

end WaitRun

/-- Runs a wait alone. No outcome: the clock could not move as far as it was asked to. -/
def BoundedWait.runAlone (w : BoundedWait) (check : Nat → Check) (s : WaitState) :
    Option WaitOutcome × WaitState :=
  let (result, s') := (w.await (WaitRun.surroundings check) id).run s
  (result.map (·.1), s')

end ClusterKeeper
