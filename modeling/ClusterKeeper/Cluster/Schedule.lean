import ClusterKeeper.Cluster.Answer

/-!
# `Cluster/Schedule.lean` — several activities taking turns

Activities run on one thread. Each in turn runs until it suspends itself: after it has slept,
before a task is started, or where it has to wait for a lock. When all have had their turn the
next round begins, until all are finished.

`Cluster.turn` is one turn and recurses on the activity, so every turn ends. The number of rounds
depends on the answers; it is bounded by `roundLimit`.
-/

set_option autoImplicit false

namespace ClusterKeeper

inductive Activity (α : Type) : Type
  | finished (result : α)
  /-- What is left to do. If `admitted`, a task whose start comes next is started. -/
  | suspended (rest : Handler α) (admitted : Bool)

namespace Activity

def result? {α : Type} : Activity α → Option α
  | finished a => some a
  | suspended _ _ => none

end Activity

namespace Cluster

variable {α : Type}

def holds (c : Cluster) (a : Actor) (name : LockName) : Bool :=
  c.locks.holder? (a.lockKey name) = some a.activity

/-- Runs an activity until it suspends itself or is finished. -/
def turn (a : Actor) : Handler α → (admitted : Bool) → Cluster → Cluster × Option (Activity α)
  | .done x, _, c => (c, some (.finished x))
  | .ask (.acquire name) next, _, c =>
    let c := (c.answer a (.acquire name)).1
    if c.holds a name then turn a (next ()) false c
    else (c, some (.suspended (.ask (.acquire name) next) false))
  | .ask (.sleep d) next, _, c =>
    match c.answer a (.sleep d) with
    | (c, some ()) => (c, some (.suspended (next ()) false))
    | (c, none) => (c, none)
  | .ask (.startTask task) next, false, c =>
    (c, some (.suspended (.ask (.startTask task) next) true))
  | .ask r next, _, c =>
    match c.answer a r with
    | (c, some reply) => turn a (next reply) false c
    | (c, none) => (c, none)

/-- Gives every activity that is not finished a turn, in order. -/
def round : List (Actor × Activity α) → Cluster → Cluster × Option (List (Actor × Activity α))
  | [], c => (c, some [])
  | (a, .finished x) :: rest, c =>
    let (c, rest) := round rest c
    (c, rest.map ((a, .finished x) :: ·))
  | (a, .suspended p admitted) :: rest, c =>
    match turn a p admitted c with
    | (c, none) => (c, none)
    | (c, some activity) =>
      let (c, rest) := round rest c
      (c, rest.map ((a, activity) :: ·))

/-- The results of activities that are all finished. -/
def results? (pool : List (Actor × Activity α)) : Option (List α) :=
  pool.mapM fun (_, activity) => activity.result?

/-- Gives turns for at most so many rounds. -/
def rounds : (limit : Nat) → List (Actor × Activity α) → Cluster → Cluster × Option (List α)
  | 0, _, c => (c, none)
  | limit + 1, pool, c =>
    match results? pool with
    | some results => (c, some results)
    | none =>
      match round pool c with
      | (c, some pool) => rounds limit pool c
      | (c, none) => (c, none)

/-- More rounds than any activity sleeps or starts tasks. -/
def roundLimit : Nat := 4611686018427387904

/-- Runs activities side by side. No results: a clock could not move. -/
def runAll (activities : List (Actor × Handler α)) (c : Cluster) : Cluster × Option (List α) :=
  rounds roundLimit (activities.map fun (a, p) => (a, .suspended p false)) c

end Cluster

end ClusterKeeper
