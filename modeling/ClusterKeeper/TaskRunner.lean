import ClusterKeeper.Failure
import ClusterKeeper.History

/-!
# `TaskRunner.lean` — the part of a node that runs tasks

The runner starts tasks and tells how many are running. The counts it tells may be scripted: they
are answered one after another, and when they are used up the standing count is. Tasks can be made
to fail; every attempt is recorded, and the tasks that were started are listed in order.
-/

set_option autoImplicit false

namespace ClusterKeeper

inductive RunnerCall
  | count
  | start (task : TaskId)
  deriving DecidableEq, Repr

structure TaskRunner where
  running : Nat
  /-- Counts to be told before the standing one. -/
  scripted : List Nat
  failing : List TaskId
  started : History TaskId
  calls : History RunnerCall
  deriving DecidableEq, Repr, Inhabited

namespace TaskRunner

def idle : TaskRunner := ⟨0, [], [], ∅, ∅⟩

def script (r : TaskRunner) (counts : List Nat) : TaskRunner :=
  { r with scripted := r.scripted ++ counts }

def fail (r : TaskRunner) (task : TaskId) : TaskRunner := { r with failing := task :: r.failing }

def count (r : TaskRunner) : TaskRunner × Nat :=
  let r := { r with calls := r.calls.add .count }
  match r.scripted with
  | c :: rest => ({ r with scripted := rest }, c)
  | [] => (r, r.running)

def start (r : TaskRunner) (task : TaskId) : TaskRunner × Except StartError Unit :=
  let r := { r with calls := r.calls.add (.start task) }
  if task ∈ r.failing then (r, .error (.failed task "injected failure"))
  else ({ r with started := r.started.add task }, .ok ())

/-- How often the runner was asked for its count. -/
def countQueries (r : TaskRunner) : Nat := r.calls.toList.count .count

end TaskRunner

end ClusterKeeper
