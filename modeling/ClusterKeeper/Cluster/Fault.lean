/-!
# `Cluster/Fault.lean` — failures on demand

A fault makes one kind of request fail with a given reason, for one key: the task, node or value
that the request is about, or the empty text where it is about nothing in particular. A request
that fails so never reaches the part it was meant for.
-/

set_option autoImplicit false

namespace ClusterKeeper

/-- A kind of request that can be made to fail. -/
inductive FaultSite
  | members
  | ownerOf
  | publish
  | tasksOf
  | addTask
  | loadRecord
  | addRecord
  | updateRecord
  /-- The runner does not know the task. -/
  | taskNotFound
  | startFailed
  deriving DecidableEq, Repr

abbrev Faults := List ((FaultSite × String) × String)

namespace Faults

def reason? (f : Faults) (site : FaultSite) (key : String) : Option String := f.lookup (site, key)

/-- Puts a fault in force, or without a reason lifts it. -/
def set (f : Faults) (site : FaultSite) (key : String) (reason : Option String) : Faults :=
  let others := f.filter fun e => e.1 ≠ (site, key)
  match reason with
  | some r => ((site, key), r) :: others
  | none => others

end Faults

end ClusterKeeper
