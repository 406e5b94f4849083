import ClusterKeeper.Member
import ClusterKeeper.Status
import ClusterKeeper.Duration.Readable

/-!
# `Event.lean` — what handling an event has brought about

Every handler answers with the cluster events it produced: hosts recorded or dropped, tasks
resumed or not, statuses changed, drains ended. An event has a name, by topic, and a message for
people.
-/

set_option autoImplicit false

namespace ClusterKeeper

inductive ClusterEvent
  /-- Hosts newly recorded. -/
  | hostsAdded (hosts : List Host)
  /-- A host dropped from the record. -/
  | hostRemoved (host : Host)
  /-- A task of a departed node was resumed here. -/
  | taskResumed (task : TaskId) (node : NodeId)
  /-- A task of a departed node could not be resumed. -/
  | taskFailed (task : TaskId) (reason : String)
  /-- The local status changed. -/
  | statusChanged (old new : Status)
  /-- The wait for running tasks ended: sleeps made, tasks still running, time taken. -/
  | drainFinished (polls running : Nat) (waited : Duration) (timedOut : Bool)
  deriving DecidableEq, Repr

namespace ClusterEvent

def name : ClusterEvent → String
  | hostsAdded _ => "config:members:added"
  | hostRemoved _ => "config:member:removed"
  | taskResumed _ _ => "task:retriggered"
  | taskFailed _ _ => "task:retrigger:failed"
  | statusChanged _ _ => "node:status:changed"
  | drainFinished _ _ _ _ => "node:drain:finished"

def message : ClusterEvent → String
  | hostsAdded hosts => "cluster hosts added: " ++ ", ".intercalate (hosts.map (·.text))
  | hostRemoved host => "cluster host removed: " ++ host.text
  | taskResumed task node => "task " ++ task.text ++ " re-triggered on " ++ node.text
  | taskFailed task reason => "failed to re-trigger task " ++ task.text ++ ": " ++ reason
  | statusChanged old new => "node status " ++ old.text ++ " -> " ++ new.text
  | drainFinished _ running waited timedOut =>
    (if timedOut then "drain timed out after " else "drained after ") ++ waited.render
      ++ " with " ++ toString running ++ " running"

end ClusterEvent

end ClusterKeeper
