import ClusterKeeper.Event
import ClusterKeeper.Handler.Resumption

/-!
# `Handler/Departure.lean` — a member has left

Two things are done about a departure, the second whether or not the first succeeds:

* `resumeTasks` takes over those tasks of the departed node whose partition this node owns and
  that are not recorded here. Deciding and starting happen under the lock `leaveBatch`, so two
  departures handled at once on one node cannot both start a task. A task that cannot be decided
  on or started is reported and does not stop the others.
* `forgetHost` drops the departed member's host from the record, unless another member alive is on
  that host.
-/

set_option autoImplicit false

namespace ClusterKeeper

namespace Handler

/-! ## 1. Tasks -/

/-- Whether the node `here` owns the partition of a task now, or why that is not known. -/
def isOwnedHere (here : NodeId) (task : TaskId) : Handler (Except String Bool) := do
  match ← (Request.ownerOf task).ask with
  | .ok (some owner) =>
    if owner = here then return .ok true
    debug "partition owned by another node" [("task", task.text), ("owner", owner.text)]
    return .ok false
  | .ok none =>
    debug "partition has no owner yet" [("task", task.text)]
    return .ok false
  | .error e =>
    error "partition owner lookup failed" [("task", task.text), ("error", e.message)]
    return .error e.message

/-- Takes over a task that is owned here and not yet recorded here. -/
def resumeOwned (here : NodeId) (task : TaskId) : Handler ClusterEvent := do
  info "triggering task, partition owned here" [("task", task.text), ("node", here.text)]
  match ← resume here task with
  | .ok () => return .taskResumed task here
  | .error e =>
    error "failed to re-trigger task" [("task", task.text), ("error", e.message)]
    return .taskFailed task e.message

/-- Decides on one task of a departed node, given the tasks recorded here. -/
def resumeOne (here : NodeId) (known : OrderedSet TaskId) (task : TaskId) :
    Handler (Option ClusterEvent) := do
  match ← isOwnedHere here task with
  | .error reason => return some (.taskFailed task reason)
  | .ok false => return none
  | .ok true =>
    if known.contains task then
      debug "task already running on this node" [("task", task.text)]
      return none
    else return some (← resumeOwned here task)

def resumeEach (here : NodeId) (known : OrderedSet TaskId) :
    List TaskId → Handler (List ClusterEvent)
  | [] => return []
  | task :: tasks => do
    let event ← resumeOne here known task
    let events ← resumeEach here known tasks
    return event.toList ++ events

/-- Takes over the tasks of a departed node that belong here. -/
def resumeTasks (here : NodeId) (departed : Member) : Attempt (List ClusterEvent) := do
  let tasks ← orFail .index (Request.tasksOf departed.id).ask
  if tasks.isEmpty then
    debug "departed node had no tasks" [("member", departed.display)]
    return []
  info "tasks are candidates for re-trigger, node left the cluster"
    [("tasks", shownSet tasks), ("member", departed.display)]
  ExceptT.mk (holding .leaveBatch (ExceptT.run do
    let known ← orFail .index (Request.tasksOf here).ask
    resumeEach here known tasks.toList))

/-! ## 2. The host -/

/-- Drops the host of a departed member from the record if nobody alive is on it. -/
def forgetHost (departed : Member) : Attempt (List ClusterEvent) := do
  let members ← orFail .substrate Request.members.ask
  if (hostsOf (members.filter (·.id ≠ departed.id))).contains departed.host then
    debug "host still has live members" [("host", departed.host.text)]
    return []
  match ← orFail .store Request.loadRecord.ask with
  | none => return []
  | some stored =>
    let (record, known) := stored.forget departed.host
    if !known then return []
    orFail .store (Request.updateRecord record).ask
    info "cluster host removed" [("host", departed.host.text)]
    return [.hostRemoved departed.host]

/-! ## 3. Both -/

/-- Handles the departure of a member on the node `here`. The host is seen to even if the tasks
could not be; of two failures that of the tasks is reported. -/
def memberLeft (here : NodeId) (departed : Member) : Attempt (List ClusterEvent) :=
  ExceptT.mk do
    debug "member left the cluster" [("member", departed.display)]
    let resumed ← (resumeTasks here departed).run
    let forgotten ← (forgetHost departed).run
    return do
      let events ← resumed
      return events ++ (← forgotten)

end Handler

end ClusterKeeper
