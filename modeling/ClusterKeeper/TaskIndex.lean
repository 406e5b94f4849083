import ClusterKeeper.Failure
import ClusterKeeper.Ordered.Map
import ClusterKeeper.Ordered.Set

/-!
# `TaskIndex.lean` — which tasks run on which node

A well-known map from nodes to sets of tasks, shared by the whole cluster. Handlers read entries
and add to them; they never remove anything.
-/

set_option autoImplicit false

namespace ClusterKeeper

structure TaskIndex where
  name : String
  entries : OrderedMap NodeId (OrderedSet TaskId)
  offline : Bool
  deriving DecidableEq, Inhabited

namespace TaskIndex

def named (name : String) : TaskIndex := ⟨name, ∅, false⟩

/-- The tasks of a node; a node without an entry has none. -/
def tasks (i : TaskIndex) (node : NodeId) : OrderedSet TaskId := (i.entries.get? node).getD ∅

def assign (i : TaskIndex) (node : NodeId) (tasks : List TaskId) : TaskIndex :=
  { i with entries := i.entries.put node (.ofList tasks) }

/-- Drops the entry of a node, and says what it held. -/
def removeNode (i : TaskIndex) (node : NodeId) : TaskIndex × OrderedSet TaskId :=
  ({ i with entries := i.entries.erase node }, i.tasks node)

/-- The failure of any access during an outage. -/
def outage (i : TaskIndex) : IndexError := .unavailable i.name "index offline"

def askTasks (i : TaskIndex) (node : NodeId) : Except IndexError (OrderedSet TaskId) :=
  if i.offline then .error i.outage else .ok (i.tasks node)

def addTask (i : TaskIndex) (node : NodeId) (task : TaskId) :
    TaskIndex × Except IndexError Unit :=
  if i.offline then (i, .error i.outage)
  else ({ i with entries := i.entries.put node ((i.tasks node).insert task) }, .ok ())

/-- The entries that are not empty, by node. -/
def occupied (i : TaskIndex) : List (NodeId × OrderedSet TaskId) :=
  i.entries.toList.filter fun e => !e.2.isEmpty

end TaskIndex

end ClusterKeeper
