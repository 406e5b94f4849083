import ClusterKeeper.Clock
import ClusterKeeper.Cluster.Fault
import ClusterKeeper.Cluster.Lock
import ClusterKeeper.Handler.Membership
import ClusterKeeper.History
import ClusterKeeper.StatusCell
import ClusterKeeper.Store
import ClusterKeeper.Substrate
import ClusterKeeper.TaskIndex
import ClusterKeeper.TaskRunner

/-!
# `Cluster/State.lean` — a cluster in the hand

A `Cluster` is everything that the nodes of a cluster share (substrate, index, store, settings)
together with what each of them has for itself (runner, clock, status). Faults can be put in
force, locks are held, and log records are collected.
-/

set_option autoImplicit false

namespace ClusterKeeper

structure Node where
  member : Member
  runner : TaskRunner
  clock : Clock
  status : StatusCell
  /-- How long the clock runs on before each look at the number of running tasks. -/
  countDelay : Duration
  deriving DecidableEq, Inhabited

namespace Node

def fresh (member : Member) (status : Status) : Node :=
  ⟨member, .idle, .fresh, .ofStatus status, .zero⟩

end Node

structure Cluster where
  settings : Settings
  substrate : Substrate
  index : TaskIndex
  store : RecordStore
  faults : Faults
  nodes : OrderedMap NodeId Node
  /-- Every node that has ever joined. -/
  known : OrderedSet NodeId
  locks : LockTable
  log : History LogRecord
  deriving Inhabited

namespace Cluster

def empty (settings : Settings) (index : String) (store : RecordStore) : Cluster where
  settings := settings
  substrate := .empty
  index := .named index
  store := store
  faults := []
  nodes := ∅
  known := ∅
  locks := []
  log := ∅

/-- A node; one that was never started has just started. -/
def node (c : Cluster) (id : NodeId) : Node :=
  (c.nodes.get? id).getD (.fresh ⟨id, default⟩ default)

def setNode (c : Cluster) (id : NodeId) (n : Node) : Cluster :=
  { c with nodes := c.nodes.put id n }

def modifyNode (c : Cluster) (id : NodeId) (f : Node → Node) : Cluster :=
  c.setNode id (f (c.node id))

/-- A member joins; it need not be a node of ours. -/
def join (c : Cluster) (m : Member) : Cluster :=
  { c with substrate := c.substrate.join m, known := c.known.insert m.id }

/-- A node joins and takes up its work. -/
def start (c : Cluster) (m : Member) (status : Status) : Cluster :=
  let c := (c.join m).setNode m.id (.fresh m status)
  { c with log := c.log.addAll (Handler.startRecords m c.settings c.index.name) }

/-- What is published under the status attribute, by every node that ever joined. -/
def published (c : Cluster) : List (NodeId × String) :=
  c.known.toList.filterMap fun id =>
    (c.substrate.attribute? id c.settings.statusAttribute).map (id, ·)

end Cluster

end ClusterKeeper
