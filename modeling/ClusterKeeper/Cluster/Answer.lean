import ClusterKeeper.Cluster.State

/-!
# `Cluster/Answer.lean` — how a cluster answers requests

`Cluster.answer` answers one request of an activity on a node, and `Cluster.run` all requests of an
activity that has the cluster to itself. A fault is looked for before the part that a request is
for is asked.

A clock that cannot move as far as it is told has no answer; the activity ends there and then, and
what it has done stays done.
-/

set_option autoImplicit false

namespace ClusterKeeper

/-- Who makes a request: the node, which of its status machines, and the activity's number. -/
structure Actor where
  node : NodeId
  machine : Nat
  activity : Nat
  deriving DecidableEq, Repr, Inhabited

/-- The lock of that name as the actor sees it. -/
def Actor.lockKey (a : Actor) (name : LockName) : LockKey := ⟨a.node, a.machine, name⟩

namespace Cluster

/-! ## 1. The shared parts -/

/-- Makes `ask` fail if there is a fault for it. -/
def faulty {ε α : Type} (c : Cluster) (site : FaultSite) (key : String) (failure : String → ε)
    (ask : Cluster × Except ε α) : Cluster × Except ε α :=
  match c.faults.reason? site key with
  | some reason => (c, .error (failure reason))
  | none => ask

def onSubstrate {α : Type} (c : Cluster) (ask : Substrate → Substrate × α) : Cluster × α :=
  let (s, reply) := ask c.substrate
  ({ c with substrate := s }, reply)

def onStore {α : Type} (c : Cluster) (ask : RecordStore → RecordStore × α) : Cluster × α :=
  let (s, reply) := ask c.store
  ({ c with store := s }, reply)

def askMembers (c : Cluster) (asker : NodeId) : Cluster × Except SubstrateError (List Member) :=
  c.faulty .members "" .unavailable (c.onSubstrate (·.askMembers asker))

def askOwner (c : Cluster) (asker : NodeId) (task : TaskId) :
    Cluster × Except SubstrateError (Option NodeId) :=
  c.faulty .ownerOf task.text .unavailable (c.onSubstrate (·.askOwner asker task))

def publish (c : Cluster) (asker : NodeId) (key value : String) :
    Cluster × Except SubstrateError Unit :=
  c.faulty .publish value .publishFailed (c.onSubstrate (·.publish asker key value))

def askTasks (c : Cluster) (node : NodeId) : Cluster × Except IndexError (OrderedSet TaskId) :=
  c.faulty .tasksOf node.text (.unavailable c.index.name) (c, c.index.askTasks node)

def addTask (c : Cluster) (node : NodeId) (task : TaskId) : Cluster × Except IndexError Unit :=
  let (index, reply) := c.index.addTask node task
  c.faulty .addTask task.text (.unavailable c.index.name) ({ c with index := index }, reply)

def loadRecord (c : Cluster) : Cluster × Except StoreError (Option HostRecord) :=
  c.faulty .loadRecord "" .unavailable (c.onStore RecordStore.get)

def addRecord (c : Cluster) (r : HostRecord) : Cluster × Except StoreError Unit :=
  c.faulty .addRecord "" .unavailable (c.onStore (RecordStore.add r))

def updateRecord (c : Cluster) (r : HostRecord) : Cluster × Except StoreError Unit :=
  c.faulty .updateRecord "" .unavailable (c.onStore (RecordStore.update r))

/-! ## 2. The parts of a node -/

def askCount (c : Cluster) (id : NodeId) : Cluster × Option Nat :=
  let n := c.node id
  match n.clock.advance? n.countDelay with
  | none => (c, none)
  | some clock =>
    let (runner, count) := n.runner.count
    (c.setNode id { n with clock := clock, runner := runner }, some count)

def startTask (c : Cluster) (id : NodeId) (task : TaskId) : Cluster × Except StartError Unit :=
  let n := c.node id
  let (runner, reply) := n.runner.start task
  c.faulty .taskNotFound task.text (fun _ => .notFound task)
    (c.faulty .startFailed task.text (.failed task) (c.setNode id { n with runner := runner }, reply))

def sleep (c : Cluster) (id : NodeId) (d : Duration) : Cluster × Option Unit :=
  let n := c.node id
  let (clock, moved) := n.clock.sleep d
  (c.setNode id { n with clock := clock }, if moved then some () else none)

/-- Writes a node's status and tells the one before. -/
def writeStatus (c : Cluster) (id : NodeId) (s : Status) : Cluster × Status :=
  let n := c.node id
  (c.setNode id { n with status := n.status.set s }, n.status.status)

/-! ## 3. Any request -/

def replied {α : Type} : Cluster × α → Cluster × Option α
  | (c, reply) => (c, some reply)

/-- Answers a request, whether or not the lock that it may ask for is free. -/
def answer (c : Cluster) (a : Actor) : (r : Request) → Cluster × Option r.Reply
  | .members => replied (c.askMembers a.node)
  | .ownerOf task => replied (c.askOwner a.node task)
  | .publish key value => replied (c.publish a.node key value)
  | .tasksOf node => replied (c.askTasks node)
  | .addTask node task => replied (c.addTask node task)
  | .loadRecord => replied c.loadRecord
  | .addRecord r => replied (c.addRecord r)
  | .updateRecord r => replied (c.updateRecord r)
  | .runningCount => c.askCount a.node
  | .startTask task => replied (c.startTask a.node task)
  | .now => (c, some (c.node a.node).clock.now)
  | .sleep d => c.sleep a.node d
  | .readStatus => (c, some (c.node a.node).status.status)
  | .writeStatus s => replied (c.writeStatus a.node s)
  | .acquire name => ({ c with locks := c.locks.claim (a.lockKey name) a.activity }, some ())
  | .release name => ({ c with locks := c.locks.release (a.lockKey name) a.activity }, some ())
  | .isHeld name => (c, some (c.locks.isHeld (a.lockKey name)))
  | .log r => ({ c with log := c.log.add r }, some ())

/-- Runs an activity that has the cluster to itself. No result: a clock could not move. -/
def run {α : Type} (a : Actor) : Handler α → Cluster → Cluster × Option α
  | .done x, c => (c, some x)
  | .ask r next, c =>
    match c.answer a r with
    | (c, some reply) => run a (next reply) c
    | (c, none) => (c, none)

end Cluster

end ClusterKeeper
