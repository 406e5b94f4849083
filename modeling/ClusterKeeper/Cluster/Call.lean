import ClusterKeeper.Cluster.Schedule

/-!
# `Cluster/Call.lean` — calling the handlers of nodes

A call is a handler with its arguments. A node has two status machines, that of its membership
events and one that is called directly; they share the status but not the lock `transition`.

A node's handlers run with tracing. When calls are over, however they ended, no lock is held.
-/

set_option autoImplicit false

namespace ClusterKeeper

inductive Call
  | event (e : MembershipEvent)
  | memberJoined (member : Member) (members : List Member)
  | memberLeft (member : Member)
  /-- A value of the status attribute, for the machine that is called directly. -/
  | status (value : String)
  /-- A drain of the machine that is called directly. -/
  | drain
  | resume (task : TaskId)
  | resumeBatch (tasks : List TaskId)
  | runningCount
  | startTask (task : TaskId)

inductive CallResult
  | handled (result : Except HandlerError (List ClusterEvent))
  | drained (event : ClusterEvent)
  | resumed (result : Except ResumeError Unit)
  | batch (report : Handler.BatchReport)
  | count (n : Nat)
  | started (result : Except StartError Unit)

namespace Call

def machine : Call → Nat
  | status _ | drain => 1
  | _ => 0

/-- What a call does on the node `here`. -/
def handler (here : NodeId) (settings : Settings) : Call → Handler CallResult
  | event e => .handled <$> Handler.membershipEvent .on here settings e
  | memberJoined m ms => .handled <$> Handler.traced (Handler.memberJoined m ms).run
  | memberLeft m => .handled <$> Handler.traced (Handler.memberLeft here m).run
  | status value => .handled <$> Handler.traced (Handler.statusPublished settings value).run
  | drain => .drained <$> Handler.traced (Handler.drain settings)
  | resume task => .resumed <$> Handler.traced (Handler.resume here task)
  | resumeBatch tasks => .batch <$> Handler.traced (Handler.resumeBatch here tasks)
  | runningCount => .count <$> Handler.traced Request.runningCount.ask
  | startTask task => .started <$> Handler.traced (Request.startTask task).ask

end Call

namespace Cluster

def unlocked (c : Cluster) : Cluster := { c with locks := [] }

/-- Calls a handler of a node. No result: a clock could not move. -/
def call (c : Cluster) (here : NodeId) (call : Call) : Cluster × Option CallResult :=
  let (c, result) := run ⟨here, call.machine, 0⟩ (call.handler here c.settings) c
  (c.unlocked, result)

def callAll (c : Cluster) (calls : List (NodeId × Call)) : Cluster × Option (List CallResult) :=
  let activities := calls.zipIdx.map fun ((here, call), i) =>
    ((⟨here, call.machine, i⟩ : Actor), call.handler here c.settings)
  let (c, results) := runAll activities c
  (c.unlocked, results)

/-- Delivers an event to nodes one after another. -/
def deliver (e : MembershipEvent) : List NodeId → Cluster → Cluster × Option (List CallResult)
  | [], c => (c, some [])
  | id :: ids, c =>
    match c.call id (.event e) with
    | (c, none) => (c, none)
    | (c, some result) =>
      let (c, results) := deliver e ids c
      (c, results.map (result :: ·))

end Cluster

end ClusterKeeper
