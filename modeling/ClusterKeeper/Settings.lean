import ClusterKeeper.Duration.Readable
import ClusterKeeper.Json.Value

/-!
# `Settings.lean` — how a node reconciles and drains

The settings of a cluster: how long a drain may take and how often it looks, how many tasks may
still run when it ends, and the two well-known names, of the attribute that carries a node's
status and of the index that lists the tasks of a node.
-/

set_option autoImplicit false

namespace ClusterKeeper

structure Settings where
  /-- How long a drain waits for running tasks. -/
  maxDrainWait : Duration
  /-- How long it waits between two looks at the number of running tasks. -/
  pollInterval : Duration
  /-- A drain ends once no more tasks than this are running; the draining task counts. -/
  drainThreshold : Nat
  /-- The member attribute that carries a node's status. -/
  statusAttribute : String
  /-- The name of the index of tasks by node. -/
  nodeTasksMap : String
  deriving DecidableEq, Repr

namespace Settings

/-- Half an hour to drain, a look every ten seconds. -/
def standard : Settings where
  maxDrainWait := .ofSeconds 1800 (by decide)
  pollInterval := .ofSeconds 10 (by decide)
  drainThreshold := 1
  statusAttribute := "node.status"
  nodeTasksMap := "node-tasks"

instance : Inhabited Settings := ⟨standard⟩

/-- Settings are usable if a drain pauses between its looks. -/
def isValid (s : Settings) : Bool := !s.pollInterval.isZero

def zeroIntervalMessage : String := "poll_interval must be greater than zero"

/-- The greatest number of polls. -/
def mostPolls : Nat := shortLimit - 1

/-- How many polls fit the time that a drain may take. -/
def maxPolls (s : Settings) : Nat :=
  if s.pollInterval.isZero then 0
  else min (s.maxDrainWait.nanos / s.pollInterval.nanos) mostPolls

def fieldNames : List String :=
  ["max_drain_wait", "poll_interval", "drain_threshold", "status_attribute", "node_tasks_map"]

def toJson (s : Settings) : Json.Value :=
  .object (fieldNames.zip [.string s.maxDrainWait.render, .string s.pollInterval.render,
    .number (.natural s.drainThreshold), .string s.statusAttribute, .string s.nodeTasksMap])

end Settings

end ClusterKeeper
