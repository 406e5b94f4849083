import ClusterKeeper.Event
import ClusterKeeper.Request
import ClusterKeeper.Settings
import ClusterKeeper.Wait

/-!
# `Handler/Transition.lean` — changing the status of a node

A node takes on whatever status is published under the status attribute, by anyone, and publishes
it in turn. On the way into maintenance it first pauses, so that it takes no new task, and waits
for the running ones (`drain`). The lock `transition` is held throughout, so a status that arrives
during a drain is taken on after it.

The local status is written before it is published, so a node that hears of its own publication
already has that status.
-/

set_option autoImplicit false

namespace ClusterKeeper

namespace Handler

/-- Writes the local status. A write that changes nothing is not reported. -/
def setLocal (s : Status) : Handler (List ClusterEvent) := do
  let previous ← (Request.writeStatus s).ask
  if previous = s then return []
  info "node status changed" [("from", previous.text), ("to", s.text)]
  return [.statusChanged previous s]

def publish (settings : Settings) (s : Status) : Attempt Unit :=
  orFail .substrate (Request.publish settings.statusAttribute s.text).ask

/-- What a drain waits with: it looks at the number of running tasks and cannot be cancelled. -/
def drainSurroundings : BoundedWait.Surroundings Handler Nat where
  look := Request.runningCount.ask
  isCancelled := return false
  now := Request.now.ask
  sleep span := (Request.sleep span).ask

/-- The wait that the settings make of a drain. -/
def drainWait (settings : Settings) : BoundedWait := ⟨settings.pollInterval, settings.maxPolls⟩

/-- Waits for running tasks to end, within the budget of the settings. -/
def drain (settings : Settings) : Handler ClusterEvent := do
  let wait := drainWait settings
  info "waiting for running tasks to complete"
    [("budget", wait.budget.shown), ("interval", settings.pollInterval.shown)]
  let start ← Request.now.ask
  let (outcome, running) ←
    wait.await drainSurroundings fun count => count ≤ settings.drainThreshold
  let finish ← Request.now.ask
  let fields := [("running", toString running), ("polls", toString outcome.polls)]
  if outcome.satisfied then info "running tasks drained" fields
  else warn "drain budget exhausted, tasks still running" fields
  return .drainFinished outcome.polls running (finish.since start) !outcome.satisfied

/-- Pauses, drains, and then enters maintenance. -/
def enterMaintenance (settings : Settings) : Attempt (List ClusterEvent) := do
  let paused ← setLocal .pause
  let drained ← drain settings
  let entered ← setLocal .maintenance
  publish settings .maintenance
  return paused ++ [drained] ++ entered

/-- Takes on a status, with the lock held. -/
def takeOn (settings : Settings) (target : Status) : Attempt (List ClusterEvent) := do
  let current ← Request.readStatus.ask
  if target = .maintenance ∧ current ≠ .maintenance then enterMaintenance settings
  else
    let events ← setLocal target
    publish settings target
    return events

def statusPublished (settings : Settings) (value : String) : Attempt (List ClusterEvent) :=
  match Status.ofText? value with
  | none => throw (.unknownStatus value)
  | some target => ExceptT.mk (holding .transition (takeOn settings target).run)

end Handler

end ClusterKeeper
