import ClusterKeeper.Request

/-!
# `Handler/Tracing.lean` — logging what the runner and the store are asked

`Handler.traced` puts log records around every request to the task runner and the record store. It
forwards each request once and hands back the reply it got, so the handler it is put around cannot
tell.
-/

set_option autoImplicit false

namespace ClusterKeeper

namespace Handler

/-- Logs how something ended: well, or with a failure's message. -/
def logOutcome {ε : Type} (message : ε → String) (well badly : String) : Except ε Unit → Handler Unit
  | .ok () => info well []
  | .error e => error badly [("error", message e)]

/-- The fields of a record's size. -/
def sizeField (r : HostRecord) : LogFields := [("members", toString r.hosts.size)]

/-- One request with the log records around it. -/
def tracedRequest : (r : Request) → Handler r.Reply
  | .runningCount => do
    let count ← Request.runningCount.ask
    log .trace "running tasks" [("count", toString count)]
    return count
  | .startTask task =>
    inSpan ⟨"runner.trigger", [("task", task.text)]⟩ do
      info "triggering" []
      let result ← (Request.startTask task).ask
      logOutcome StartError.message "triggered" "trigger failed" result
      return result
  | .loadRecord => do
    let result ← Request.loadRecord.ask
    let size := match result with
      | .ok (some r) => sizeField r
      | _ => []
    log .trace "loaded cluster config" size
    return result
  | .addRecord r =>
    inSpan ⟨"store.add", sizeField r⟩ do
      let result ← (Request.addRecord r).ask
      logOutcome StoreError.message "cluster config saved" "save failed" result
      return result
  | .updateRecord r =>
    inSpan ⟨"store.update", sizeField r⟩ do
      let result ← (Request.updateRecord r).ask
      logOutcome StoreError.message "cluster config updated" "update failed" result
      return result
  | r => r.ask

/-- A handler whose runner and store are traced. -/
def traced {α : Type} (body : Handler α) : Handler α := body.interpret tracedRequest

end Handler

end ClusterKeeper
