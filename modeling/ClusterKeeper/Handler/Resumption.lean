import ClusterKeeper.Request

/-!
# `Handler/Resumption.lean` — taking over a task

A task is taken over by starting it and then recording it under this node. If the start fails
nothing is recorded; if only the recording fails the task runs all the same.
-/

set_option autoImplicit false

namespace ClusterKeeper

namespace Handler

/-- Starts a task on the node `here` and records that it runs there. -/
def resume (here : NodeId) (task : TaskId) : Handler (Except ResumeError Unit) := do
  match ← (Request.startTask task).ask with
  | .error cause => return .error (.notStarted task cause)
  | .ok () =>
    match ← (Request.addTask here task).ask with
    | .error cause => return .error (.notRecorded task cause)
    | .ok () => return .ok ()

/-- What is seen of a batch of resumptions: whether a batch is under way before it, during it and
after it, the tasks of the node at its begin and at its end, and how each resumption went. -/
structure BatchReport where
  before : Bool
  during : Bool
  after : Bool
  first : Except IndexError (OrderedSet TaskId)
  last : Except IndexError (OrderedSet TaskId)
  resumed : List (Except ResumeError Unit)

/-- Resumes tasks one after another in a batch of their own. -/
def resumeBatch (here : NodeId) (tasks : List TaskId) : Handler BatchReport := do
  let before ← (Request.isHeld .leaveBatch).ask
  let (during, first, resumed, last) ← holding .leaveBatch do
    let during ← (Request.isHeld .leaveBatch).ask
    let first ← (Request.tasksOf here).ask
    let resumed ← tasks.mapM (resume here)
    let last ← (Request.tasksOf here).ask
    return (during, first, resumed, last)
  let after ← (Request.isHeld .leaveBatch).ask
  return ⟨before, during, after, first, last, resumed⟩

end Handler

end ClusterKeeper
