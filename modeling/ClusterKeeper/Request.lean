import ClusterKeeper.Clock
import ClusterKeeper.Failure
import ClusterKeeper.Log
import ClusterKeeper.Program

/-!
# `Request.lean` — what a handler can ask of its node

A handler is a program whose requests go to the parts of one node: its view of the substrate, the
shared index and store, its runner, its clock, its status cell and its locks. Log records are
requests too, so what is logged is part of what a handler does.

Between two requests of one handler those of others may be answered; two things keep handlers of a
node apart, the locks of `LockName`.
-/

set_option autoImplicit false

namespace ClusterKeeper

inductive LockName
  /-- Held while the tasks of a departed node are decided on and resumed. -/
  | leaveBatch
  /-- Held while the status changes, drain included. -/
  | transition
  deriving DecidableEq, Repr, Inhabited

inductive Request
  | members
  | ownerOf (task : TaskId)
  | publish (key value : String)
  | tasksOf (node : NodeId)
  | addTask (node : NodeId) (task : TaskId)
  | loadRecord
  | addRecord (record : HostRecord)
  | updateRecord (record : HostRecord)
  | runningCount
  | startTask (task : TaskId)
  | now
  | sleep (span : Duration)
  | readStatus
  /-- Writes the status and tells the one written before. -/
  | writeStatus (status : Status)
  | acquire (lock : LockName)
  | release (lock : LockName)
  | isHeld (lock : LockName)
  | log (record : LogRecord)

@[reducible] def Request.Reply : Request → Type
  | members => Except SubstrateError (List Member)
  | ownerOf _ => Except SubstrateError (Option NodeId)
  | publish _ _ => Except SubstrateError Unit
  | tasksOf _ => Except IndexError (OrderedSet TaskId)
  | addTask _ _ => Except IndexError Unit
  | loadRecord => Except StoreError (Option HostRecord)
  | addRecord _ => Except StoreError Unit
  | updateRecord _ => Except StoreError Unit
  | runningCount => Nat
  | startTask _ => Except StartError Unit
  | now => Instant
  | sleep _ => Unit
  | readStatus => Status
  | writeStatus _ => Status
  | acquire _ => Unit
  | release _ => Unit
  | isHeld _ => Bool
  | log _ => Unit

abbrev Handler := Program Request.Reply

abbrev Attempt := ExceptT HandlerError Handler

def Request.ask (r : Request) : Handler r.Reply := Program.request r

namespace Handler

variable {α : Type}

/-- Makes a log record outside all spans. -/
def log (level : LogLevel) (message : String) (fields : LogFields) : Handler Unit :=
  (Request.log ⟨level, message, fields, []⟩).ask

def debug (message : String) (fields : LogFields) : Handler Unit := log .debug message fields

def info (message : String) (fields : LogFields) : Handler Unit := log .info message fields

def warn (message : String) (fields : LogFields) : Handler Unit := log .warn message fields

def error (message : String) (fields : LogFields) : Handler Unit := log .error message fields

/-- Holds a lock from before `body` until after it, however it ends. -/
def holding (lock : LockName) (body : Handler α) : Handler α := do
  (Request.acquire lock).ask
  let a ← body
  (Request.release lock).ask
  return a

/-- Attributes what `body` logs to a span. -/
def inSpan (span : LogSpan) (body : Handler α) : Handler α :=
  body.interpret fun
    | .log r => (Request.log (r.within span)).ask
    | r => r.ask

/-- A failure of one of the node's parts is a failure of the handler. -/
def orFail {ε : Type} (cause : ε → HandlerError) (body : Handler (Except ε α)) : Attempt α :=
  ExceptT.mk do
    match ← body with
    | .ok a => return .ok a
    | .error e => return .error (cause e)

/-! ## Attempts, as handlers -/

section
variable {β ε : Type}

theorem run_lift_bind (h : Handler α) (f : α → Attempt β) :
    ((liftM h : Attempt α) >>= f).run = h >>= fun a => (f a).run :=
  ExceptT.run_bind_lift h f

theorem run_orFail (cause : ε → HandlerError) (body : Handler (Except ε α)) :
    (orFail cause body).run = body >>= fun
      | .ok a => pure (.ok a)
      | .error e => pure (.error (cause e)) := rfl

theorem run_orFail_bind (cause : ε → HandlerError) (body : Handler (Except ε α))
    (f : α → Attempt β) :
    (orFail cause body >>= f).run = body >>= fun
      | .ok a => (f a).run
      | .error e => pure (.error (cause e)) := by
  rw [ExceptT.run_bind, run_orFail, Program.bind_assoc]
  refine congrArg _ (funext fun r => ?_)
  cases r <;> rfl

end

end Handler

end ClusterKeeper
