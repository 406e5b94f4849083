import ClusterKeeper.Identifier
import ClusterKeeper.Status
import ClusterKeeper.Json.Value

/-!
# `Failure.lean` — what can go wrong with the parts a node works with

Each of the four parts (membership substrate, task index, record store, task runner) fails in its
own ways, and a handler fails with the failure of the part that stopped it. Every failure has a
message; a message never says more than its cause does.
-/

set_option autoImplicit false

namespace ClusterKeeper

inductive SubstrateError
  | unavailable (reason : String)
  | publishFailed (reason : String)
  deriving DecidableEq, Repr

def SubstrateError.message : SubstrateError → String
  | unavailable reason => "membership substrate unavailable: " ++ reason
  | publishFailed reason => "attribute publish failed: " ++ reason

inductive IndexError
  | unavailable (map reason : String)
  deriving DecidableEq, Repr

def IndexError.message : IndexError → String
  | unavailable map reason => "task index " ++ map ++ " unavailable: " ++ reason

inductive FileError
  | notFound
  | alreadyExists
  | notADirectory
  | isADirectory
  /-- A directory that a path leads to by points is neither renamed nor replaced. -/
  | busy
  | nameTooLong
  /-- A path has a character that no name can have. -/
  | invalidName
  | notText
  deriving DecidableEq, Repr

def FileError.message : FileError → String
  | notFound => "No such file or directory (os error 2)"
  | alreadyExists => "File exists (os error 17)"
  | notADirectory => "Not a directory (os error 20)"
  | isADirectory => "Is a directory (os error 21)"
  | busy => "Device or resource busy (os error 16)"
  | nameTooLong => "File name too long (os error 36)"
  | invalidName => "file name contained an unexpected NUL byte"
  | notText => "stream did not contain valid UTF-8"

/-- A failure of the store that keeps the host record. -/
inductive StoreError
  | file (e : FileError)
  | unreadable (e : Json.Error)
  | notFound
  | unavailable (reason : String)
  deriving DecidableEq, Repr

/-- What is said of a text that is no JSON of the kind asked for. -/
def Json.Error.message : Json.Error → String
  | malformed => "malformed text"
  | truncated => "text ends too early"
  | data message => message
  | overflow => "number out of range"

def StoreError.message : StoreError → String
  | file e => "io error: " ++ e.message
  | unreadable e => "json error: " ++ e.message
  | notFound => "cluster configuration not found"
  | unavailable reason => "store unavailable: " ++ reason

inductive StartError
  | notFound (task : TaskId)
  | failed (task : TaskId) (reason : String)
  deriving DecidableEq, Repr

def StartError.message : StartError → String
  | notFound task => "task not found: " ++ task.text
  | failed task reason => "task " ++ task.text ++ " failed to start: " ++ reason

/-- Why a task was not resumed, or was resumed without a trace. -/
inductive ResumeError
  | notStarted (task : TaskId) (cause : StartError)
  /-- The task runs, but the index does not say so. -/
  | notRecorded (task : TaskId) (cause : IndexError)
  deriving DecidableEq, Repr

def ResumeError.message : ResumeError → String
  | notStarted task cause => "task " ++ task.text ++ " could not be started: " ++ cause.message
  | notRecorded task cause =>
    "task " ++ task.text ++ " started but was not recorded in the task index: " ++ cause.message

inductive HandlerError
  | store (cause : StoreError)
  | index (cause : IndexError)
  | substrate (cause : SubstrateError)
  | unknownStatus (value : String)
  deriving DecidableEq, Repr

def HandlerError.message : HandlerError → String
  | store cause => "cluster config persistence failed: " ++ cause.message
  | index cause => "task index error: " ++ cause.message
  | substrate cause => "membership error: " ++ cause.message
  | unknownStatus value => Status.unknownMessage value

end ClusterKeeper
