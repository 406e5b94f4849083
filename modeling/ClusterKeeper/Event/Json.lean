import ClusterKeeper.Event
import ClusterKeeper.Member.Json
import ClusterKeeper.Status.Json

/-!
# `Event/Json.lean` — cluster events as JSON

An event is an object whose member `type` says which event it is; `type` may stand anywhere among
the others. It may also be an array that begins with the type and goes on by position. The rest of
the event is read as a value first, so a text that is no JSON is refused before a member that is
wrong; only the type is judged as soon as it is met.
-/

set_option autoImplicit false

namespace ClusterKeeper.ClusterEvent

open Json

inductive Kind
  | hostsAdded
  | hostRemoved
  | taskResumed
  | taskFailed
  | statusChanged
  | drainFinished
  deriving DecidableEq, Repr, Inhabited

namespace Kind

def all : List Kind :=
  [hostsAdded, hostRemoved, taskResumed, taskFailed, statusChanged, drainFinished]

/-- The type under which an event of this kind is written. -/
def tag : Kind → String
  | hostsAdded => "config_members_added"
  | hostRemoved => "config_member_removed"
  | taskResumed => "task_retriggered"
  | taskFailed => "task_retrigger_failed"
  | statusChanged => "status_changed"
  | drainFinished => "drain_finished"

/-- What messages call an event of this kind. -/
def title : Kind → String
  | hostsAdded => "ConfigMembersAdded"
  | hostRemoved => "ConfigMemberRemoved"
  | taskResumed => "TaskRetriggered"
  | taskFailed => "TaskRetriggerFailed"
  | statusChanged => "StatusChanged"
  | drainFinished => "DrainFinished"

/-- The names of the members besides the type, in order. -/
def fields : Kind → List String
  | hostsAdded => ["hosts"]
  | hostRemoved => ["host"]
  | taskResumed => ["task", "node"]
  | taskFailed => ["task", "reason"]
  | statusChanged => ["from", "to"]
  | drainFinished => ["polls", "running", "waited", "timed_out"]

def ofTag (tag : String) : Except Error Kind :=
  match all.find? (fun k => k.tag = tag) with
  | some k => .ok k
  | none => .error (.data (unknownVariant tag (all.map Kind.tag)))

end Kind

/-! ## 1. Writing -/

def kind : ClusterEvent → Kind
  | .hostsAdded _ => .hostsAdded
  | .hostRemoved _ => .hostRemoved
  | .taskResumed _ _ => .taskResumed
  | .taskFailed _ _ => .taskFailed
  | .statusChanged _ _ => .statusChanged
  | .drainFinished _ _ _ _ => .drainFinished

/-- The values of the members besides the type, in the order of `Kind.fields`. -/
def values : ClusterEvent → List Value
  | .hostsAdded hosts => [.array (hosts.map Identifier.toJson)]
  | .hostRemoved host => [host.toJson]
  | .taskResumed task node => [task.toJson, node.toJson]
  | .taskFailed task reason => [task.toJson, .string reason]
  | .statusChanged old new => [old.toJson, new.toJson]
  | .drainFinished polls running waited timedOut =>
    [.number (.natural polls), .number (.natural running), .string waited.render,
      .boolean timedOut]

def toJson (e : ClusterEvent) : Value :=
  .object (("type", .string e.kind.tag) :: e.kind.fields.zip e.values)

/-! ## 2. Reading -/

def hostOfJson (v : Value) : Except Error Host := do return ⟨← v.asString "a string"⟩

def hostsOfJson (v : Value) : Except Error (List Host) := do
  (← v.asArray "a sequence").mapM hostOfJson

def taskOfJson (v : Value) : Except Error TaskId := do return ⟨← v.asString "a string"⟩

def nodeOfJson (v : Value) : Except Error NodeId := do return ⟨← v.asString "a string"⟩

def durationOfJson (v : Value) : Except Error Duration := do
  let text ← v.asString "a duration"
  match Duration.read text with
  | .ok d => .ok d
  | .error .malformed => .error (.data (wrongValue (Value.string text).describe "a duration"))
  | .error .overflow => .error .overflow

inductive Field
  | hosts (hosts : List Host)
  | host (host : Host)
  | task (task : TaskId)
  | node (node : NodeId)
  | text (text : String)
  | status (status : Status)
  | count (n : Nat)
  | span (d : Duration)
  | truth (b : Bool)

def Field.ofJson (name : String) (v : Value) : Except Error Field :=
  match name with
  | "hosts" => .hosts <$> hostsOfJson v
  | "host" => .host <$> hostOfJson v
  | "task" => .task <$> taskOfJson v
  | "node" => .node <$> nodeOfJson v
  | "from" | "to" => .status <$> Status.ofJson v
  | "polls" => .count <$> v.asNatural "u32" shortLimit
  | "running" => .count <$> v.asNatural "usize" wordLimit
  | "waited" => .span <$> durationOfJson v
  | "timed_out" => .truth <$> v.asBoolean "a boolean"
  | _ => .text <$> v.asString "a string"

/-- The event of a kind with these members, given in the order of `Kind.fields`. -/
def ofFields? : Kind → List Field → Option ClusterEvent
  | .hostsAdded, [.hosts hosts] => some (.hostsAdded hosts)
  | .hostRemoved, [.host host] => some (.hostRemoved host)
  | .taskResumed, [.task task, .node node] => some (.taskResumed task node)
  | .taskFailed, [.task task, .text reason] => some (.taskFailed task reason)
  | .statusChanged, [.status old, .status new] => some (.statusChanged old new)
  | .drainFinished, [.count polls, .count running, .span waited, .truth timedOut] =>
    some (.drainFinished polls running waited timedOut)
  | _, _ => none

/-- Decodes the members of an object one after another; those that are no member of the kind are
passed over, and none may be given twice. -/
def readMembers (fields : List String) :
    List (String × Value) → List (String × Field) → Except Error (List (String × Field))
  | [], known => .ok known
  | (name, v) :: rest, known =>
    if fields.contains name then
      if (known.lookup name).isSome then .error (.data (duplicateField name))
      else do
        let field ← Field.ofJson name v
        readMembers fields rest (known ++ [(name, field)])
    else readMembers fields rest known

def readItems (kind : Kind) : (position : Nat) → List String → List Value →
    Except Error (List Field)
  | _, [], [] => .ok []
  | position, [], rest =>
    .error (.data (wrongLength (position + rest.length)
      (countElements position ++ " in sequence")))
  | position, _ :: _, [] =>
    .error (.data (wrongLength position ("struct variant ClusterEvent::" ++ kind.title
      ++ " with " ++ countElements kind.fields.length)))
  | position, name :: names, v :: rest => do
    let field ← Field.ofJson name v
    return field :: (← readItems kind (position + 1) names rest)

/-- The event of a kind whose members are in this value. -/
def ofContent (kind : Kind) (content : Value) : Except Error ClusterEvent := do
  let fields ← match content with
    | .array vs => readItems kind 0 kind.fields vs
    | .object ms => do
      let known ← readMembers kind.fields ms []
      kind.fields.mapM fun name => required name (known.lookup name)
    | v => v.refused ("struct variant ClusterEvent::" ++ kind.title)
  match ofFields? kind fields with
  | some e => return e
  | none => .error .malformed

def readTag : Reader Kind := do Kind.ofTag (← readString "variant identifier")

/-- The type, if it was met, and the other members. -/
structure Draft where
  kind : Option Kind
  members : List (String × Value)

def Draft.read (depth : Nat) (name : String) (d : Draft) : Reader Draft := do
  if name = "type" then return { d with kind := some (← readOnce name d.kind readTag) }
  else
    colon
    let v ← readValue depth
    return { d with members := d.members ++ [(name, v)] }

/-- The kind of an event and the value that holds its members. -/
def readTagged : Reader (Kind × Value) := do
  let depth := nestingLimit - 1
  match ← peek with
  | some '[' =>
    drop
    if ← hasItem true then
      let kind ← readTag
      let vs ← bounded fun fuel => items (readValue depth) fuel false
      endArray
      return (kind, .array vs)
    else throw (.data (missingField "type"))
  | some '{' =>
    drop
    let d ← bounded fun fuel => Json.members (Draft.read depth) fuel true ⟨none, []⟩
    let kind ← required "type" d.kind
    endObject
    return (kind, .object d.members)
  | _ => refuse "internally tagged enum ClusterEvent"

def readJson : Reader ClusterEvent := do
  let (kind, content) ← readTagged
  ofContent kind content

def ofText (text : String) : Except Error ClusterEvent := readText readJson text

end ClusterKeeper.ClusterEvent
