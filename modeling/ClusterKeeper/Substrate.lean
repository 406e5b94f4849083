import ClusterKeeper.Failure
import ClusterKeeper.History
import ClusterKeeper.Member
import ClusterKeeper.Ordered.Map

/-!
# `Substrate.lean` — the membership substrate

The substrate knows who is a member, which node owns the partition of a task, and what every node
has published about itself. Each node asks it through a view of its own, and the substrate keeps a
record of who asked what, also of the questions it could not answer. During an outage it answers
nothing.
-/

set_option autoImplicit false

namespace ClusterKeeper

/-- A question to the substrate, with the node that asked it. -/
inductive SubstrateCall
  | members (asker : NodeId)
  | ownerOf (asker : NodeId) (task : TaskId)
  | publish (asker : NodeId) (key value : String)
  deriving DecidableEq, Repr

structure Substrate where
  /-- The members in the order in which they joined. -/
  members : List Member
  owners : OrderedMap TaskId NodeId
  attributes : OrderedMap NodeId (OrderedMap String String)
  offline : Bool
  calls : History SubstrateCall
  deriving DecidableEq, Inhabited

namespace Substrate

def empty : Substrate := ⟨[], ∅, ∅, false, ∅⟩

def outage : String := "fake outage"

/-! ## 1. Changing the cluster -/

/-- Adds a member, unless the very same one is there. -/
def join (s : Substrate) (m : Member) : Substrate :=
  if m ∈ s.members then s else { s with members := s.members ++ [m] }

/-- Removes the first member with that id, and says which one that was. -/
def leave (s : Substrate) (id : NodeId) : Substrate × Option Member :=
  match s.members.find? (fun m => m.id = id) with
  | some m => ({ s with members := s.members.erase m }, some m)
  | none => (s, none)

def setOwner (s : Substrate) (task : TaskId) (node : NodeId) : Substrate :=
  { s with owners := s.owners.put task node }

/-- Leaves the partition of a task without an owner. -/
def clearOwner (s : Substrate) (task : TaskId) : Substrate :=
  { s with owners := s.owners.erase task }

def attribute? (s : Substrate) (node : NodeId) (key : String) : Option String := do
  (← s.attributes.get? node).get? key

def setAttribute (s : Substrate) (node : NodeId) (key value : String) : Substrate :=
  { s with attributes :=
      s.attributes.put node (((s.attributes.get? node).getD ∅).put key value) }

/-! ## 2. The view of a node -/

def noting (s : Substrate) (call : SubstrateCall) : Substrate :=
  { s with calls := s.calls.add call }

def askMembers (s : Substrate) (asker : NodeId) :
    Substrate × Except SubstrateError (List Member) :=
  (s.noting (.members asker),
    if s.offline then .error (.unavailable outage) else .ok s.members)

/-- The node that owns the partition of a task; none while the partition has no owner. -/
def askOwner (s : Substrate) (asker : NodeId) (task : TaskId) :
    Substrate × Except SubstrateError (Option NodeId) :=
  (s.noting (.ownerOf asker task),
    if s.offline then .error (.unavailable outage) else .ok (s.owners.get? task))

def publish (s : Substrate) (asker : NodeId) (key value : String) :
    Substrate × Except SubstrateError Unit :=
  let s := s.noting (.publish asker key value)
  if s.offline then (s, .error (.publishFailed outage))
  else (s.setAttribute asker key value, .ok ())

end Substrate

end ClusterKeeper
