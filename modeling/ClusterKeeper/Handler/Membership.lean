import ClusterKeeper.Handler.Departure
import ClusterKeeper.Handler.Tracing
import ClusterKeeper.Handler.Transition

/-!
# `Handler/Membership.lean` — what a node does about membership events

The substrate tells every node of members that join or leave and of attributes that change.
`Handler.membershipEvent` is all that a node does about one such event, and answers with what came
of it.

When a member has joined the node is told who is alive, and merges the hosts of all of them into the
record. The record is written even if nothing was new, and the hosts are reported only once they are
written.
-/

set_option autoImplicit false

namespace ClusterKeeper

inductive MembershipEvent
  /-- A member joined; with it come the members alive. -/
  | joined (member : Member) (members : List Member)
  /-- A member left or was declared dead. -/
  | left (member : Member)
  | attributeChanged (member : Member) (key value : String)
  deriving DecidableEq, Repr

def MembershipEvent.name : MembershipEvent → String
  | joined _ _ => "member:joined"
  | left _ => "member:left"
  | attributeChanged _ _ _ => "member:attribute"

namespace Handler

/-- Handles the arrival of a member, given the members alive. -/
def memberJoined (joined : Member) (members : List Member) : Attempt (List ClusterEvent) := do
  debug "member joined the cluster" [("member", joined.display)]
  let stored ← orFail .store Request.loadRecord.ask
  let (record, added) := (stored.getD .empty).absorb (hostsOf members).toList
  orFail .store (Request.addRecord record).ask
  if added.isEmpty then return []
  info "cluster hosts recorded" [("added", shownList added)]
  return [.hostsAdded added]

/-- Handles a change of an attribute: only the status attribute matters, whoever published it. -/
def attributeChanged (settings : Settings) (member : Member) (key value : String) :
    Attempt (List ClusterEvent) := do
  info "member attribute modified" [("key", key), ("value", value), ("member", member.display)]
  if key ≠ settings.statusAttribute then
    debug "not the status attribute, ignoring" [("key", key)]
    return []
  statusPublished settings value

def dispatch (here : NodeId) (settings : Settings) : MembershipEvent → Attempt (List ClusterEvent)
  | .joined member members => memberJoined member members
  | .left member => memberLeft here member
  | .attributeChanged member key value => attributeChanged settings member key value

/-- Whether a node's runner and store are traced. -/
inductive Tracing
  | on
  | off
  deriving DecidableEq, Repr

/-- A handler on a node with or without tracing. -/
def Tracing.apply {α : Type} : Tracing → Handler α → Handler α
  | on, body => traced body
  | off, body => body

/-- All that the node `here` does about an event. -/
def membershipEvent (tracing : Tracing) (here : NodeId) (settings : Settings)
    (e : MembershipEvent) : Handler (Except HandlerError (List ClusterEvent)) :=
  inSpan ⟨"membership.event", [("event", e.name)]⟩ (tracing.apply (dispatch here settings e).run)

/-- What is logged when a node takes up its work with the index of that name. -/
def startRecords (member : Member) (settings : Settings) (index : String) : List LogRecord :=
  (if index = settings.nodeTasksMap then []
    else [⟨.warn, "task index name differs from configured map",
      [("expected", settings.nodeTasksMap), ("actual", index)], []⟩])
    ++ [⟨.info, "runtime created", [("node", member.display), ("node_tasks_map", index)], []⟩]

end Handler

end ClusterKeeper
