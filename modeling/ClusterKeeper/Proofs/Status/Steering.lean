import ClusterKeeper.Proofs.Run

/-!
# `Proofs/Status/Steering.lean` — what the course of a status change depends on

A change of status asks its node for the status, the clock and the number of running tasks. What it
is answered is determined by the node's `Steering`, and so is the steering that it leaves behind,
whatever else there is in the cluster (`Cluster.answer_steered`). Only publishing depends on anything
besides, on faults and outages, and it leaves the steering as it is.
-/

set_option autoImplicit false

namespace ClusterKeeper

/-- The status of a node, its clock, and the counts that its runner will tell. -/
structure Steering where
  status : StatusCell
  clock : Clock
  countDelay : Duration
  running : Nat
  scripted : List Nat

namespace Node

def steering (n : Node) : Steering :=
  ⟨n.status, n.clock, n.countDelay, n.runner.running, n.runner.scripted⟩

def steer (n : Node) (s : Steering) : Node :=
  { n with
    status := s.status
    clock := s.clock
    countDelay := s.countDelay
    runner := { n.runner with running := s.running, scripted := s.scripted } }

@[simp] theorem steering_steer (n : Node) (s : Steering) : (n.steer s).steering = s := rfl

theorem steering_eq_iff {n n' : Node} : n.steering = n'.steering ↔
    n.status = n'.status ∧ n.clock = n'.clock ∧ n.countDelay = n'.countDelay ∧
      n.runner.running = n'.runner.running ∧ n.runner.scripted = n'.runner.scripted := by
  simp [steering]

end Node

/-- The requests whose answers the steering determines. -/
def Request.Steered : Request → Prop
  | runningCount | now | sleep _ | readStatus | writeStatus _ | acquire _ | release _ | log _ => True
  | _ => False

namespace Cluster

variable {c d : Cluster} {a : Actor}

def steering (c : Cluster) (id : NodeId) : Steering := (c.node id).steering

/-- The cluster with another steering of a node. -/
def steer (c : Cluster) (id : NodeId) (s : Steering) : Cluster :=
  c.setNode id ((c.node id).steer s)

@[simp] theorem steering_steer (c : Cluster) (id : NodeId) (s : Steering) :
    (c.steer id s).steering id = s := by
  rw [steering, steer, node_setNode, if_pos rfl, Node.steering_steer]

theorem steering_setNode (c : Cluster) (id : NodeId) (n : Node) :
    (c.setNode id n).steering id = n.steering := by
  rw [steering, node_setNode, if_pos rfl]

/-- Nodes that are steered alike answer alike, and are steered alike afterwards. -/
theorem answer_steered {r : Request} (hr : r.Steered) (h : c.steering a.node = d.steering a.node) :
    (c.answer a r).2 = (d.answer a r).2 ∧
      (c.answer a r).1.steering a.node = (d.answer a r).1.steering a.node := by
  obtain ⟨hstatus, hclock, hdelay, hrunning, hscripted⟩ := Node.steering_eq_iff.1 h
  cases r with
  | now => exact ⟨congrArg (fun x => some (Clock.now x)) hclock, h⟩
  | readStatus => exact ⟨congrArg (fun x => some (StatusCell.status x)) hstatus, h⟩
  | acquire => exact ⟨rfl, h⟩
  | release => exact ⟨rfl, h⟩
  | log => exact ⟨rfl, h⟩
  | writeStatus s =>
    refine ⟨congrArg (fun x => some (StatusCell.status x)) hstatus, ?_⟩
    show (c.setNode _ _).steering _ = (d.setNode _ _).steering _
    rw [steering_setNode, steering_setNode, Node.steering_eq_iff]
    exact ⟨congrArg (·.set s) hstatus, hclock, hdelay, hrunning, hscripted⟩
  | sleep span =>
    refine ⟨congrArg (fun x => if (Clock.sleep x span).2 then some () else none) hclock, ?_⟩
    show (c.setNode _ _).steering _ = (d.setNode _ _).steering _
    rw [steering_setNode, steering_setNode, Node.steering_eq_iff]
    exact ⟨hstatus, congrArg (fun x => (Clock.sleep x span).1) hclock, hdelay, hrunning, hscripted⟩
  | runningCount =>
    rw [answer, answer, askCount, askCount, hclock, hdelay]
    cases (d.node a.node).clock.advance? (d.node a.node).countDelay with
    | none => exact ⟨rfl, h⟩
    | some clock =>
      rw [steering_setNode, steering_setNode, Node.steering_eq_iff, TaskRunner.count,
        TaskRunner.count]
      simp only [hscripted]
      cases (d.node a.node).runner.scripted with
      | nil => simp [hstatus, hrunning]
      | cons x rest => simp [hstatus, hrunning]
  | _ => exact hr.elim

theorem answer_publish_steering (c : Cluster) (a : Actor) (key value : String) (id : NodeId) :
    (c.answer a (.publish key value)).1.steering id = c.steering id :=
  faulty_fst (P := fun d => d.steering id = c.steering id) rfl rfl

end Cluster

end ClusterKeeper
