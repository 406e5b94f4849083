import ClusterKeeper.Cluster.Answer

/-!
# `Proofs/Answer.lean` — what a request leaves as it is

`Cluster.answer` changes certain parts of the cluster for each request, and nothing else.
`Request.parts` names these parts, and `Cluster.answer_cases` says what can become of each of them;
the lemmas after it read off, part by part, what stays.

Faults, members, owners, outages, the tasks that a runner fails and the names of things are changed
by no request at all, so whatever is refused at the begin of a run is refused throughout.
-/

set_option autoImplicit false

namespace ClusterKeeper

/-! ## 1. Parts -/

/-- A part of a cluster, or of the node that makes a request. -/
inductive Part
  | substrate
  | index
  | store
  | runner
  | clock
  | status
  | locks
  | log
  deriving DecidableEq, Repr

/-- The parts that a request can change. The substrate notes every question, and looking at the
number of running tasks takes time. -/
def Request.parts : Request → List Part
  | members | ownerOf _ | publish _ _ => [.substrate]
  | addTask _ _ => [.index]
  | loadRecord | addRecord _ | updateRecord _ => [.store]
  | runningCount => [.runner, .clock]
  | startTask _ => [.runner]
  | sleep _ => [.clock]
  | writeStatus _ => [.status]
  | acquire _ | release _ => [.locks]
  | log _ => [.log]
  | tasksOf _ | now | readStatus | isHeld _ => []

namespace Substrate

@[simp] theorem publish_members (s : Substrate) (asker : NodeId) (key value : String) :
    (s.publish asker key value).1.members = s.members := by
  unfold publish noting
  cases s.offline <;> rfl

@[simp] theorem publish_owners (s : Substrate) (asker : NodeId) (key value : String) :
    (s.publish asker key value).1.owners = s.owners := by
  unfold publish noting
  cases s.offline <;> rfl

@[simp] theorem publish_offline (s : Substrate) (asker : NodeId) (key value : String) :
    (s.publish asker key value).1.offline = s.offline := by
  unfold publish noting
  cases h : s.offline <;> simp [setAttribute]

theorem attribute?_setAttribute (s : Substrate) (node id : NodeId) (key value k : String) :
    (s.setAttribute node key value).attribute? id k =
      if id = node ∧ k = key then some value else s.attribute? id k := by
  by_cases hid : id = node
  · subst hid
    by_cases hk : k = key
    · simp [attribute?, setAttribute, hk]
    · cases h : s.attributes.get? id with
      | none => simp [attribute?, setAttribute, hk, h, EmptyCollection.emptyCollection]
      | some published => simp [attribute?, setAttribute, hk, h]
  · simp [attribute?, setAttribute, hid]

theorem attribute?_publish_of_ne (s : Substrate) {asker id : NodeId} (h : id ≠ asker)
    (key value k : String) : (s.publish asker key value).1.attribute? id k = s.attribute? id k := by
  unfold publish
  dsimp only
  split
  · rfl
  · exact (attribute?_setAttribute _ _ _ _ _ _).trans (if_neg fun hi => h hi.1)

theorem publish_result (s : Substrate) (asker : NodeId) (key value : String) :
    (s.publish asker key value).2 = if s.offline then .error (.publishFailed outage) else .ok () := by
  unfold publish noting
  cases s.offline <;> rfl

end Substrate

namespace TaskIndex

@[simp] theorem addTask_name (i : TaskIndex) (node : NodeId) (task : TaskId) :
    (i.addTask node task).1.name = i.name := by
  unfold addTask
  cases i.offline <;> rfl

@[simp] theorem addTask_offline (i : TaskIndex) (node : NodeId) (task : TaskId) :
    (i.addTask node task).1.offline = i.offline := by
  unfold addTask
  cases h : i.offline <;> simp [h]

end TaskIndex

namespace TaskRunner

@[simp] theorem count_failing (r : TaskRunner) : r.count.1.failing = r.failing := by
  unfold count
  cases r.scripted <;> rfl

@[simp] theorem start_failing (r : TaskRunner) (task : TaskId) :
    (r.start task).1.failing = r.failing := by
  unfold start
  dsimp only
  split <;> rfl

end TaskRunner

/-- A node as it may be after a request that can change these parts. -/
structure Node.Kept (parts : List Part) (n n' : Node) : Prop where
  member : n'.member = n.member
  countDelay : n'.countDelay = n.countDelay
  failing : n'.runner.failing = n.runner.failing
  runner : .runner ∉ parts → n'.runner = n.runner
  clock : .clock ∉ parts → n'.clock = n.clock
  status : .status ∉ parts → n'.status = n.status

namespace Cluster

variable {α β : Type}

@[simp] theorem node_setNode (c : Cluster) (id id' : NodeId) (n : Node) :
    (c.setNode id n).node id' = if id' = id then n else c.node id' := by
  simp only [node, setNode, OrderedMap.get?_put]
  split <;> rfl

/-- A change of a node that keeps some reading of it keeps that reading of every node. -/
theorem node_setNode_of_eq {f : Node → β} {c : Cluster} {id : NodeId} {n : Node}
    (h : f n = f (c.node id)) (id' : NodeId) : f ((c.setNode id n).node id') = f (c.node id') := by
  rw [node_setNode]
  split
  · next e => rw [h, e]
  · rfl

theorem of_replied {ask : Cluster × α} {c : Cluster} {reply : α}
    (h : replied ask = (c, some reply)) : ask = (c, reply) := by
  cases ask
  cases h
  rfl

/-! ## 2. What becomes of the parts -/

/-- A request that meets a fault changes nothing. -/
theorem faulty_fst {ε : Type} {P : Cluster → Prop} {c : Cluster} {site : FaultSite} {key : String}
    {failure : String → ε} {ask : Cluster × Except ε α} (hc : P c) (ha : P ask.1) :
    P (c.faulty site key failure ask).1 := by
  unfold faulty
  split
  · exact hc
  · exact ha

theorem faulty_of_none {ε : Type} {c : Cluster} {site : FaultSite} {key : String}
    {failure : String → ε} {ask : Cluster × Except ε α} (h : c.faults.reason? site key = none) :
    c.faulty site key failure ask = ask := by
  rw [faulty, h]

/-- A cluster after a request: a part that the request can change is another one, or a node is. -/
theorem answer_cases {P : Cluster → Prop} {c : Cluster} {a : Actor} {r : Request} (hc : P c)
    (hsubstrate : .substrate ∈ r.parts → ∀ s : Substrate, s.members = c.substrate.members →
      s.owners = c.substrate.owners → s.offline = c.substrate.offline → P { c with substrate := s })
    (hindex : .index ∈ r.parts → ∀ i : TaskIndex, i.name = c.index.name →
      i.offline = c.index.offline → P { c with index := i })
    (hstore : .store ∈ r.parts → ∀ s : RecordStore, P { c with store := s })
    (hnode : ∀ n : Node, (c.node a.node).Kept r.parts n → P (c.setNode a.node n))
    (hlocks : .locks ∈ r.parts → ∀ t : LockTable, P { c with locks := t })
    (hlog : .log ∈ r.parts → ∀ l : History LogRecord, P { c with log := l }) :
    P (c.answer a r).1 := by
  cases r with
  | members => exact faulty_fst hc (hsubstrate (.head _) _ rfl rfl rfl)
  | ownerOf task => exact faulty_fst hc (hsubstrate (.head _) _ rfl rfl rfl)
  | publish key value =>
    exact faulty_fst hc (hsubstrate (.head _) _ (Substrate.publish_members ..)
      (Substrate.publish_owners ..) (Substrate.publish_offline ..))
  | tasksOf node => exact faulty_fst hc hc
  | addTask node task =>
    exact faulty_fst hc (hindex (.head _) _ (TaskIndex.addTask_name ..) (TaskIndex.addTask_offline ..))
  | loadRecord => exact faulty_fst hc (hstore (.head _) _)
  | addRecord r => exact faulty_fst hc (hstore (.head _) _)
  | updateRecord r => exact faulty_fst hc (hstore (.head _) _)
  | runningCount =>
    simp only [answer, askCount]
    split
    · exact hc
    · exact hnode _ ⟨rfl, rfl, TaskRunner.count_failing _, fun h => absurd (.head _) h,
        fun h => absurd (.tail _ (.head _)) h, fun _ => rfl⟩
  | startTask task =>
    exact faulty_fst hc (faulty_fst hc (hnode _ ⟨rfl, rfl, TaskRunner.start_failing _ _,
      fun h => absurd (.head _) h, fun _ => rfl, fun _ => rfl⟩))
  | now => exact hc
  | sleep d =>
    exact hnode _ ⟨rfl, rfl, rfl, fun _ => rfl, fun h => absurd (.head _) h, fun _ => rfl⟩
  | readStatus => exact hc
  | writeStatus s =>
    exact hnode _ ⟨rfl, rfl, rfl, fun _ => rfl, fun _ => rfl, fun h => absurd (.head _) h⟩
  | acquire name => exact hlocks (.head _) _
  | release name => exact hlocks (.head _) _
  | isHeld name => exact hc
  | log x => exact hlog (.head _) _

/-! ## 3. What stays -/

/-- A reading of the cluster that no part the request can change goes into. -/
theorem answer_eq (f : Cluster → β) {c : Cluster} {a : Actor} {r : Request}
    (hsubstrate : .substrate ∈ r.parts → ∀ s : Substrate, s.members = c.substrate.members →
      s.owners = c.substrate.owners → s.offline = c.substrate.offline →
      f { c with substrate := s } = f c)
    (hindex : .index ∈ r.parts → ∀ i : TaskIndex, i.name = c.index.name →
      i.offline = c.index.offline → f { c with index := i } = f c)
    (hstore : .store ∈ r.parts → ∀ s : RecordStore, f { c with store := s } = f c)
    (hnode : ∀ n : Node, (c.node a.node).Kept r.parts n → f (c.setNode a.node n) = f c)
    (hlocks : .locks ∈ r.parts → ∀ t : LockTable, f { c with locks := t } = f c)
    (hlog : .log ∈ r.parts → ∀ l : History LogRecord, f { c with log := l } = f c) :
    f (c.answer a r).1 = f c :=
  answer_cases (P := fun d => f d = f c) rfl hsubstrate hindex hstore hnode hlocks hlog

section
variable (c : Cluster) (a : Actor) (r : Request)

theorem answer_faults : (c.answer a r).1.faults = c.faults :=
  answer_eq (·.faults) (fun _ _ _ _ _ => rfl) (fun _ _ _ _ => rfl) (fun _ _ => rfl)
    (fun _ _ => rfl) (fun _ _ => rfl) (fun _ _ => rfl)

theorem answer_known : (c.answer a r).1.known = c.known :=
  answer_eq (·.known) (fun _ _ _ _ _ => rfl) (fun _ _ _ _ => rfl) (fun _ _ => rfl)
    (fun _ _ => rfl) (fun _ _ => rfl) (fun _ _ => rfl)

theorem answer_members : (c.answer a r).1.substrate.members = c.substrate.members :=
  answer_eq (·.substrate.members) (fun _ _ h _ _ => h) (fun _ _ _ _ => rfl) (fun _ _ => rfl)
    (fun _ _ => rfl) (fun _ _ => rfl) (fun _ _ => rfl)

theorem answer_owners : (c.answer a r).1.substrate.owners = c.substrate.owners :=
  answer_eq (·.substrate.owners) (fun _ _ _ h _ => h) (fun _ _ _ _ => rfl) (fun _ _ => rfl)
    (fun _ _ => rfl) (fun _ _ => rfl) (fun _ _ => rfl)

theorem answer_substrate_offline : (c.answer a r).1.substrate.offline = c.substrate.offline :=
  answer_eq (·.substrate.offline) (fun _ _ _ _ h => h) (fun _ _ _ _ => rfl) (fun _ _ => rfl)
    (fun _ _ => rfl) (fun _ _ => rfl) (fun _ _ => rfl)

theorem answer_index_offline : (c.answer a r).1.index.offline = c.index.offline :=
  answer_eq (·.index.offline) (fun _ _ _ _ _ => rfl) (fun _ _ _ h => h) (fun _ _ => rfl)
    (fun _ _ => rfl) (fun _ _ => rfl) (fun _ _ => rfl)

theorem answer_failing (id : NodeId) :
    ((c.answer a r).1.node id).runner.failing = (c.node id).runner.failing :=
  answer_eq (fun d => (d.node id).runner.failing) (fun _ _ _ _ _ => rfl) (fun _ _ _ _ => rfl)
    (fun _ _ => rfl) (fun _ h => node_setNode_of_eq (f := fun n => n.runner.failing) h.failing id)
    (fun _ _ => rfl) (fun _ _ => rfl)

variable {c a r}

theorem answer_substrate (h : .substrate ∉ r.parts) :
    (c.answer a r).1.substrate = c.substrate :=
  answer_eq (·.substrate) (fun h' => absurd h' h) (fun _ _ _ _ => rfl) (fun _ _ => rfl)
    (fun _ _ => rfl) (fun _ _ => rfl) (fun _ _ => rfl)

theorem answer_index (h : .index ∉ r.parts) : (c.answer a r).1.index = c.index :=
  answer_eq (·.index) (fun _ _ _ _ _ => rfl) (fun h' => absurd h' h) (fun _ _ => rfl)
    (fun _ _ => rfl) (fun _ _ => rfl) (fun _ _ => rfl)

theorem answer_store (h : .store ∉ r.parts) : (c.answer a r).1.store = c.store :=
  answer_eq (·.store) (fun _ _ _ _ _ => rfl) (fun _ _ _ _ => rfl) (fun h' => absurd h' h)
    (fun _ _ => rfl) (fun _ _ => rfl) (fun _ _ => rfl)

theorem answer_locks (h : .locks ∉ r.parts) : (c.answer a r).1.locks = c.locks :=
  answer_eq (·.locks) (fun _ _ _ _ _ => rfl) (fun _ _ _ _ => rfl) (fun _ _ => rfl)
    (fun _ _ => rfl) (fun h' => absurd h' h) (fun _ _ => rfl)

theorem answer_runner (h : .runner ∉ r.parts) (id : NodeId) :
    ((c.answer a r).1.node id).runner = (c.node id).runner :=
  answer_eq (fun d => (d.node id).runner) (fun _ _ _ _ _ => rfl) (fun _ _ _ _ => rfl)
    (fun _ _ => rfl) (fun _ hn => node_setNode_of_eq (f := (·.runner)) (hn.runner h) id)
    (fun _ _ => rfl) (fun _ _ => rfl)

theorem answer_status (h : .status ∉ r.parts) (id : NodeId) :
    ((c.answer a r).1.node id).status = (c.node id).status :=
  answer_eq (fun d => (d.node id).status) (fun _ _ _ _ _ => rfl) (fun _ _ _ _ => rfl)
    (fun _ _ => rfl) (fun _ hn => node_setNode_of_eq (f := (·.status)) (hn.status h) id)
    (fun _ _ => rfl) (fun _ _ => rfl)

theorem answer_node_of_ne {id : NodeId} (h : id ≠ a.node) : (c.answer a r).1.node id = c.node id :=
  answer_eq (·.node id) (fun _ _ _ _ _ => rfl) (fun _ _ _ _ => rfl) (fun _ _ => rfl)
    (fun _ _ => by rw [node_setNode, if_neg h]) (fun _ _ => rfl) (fun _ _ => rfl)

end

section
variable {c c' : Cluster} {a : Actor} {r : Request} {reply : Option r.Reply}
  (answered : c.answer a r = (c', reply))
include answered

theorem answered_index (h : .index ∉ r.parts) : c'.index = c.index := by
  rw [← answer_index (c := c) (a := a) h, answered]

theorem answered_locks (h : .locks ∉ r.parts) : c'.locks = c.locks := by
  rw [← answer_locks (c := c) (a := a) h, answered]

theorem answered_runner (h : .runner ∉ r.parts) (id : NodeId) :
    (c'.node id).runner = (c.node id).runner := by
  rw [← answer_runner (c := c) (a := a) h, answered]

theorem answered_status (h : .status ∉ r.parts) (id : NodeId) :
    (c'.node id).status = (c.node id).status := by
  rw [← answer_status (c := c) (a := a) h, answered]

end

/-! ## 4. The task index -/

/-- The index answers every question and takes every entry. -/
structure IndexAvailable (c : Cluster) : Prop where
  online : c.index.offline = false
  reads : ∀ key, c.faults.reason? .tasksOf key = none
  writes : ∀ key, c.faults.reason? .addTask key = none

theorem IndexAvailable.answer {c : Cluster} (h : c.IndexAvailable) (a : Actor) (r : Request) :
    (c.answer a r).1.IndexAvailable where
  online := (answer_index_offline c a r).trans h.online
  reads key := by rw [answer_faults]; exact h.reads key
  writes key := by rw [answer_faults]; exact h.writes key

theorem IndexAvailable.askTasks {c : Cluster} (h : c.IndexAvailable) (id : NodeId) :
    c.askTasks id = (c, .ok (c.index.tasks id)) := by
  rw [Cluster.askTasks, faulty_of_none (h.reads _), TaskIndex.askTasks, h.online]
  rfl

theorem IndexAvailable.addTask {c : Cluster} (h : c.IndexAvailable) (id : NodeId) (task : TaskId) :
    c.addTask id task = ({ c with index := (c.index.addTask id task).1 }, .ok ()) := by
  have reply : (c.index.addTask id task).2 = .ok () := by
    rw [TaskIndex.addTask, h.online]
    rfl
  rw [← reply]
  exact faulty_of_none (h.writes _)

/-- An index that is online records what it is told under that node and nowhere else. -/
theorem tasks_addTask {i : TaskIndex} (h : i.offline = false) (id id' : NodeId) (task : TaskId) :
    (i.addTask id task).1.tasks id' =
      if id' = id then (i.tasks id).insert task else i.tasks id' := by
  simp only [TaskIndex.addTask, h, Bool.false_eq_true, if_false, TaskIndex.tasks,
    OrderedMap.get?_put]
  split <;> rfl

/-! ## 5. Owners, attributes and runners -/

/-- What is said of an owner depends on faults, outages and owners only. -/
theorem askOwner_reply {c d : Cluster} (hf : d.faults = c.faults)
    (ho : d.substrate.offline = c.substrate.offline) (hs : d.substrate.owners = c.substrate.owners)
    (asker : NodeId) (task : TaskId) :
    (d.askOwner asker task).2 = (c.askOwner asker task).2 := by
  unfold askOwner faulty
  rw [hf]
  split
  · rfl
  · simp only [onSubstrate, Substrate.askOwner, Substrate.noting, ho, hs]

theorem answer_askOwner (c : Cluster) (a : Actor) (r : Request) (asker : NodeId) (task : TaskId) :
    ((c.answer a r).1.askOwner asker task).2 = (c.askOwner asker task).2 :=
  askOwner_reply (answer_faults c a r) (answer_substrate_offline c a r) (answer_owners c a r) _ _

/-- Whether something can be published depends on faults and outages only. -/
theorem publish_reply {c d : Cluster} (hf : d.faults = c.faults)
    (ho : d.substrate.offline = c.substrate.offline) (asker : NodeId) (key value : String) :
    (d.publish asker key value).2 = (c.publish asker key value).2 := by
  unfold publish faulty
  rw [hf]
  split
  · rfl
  · show (d.substrate.publish asker key value).2 = (c.substrate.publish asker key value).2
    rw [Substrate.publish_result, Substrate.publish_result, ho]

theorem publish_attribute {c c' : Cluster} {asker : NodeId} {key value : String}
    (h : c.publish asker key value = (c', .ok ())) (id : NodeId) (k : String) :
    c'.substrate.attribute? id k =
      if id = asker ∧ k = key then some value else c.substrate.attribute? id k := by
  unfold publish faulty at h
  split at h
  · cases h
  · unfold onSubstrate Substrate.publish at h
    dsimp only at h
    split at h
    · cases h
    · cases h
      exact Substrate.attribute?_setAttribute _ _ _ _ _ _

/-- Whether a task starts depends on faults and on the tasks that the runner fails. -/
theorem startTask_reply {c d : Cluster} {id : NodeId} (hf : d.faults = c.faults)
    (hr : (d.node id).runner.failing = (c.node id).runner.failing) (task : TaskId) :
    (d.startTask id task).2 = (c.startTask id task).2 := by
  unfold startTask faulty
  rw [hf]
  split
  · rfl
  · split
    · rfl
    · simp only [TaskRunner.start, hr]
      split <;> rfl

theorem answer_startTask (c : Cluster) (a : Actor) (r : Request) (id : NodeId) (task : TaskId) :
    ((c.answer a r).1.startTask id task).2 = (c.startTask id task).2 :=
  startTask_reply (answer_faults c a r) (answer_failing c a r id) _

theorem status_of_writeStatus {c c' : Cluster} {id : NodeId} {s previous : Status}
    (h : c.writeStatus id s = (c', previous)) : (c'.node id).status.status = s := by
  have hwrite : (c.writeStatus id s).1 = c' := congrArg Prod.fst h
  rw [← hwrite, writeStatus, node_setNode, if_pos rfl]
  rfl

/-- A task that was started is the last one started on its node; other nodes are as they were. -/
theorem startTask_ok {c c' : Cluster} {id : NodeId} {task : TaskId}
    (h : c.startTask id task = (c', .ok ())) (id' : NodeId) :
    (c'.node id').runner.started =
      if id' = id then (c.node id).runner.started.add task else (c.node id').runner.started := by
  unfold startTask faulty at h
  split at h
  · cases h
  · split at h
    · cases h
    · unfold TaskRunner.start at h
      dsimp only at h
      split at h
      · cases h
      · cases h
        rw [node_setNode]
        split <;> rfl

theorem startTask_error {c c' : Cluster} {id : NodeId} {task : TaskId} {e : StartError}
    (h : c.startTask id task = (c', .error e)) (id' : NodeId) :
    (c'.node id').runner.started = (c.node id').runner.started := by
  unfold startTask faulty at h
  split at h
  · cases h
    rfl
  · split at h
    · cases h
      rfl
    · unfold TaskRunner.start at h
      dsimp only at h
      split at h
      · cases h
        rw [node_setNode]
        split
        · next hid => rw [hid]
        · rfl
      · cases h

end Cluster

end ClusterKeeper
