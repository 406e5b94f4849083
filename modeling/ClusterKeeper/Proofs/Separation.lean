import ClusterKeeper.Proofs.Ledger
import ClusterKeeper.Proofs.Resumption.Conduct
import ClusterKeeper.Proofs.Tracing

/-!
# `Proofs/Separation.lean` — membership and status do not interfere

A node hears of members that come and go, and of the status attribute, in one stream of events. The
two concerns share the runner, the substrate and the lock table, and still neither can tell what the
other does. Each has a *side* of the cluster: the readings that its requests go into and come from
(`MembershipSide`, `StatusSide`). Requests of a concern are answered alike where its side is alike,
and leave it alike (`side_answer`); requests of the other leave it as it is (`side_answer_other`).
Runner and substrate are on both sides, but not with the same readings: tasks that are started do
not go into the counts, and members and owners do not into what is published.

Handlers make requests of their concern only. So of a stream of events each side shows what it shows
of the events of its concern alone (`handleAll_alone`). Attribute events with another key are of no
concern and change nothing but the log.
-/

set_option autoImplicit false

namespace ClusterKeeper

/-- What an event that matters is about. -/
inductive Concern
  | membership
  | status
  deriving DecidableEq

namespace Concern

def of? (settings : Settings) : MembershipEvent → Option Concern
  | .joined _ _ | .left _ => some membership
  | .attributeChanged _ key _ => if key = settings.statusAttribute then some status else none

/-- The requests that handlers of a concern make. -/
def Makes : Concern → Request → Prop
  | membership, .members | membership, .ownerOf _ | membership, .tasksOf _
  | membership, .addTask _ _ | membership, .loadRecord | membership, .addRecord _
  | membership, .updateRecord _ | membership, .startTask _ => True
  | status, .publish _ _ | status, .runningCount | status, .now | status, .sleep _
  | status, .readStatus | status, .writeStatus _ => True
  | _, .acquire _ | _, .release _ | _, .log _ => True
  | _, _ => False

end Concern

/-! ## 1. Sides -/

/-- What is published depends on what was, and on whether the substrate is up. -/
theorem Substrate.publish_congr {s s' : Substrate} (ho : s.offline = s'.offline)
    (ha : s.attributes = s'.attributes) (asker : NodeId) (key value : String) :
    ((s.publish asker key value).1.offline, (s.publish asker key value).1.attributes) =
      ((s'.publish asker key value).1.offline, (s'.publish asker key value).1.attributes) := by
  unfold publish noting setAttribute
  dsimp only
  rw [ho, ha]
  split <;> rfl

namespace TaskRunner

variable {r r' : TaskRunner}

/-- What is told of the start of a task depends on the tasks that fail. -/
theorem start_reply (h : r.failing = r'.failing) (task : TaskId) :
    (r.start task).2 = (r'.start task).2 := by
  unfold start
  dsimp only
  rw [h]
  split <;> rfl

theorem start_started (h : r.failing = r'.failing) (hs : r.started = r'.started) (task : TaskId) :
    (r.start task).1.started = (r'.start task).1.started := by
  unfold start
  dsimp only
  rw [h, hs]
  split <;> rfl

/-- What the runner will tell of the number of running tasks: the standing count, and the scripted
ones before it. -/
def counts (r : TaskRunner) : Nat × List Nat := (r.running, r.scripted)

theorem start_counts (r : TaskRunner) (task : TaskId) : (r.start task).1.counts = r.counts := by
  unfold start
  dsimp only
  split <;> rfl

theorem count_congr (h : r.counts = r'.counts) :
    r.count.2 = r'.count.2 ∧ r.count.1.counts = r'.count.1.counts := by
  obtain ⟨hrunning, hscripted⟩ := Prod.mk.inj h
  unfold count counts
  dsimp only
  rw [hrunning, hscripted]
  split <;> exact ⟨rfl, rfl⟩

end TaskRunner

/-- What the handling of arrivals and departures goes by, and what it leaves. -/
structure MembershipSide where
  faults : Faults
  offline : Bool
  members : List Member
  owners : OrderedMap TaskId NodeId
  index : TaskIndex
  store : RecordStore
  failing : List TaskId
  started : History TaskId

/-- What the handling of statuses goes by, and what it leaves. -/
structure StatusSide where
  faults : Faults
  offline : Bool
  attributes : OrderedMap NodeId (OrderedMap String String)
  clock : Clock
  cell : StatusCell
  countDelay : Duration
  counts : Nat × List Nat

@[reducible] def Concern.Side : Concern → Type
  | membership => MembershipSide
  | status => StatusSide

namespace Cluster

variable {α β : Type} {a : Actor} {c d : Cluster}

def membershipSide (c : Cluster) (id : NodeId) : MembershipSide where
  faults := c.faults
  offline := c.substrate.offline
  members := c.substrate.members
  owners := c.substrate.owners
  index := c.index
  store := c.store
  failing := (c.node id).runner.failing
  started := (c.node id).runner.started

def statusSide (c : Cluster) (id : NodeId) : StatusSide where
  faults := c.faults
  offline := c.substrate.offline
  attributes := c.substrate.attributes
  clock := (c.node id).clock
  cell := (c.node id).status
  countDelay := (c.node id).countDelay
  counts := (c.node id).runner.counts

/-- The side of a concern, as the node `id` has it. -/
def side (c : Cluster) (id : NodeId) : (k : Concern) → k.Side
  | .membership => c.membershipSide id
  | .status => c.statusSide id

/-- Two answers, or two runs, that come to the same as far as `f` shows. -/
structure Alike (f : Cluster → β) (x y : Cluster × α) : Prop where
  left : f x.1 = f y.1
  reply : x.2 = y.2

theorem Alike.replied {f : Cluster → β} {x y : Cluster × α} (h : Alike f x y) :
    Alike f (replied x) (replied y) :=
  ⟨h.left, congrArg some h.reply⟩

theorem Alike.faulty {ε : Type} {f : Cluster → β} {site : FaultSite} {key : String}
    {failure : String → ε} {ask ask' : Cluster × Except ε α} (h : Alike f ask ask')
    (hfaults : c.faults = d.faults) (hf : f c = f d) :
    Alike f (c.faulty site key failure ask) (d.faulty site key failure ask') := by
  rw [Cluster.faulty, Cluster.faulty, hfaults]
  cases d.faults.reason? site key with
  | some reason => exact ⟨hf, rfl⟩
  | none => exact h

/-! ### Requests of the concern -/

theorem membershipSide_start (c : Cluster) (id : NodeId) (task : TaskId) :
    (c.setNode id { c.node id with
        runner := ((c.node id).runner.start task).1 }).membershipSide id =
      { c.membershipSide id with started := ((c.node id).runner.start task).1.started } := by
  rw [membershipSide, node_setNode, if_pos rfl]
  simp only [TaskRunner.start_failing]
  rfl

theorem membershipSide_onStore (h : c.membershipSide a.node = d.membershipSide a.node)
    (ask : RecordStore → RecordStore × α) :
    Alike (·.membershipSide a.node) (c.onStore ask) (d.onStore ask) := by
  have hstore : c.store = d.store := congrArg MembershipSide.store h
  rw [onStore, onStore, hstore]
  exact ⟨congrArg (fun m : MembershipSide => { m with store := (ask d.store).1 }) h, rfl⟩

theorem membershipSide_answer (h : c.membershipSide a.node = d.membershipSide a.node) {r : Request}
    (hr : Concern.membership.Makes r) :
    Alike (·.membershipSide a.node) (c.answer a r) (d.answer a r) := by
  have hfaults : c.faults = d.faults := congrArg MembershipSide.faults h
  have hoffline : c.substrate.offline = d.substrate.offline := congrArg MembershipSide.offline h
  have hindex : c.index = d.index := congrArg MembershipSide.index h
  cases r with
  | members =>
    have hmembers : c.substrate.members = d.substrate.members := congrArg MembershipSide.members h
    refine .replied (.faulty ⟨h, ?_⟩ hfaults h)
    simp only [onSubstrate, Substrate.askMembers, hoffline, hmembers]
  | ownerOf task =>
    have howners : c.substrate.owners = d.substrate.owners := congrArg MembershipSide.owners h
    refine .replied (.faulty ⟨h, ?_⟩ hfaults h)
    simp only [onSubstrate, Substrate.askOwner, hoffline, howners]
  | tasksOf node =>
    rw [answer, answer, askTasks, askTasks, hindex]
    exact .replied (.faulty ⟨h, rfl⟩ hfaults h)
  | addTask node task =>
    rw [answer, answer, addTask, addTask, hindex]
    refine .replied (.faulty ⟨?_, rfl⟩ hfaults h)
    exact congrArg (fun m : MembershipSide => { m with index := (d.index.addTask node task).1 }) h
  | loadRecord | addRecord | updateRecord =>
    exact .replied (.faulty (membershipSide_onStore h _) hfaults h)
  | startTask task =>
    have hfailing : (c.node a.node).runner.failing = (d.node a.node).runner.failing :=
      congrArg MembershipSide.failing h
    have hstarted : (c.node a.node).runner.started = (d.node a.node).runner.started :=
      congrArg MembershipSide.started h
    have hreply := TaskRunner.start_reply hfailing task
    refine .replied (.faulty (.faulty ⟨?_, hreply⟩ hfaults h) hfaults h)
    have hside : { c.membershipSide a.node with
          started := ((c.node a.node).runner.start task).1.started } =
        { d.membershipSide a.node with
          started := ((d.node a.node).runner.start task).1.started } := by
      rw [TaskRunner.start_started hfailing hstarted, h]
    exact ((membershipSide_start c _ task).trans hside).trans (membershipSide_start d _ task).symm
  | acquire | release | log => exact ⟨h, rfl⟩
  | _ => exact hr.elim

theorem statusSide_setNode (c : Cluster) (id : NodeId) (n : Node) :
    (c.setNode id n).statusSide id = { c.statusSide id with
      clock := n.clock, cell := n.status, countDelay := n.countDelay
      counts := n.runner.counts } := by
  rw [statusSide, node_setNode, if_pos rfl]
  rfl

theorem statusSide_answer (h : c.statusSide a.node = d.statusSide a.node) {r : Request}
    (hr : Concern.status.Makes r) :
    Alike (·.statusSide a.node) (c.answer a r) (d.answer a r) := by
  have hclock : (c.node a.node).clock = (d.node a.node).clock := congrArg StatusSide.clock h
  have hcell : (c.node a.node).status = (d.node a.node).status := congrArg StatusSide.cell h
  have hdelay : (c.node a.node).countDelay = (d.node a.node).countDelay :=
    congrArg StatusSide.countDelay h
  have hcounts : (c.node a.node).runner.counts = (d.node a.node).runner.counts :=
    congrArg StatusSide.counts h
  cases r with
  | publish key value =>
    have hfaults : c.faults = d.faults := congrArg StatusSide.faults h
    have hoffline : c.substrate.offline = d.substrate.offline := congrArg StatusSide.offline h
    have hattributes : c.substrate.attributes = d.substrate.attributes :=
      congrArg StatusSide.attributes h
    refine .replied (.faulty ⟨?_, ?_⟩ hfaults h)
    · exact congrArg₂ (fun (m : StatusSide) (s : Bool × _) =>
          { m with offline := s.1, attributes := s.2 })
        h (Substrate.publish_congr hoffline hattributes a.node key value)
    · show (c.substrate.publish a.node key value).2 = (d.substrate.publish a.node key value).2
      rw [Substrate.publish_result, Substrate.publish_result, hoffline]
  | runningCount =>
    obtain ⟨hcount, hleft⟩ := TaskRunner.count_congr hcounts
    rw [answer, answer, askCount, askCount]
    dsimp only
    rw [hclock, hdelay]
    cases (d.node a.node).clock.advance? (d.node a.node).countDelay with
    | none => exact ⟨h, rfl⟩
    | some clock =>
      refine ⟨?_, congrArg some hcount⟩
      dsimp only
      rw [statusSide_setNode, statusSide_setNode, h, hcell, hleft]
  | now => exact ⟨h, congrArg some (congrArg Clock.now hclock)⟩
  | sleep span =>
    rw [answer, answer, sleep, sleep, hclock]
    refine ⟨?_, rfl⟩
    dsimp only
    rw [statusSide_setNode, statusSide_setNode, h, hcell, hdelay, hcounts]
  | readStatus => exact ⟨h, congrArg some (congrArg StatusCell.status hcell)⟩
  | writeStatus s =>
    have hprevious : (c.writeStatus a.node s).2 = (d.writeStatus a.node s).2 :=
      congrArg StatusCell.status hcell
    refine .replied ⟨?_, hprevious⟩
    rw [writeStatus, writeStatus]
    dsimp only
    rw [statusSide_setNode, statusSide_setNode, h, hcell, hclock, hdelay, hcounts]
  | acquire | release | log => exact ⟨h, rfl⟩
  | _ => exact hr.elim

/-! ### Requests of the other one -/

theorem membershipSide_answer_other {r : Request} (hr : Concern.status.Makes r) :
    (c.answer a r).1.membershipSide a.node = c.membershipSide a.node := by
  have hparts : .index ∉ r.parts ∧ .store ∉ r.parts ∧ ∀ task, r ≠ .startTask task := by
    cases r <;> simp_all [Concern.Makes, Request.parts]
  obtain ⟨hindex, hstore, hstart⟩ := hparts
  simp only [membershipSide, answer_faults, answer_substrate_offline, answer_members, answer_owners,
    answer_index hindex, answer_store hstore, answer_failing, started_of_not_start hstart]

/-- Asking about members and owners is noted, and changes nothing that is published. -/
theorem attributes_of_not_publish {r : Request} (hr : ∀ key value, r ≠ .publish key value) :
    (c.answer a r).1.substrate.attributes = c.substrate.attributes := by
  cases r with
  | members => exact faulty_fst (P := fun d => d.substrate.attributes = _) rfl rfl
  | ownerOf task => exact faulty_fst (P := fun d => d.substrate.attributes = _) rfl rfl
  | publish key value => exact absurd rfl (hr key value)
  | _ => rw [answer_substrate (by simp [Request.parts])]

/-- Starting tasks does not go into the counts. -/
theorem counts_of_not_count {r : Request} (hr : r ≠ .runningCount) :
    ((c.answer a r).1.node a.node).runner.counts = (c.node a.node).runner.counts := by
  cases r with
  | runningCount => exact absurd rfl hr
  | startTask task =>
    apply faulty_fst (P := fun d => (d.node a.node).runner.counts = _) rfl
    apply faulty_fst (P := fun d => (d.node a.node).runner.counts = _) rfl
    rw [node_setNode, if_pos rfl]
    exact TaskRunner.start_counts _ task
  | _ => rw [answer_runner (by simp [Request.parts])]

theorem statusSide_answer_other {r : Request} (hr : Concern.membership.Makes r) :
    (c.answer a r).1.statusSide a.node = c.statusSide a.node := by
  have hparts : .clock ∉ r.parts ∧ .status ∉ r.parts ∧ r ≠ .runningCount ∧
      ∀ key value, r ≠ .publish key value := by
    cases r <;> simp_all [Concern.Makes, Request.parts]
  obtain ⟨hclock, hstatus, hcount, hpublish⟩ := hparts
  have hnode := (kept_answer c a r).node
  simp only [statusSide, answer_faults, answer_substrate_offline,
    attributes_of_not_publish hpublish, hnode.clock hclock, hnode.status hstatus,
    hnode.countDelay, counts_of_not_count hcount]

/-! ### Requests -/

/-- A request of a concern is answered alike where its side is alike, and leaves it alike. -/
theorem side_answer {k : Concern} (h : c.side a.node k = d.side a.node k) {r : Request}
    (hr : k.Makes r) : Alike (·.side a.node k) (c.answer a r) (d.answer a r) := by
  cases k with
  | membership => exact membershipSide_answer h hr
  | status => exact statusSide_answer h hr

/-- A request of one concern leaves the side of the other as it is. -/
theorem side_answer_other {k l : Concern} (hkl : k ≠ l) {r : Request} (hr : l.Makes r) :
    (c.answer a r).1.side a.node k = c.side a.node k := by
  cases k with
  | membership =>
    cases l with
    | membership => exact absurd rfl hkl
    | status => exact membershipSide_answer_other hr
  | status =>
    cases l with
    | membership => exact statusSide_answer_other hr
    | status => exact absurd rfl hkl

/-! ## 2. Activities -/

variable {k l : Concern}

theorem side_run {p : Handler α} (hp : p.Asks k.Makes) (h : c.side a.node k = d.side a.node k) :
    Alike (·.side a.node k) (run a p c) (run a p d) := by
  induction p generalizing c d with
  | done x => exact ⟨h, rfl⟩
  | ask r next ih =>
    have hanswer := side_answer h hp.1
    cases hc : c.answer a r with
    | mk c' reply =>
      cases hd : d.answer a r with
      | mk d' reply' =>
        rw [hc, hd] at hanswer
        obtain ⟨hleft, rfl⟩ := hanswer
        cases reply with
        | none =>
          rw [run_ask_none hc, run_ask_none hd]
          exact ⟨hleft, rfl⟩
        | some reply =>
          rw [run_ask_some hc, run_ask_some hd]
          exact ih reply (hp.2 reply) hleft

theorem side_run_other (hkl : k ≠ l) {p : Handler α} (hp : p.Asks l.Makes) :
    (run a p c).1.side a.node k = c.side a.node k := by
  refine run_keeps (P := fun d => d.side a.node k = c.side a.node k) ?_ hp rfl
  intro d r hr hd
  exact (side_answer_other hkl hr).trans hd

end Cluster

/-! ### Handlers ask for what concerns them -/

namespace Handler

theorem makes_log (k : Concern) (x : LogRecord) : k.Makes (.log x) := by
  cases k <;> trivial

theorem log_makes {α : Type} {k : Concern} {level : LogLevel} {message : String}
    {fields : LogFields} {f : Unit → Handler α} (hf : (f ()).Asks k.Makes) :
    (log level message fields >>= f).Asks k.Makes :=
  .request (makes_log k _) fun _ => hf

theorem inSpan_makes {α : Type} {k : Concern} {span : LogSpan} {body : Handler α}
    (h : body.Asks k.Makes) : (inSpan span body).Asks k.Makes := by
  refine h.interpret fun r hr => ?_
  cases r with
  | log x => exact ⟨makes_log k _, fun _ => trivial⟩
  | _ => exact ⟨hr, fun _ => trivial⟩

theorem logOutcome_makes {ε : Type} {k : Concern} (message : ε → String) (well badly : String)
    (result : Except ε Unit) :
    (logOutcome message well badly result >>= fun _ => pure result).Asks k.Makes := by
  cases result <;> exact log_makes trivial

theorem tracedRequest_makes {k : Concern} {r : Request} (hr : k.Makes r) :
    (tracedRequest r).Asks k.Makes := by
  cases r with
  | runningCount => exact .request hr fun count => log_makes trivial
  | loadRecord => exact .request hr fun result => log_makes trivial
  | startTask task =>
    refine inSpan_makes (log_makes (.request hr fun result => ?_))
    exact logOutcome_makes _ _ _ result
  | addRecord x => exact inSpan_makes (.request hr fun result => logOutcome_makes _ _ _ result)
  | updateRecord x => exact inSpan_makes (.request hr fun result => logOutcome_makes _ _ _ result)
  | _ => exact ⟨hr, fun _ => trivial⟩

theorem memberJoined_makes (joined : Member) (members : List Member) :
    (memberJoined joined members).run.Asks Concern.membership.Makes := by
  refine (memberJoined_asks joined members).mono ?_
  intro r hr
  cases r <;> trivial

theorem memberLeft_makes (here : NodeId) (departed : Member) :
    (memberLeft here departed).run.Asks Concern.membership.Makes := by
  have htasks : (resumeTasks here departed).run.Asks Concern.membership.Makes := by
    refine (resumeTasks_follows here departed).asks Request.reply_nonempty ?_
    intro b r reply b' hr
    cases hr <;> trivial
  have hhost : (forgetHost departed).run.Asks Concern.membership.Makes := by
    refine (forgetHost_asks departed).mono ?_
    intro r hr
    cases r <;> trivial
  exact log_makes (htasks.bind fun resumed => hhost.bind fun forgotten => trivial)

theorem statusPublished_makes (settings : Settings) (value : String) :
    (statusPublished settings value).run.Asks Concern.status.Makes := by
  cases hvalue : Status.ofText? value with
  | none =>
    rw [run_statusPublished, hvalue]
    trivial
  | some target =>
    refine (statusPublished_follows settings hvalue).asks Request.reply_nonempty ?_
    intro p r reply p' hr
    cases hr with
    | poll hpolls => cases r <;> trivial
    | _ => trivial

/-- What a node does about an event of a concern makes requests of that concern only. -/
theorem membershipEvent_makes {k : Concern} (tracing : Tracing) (here : NodeId)
    (settings : Settings) {e : MembershipEvent} (he : Concern.of? settings e = some k) :
    (membershipEvent tracing here settings e).Asks k.Makes := by
  have hdispatch : (dispatch here settings e).run.Asks k.Makes := by
    cases e with
    | joined member members =>
      cases he
      exact memberJoined_makes member members
    | left member =>
      cases he
      exact memberLeft_makes here member
    | attributeChanged member key value =>
      rw [Concern.of?] at he
      split at he
      · next hkey =>
        cases he
        subst hkey
        rw [dispatch, run_attributeChanged]
        exact log_makes (statusPublished_makes settings value)
      · cases he
  refine inSpan_makes ?_
  cases tracing with
  | on => exact hdispatch.interpret fun r hr => tracedRequest_makes hr
  | off => exact hdispatch

end Handler

/-! ## 3. Events one after another -/

namespace Cluster

/-- An event, and what came of it; nothing, if the clock stopped the node. -/
abbrev Handling : Type := MembershipEvent × Option (Except HandlerError (List ClusterEvent))

/-- A node handles events one after another. -/
def handleAll (a : Actor) (tracing : Handler.Tracing) (settings : Settings) :
    List MembershipEvent → Cluster → Cluster × List Handling
  | [], c => (c, [])
  | e :: es, c =>
    let (c, result) := run a (Handler.membershipEvent tracing a.node settings e) c
    let (c, rest) := handleAll a tracing settings es c
    (c, (e, result) :: rest)

variable {a : Actor} {tracing : Handler.Tracing} {settings : Settings} {c d : Cluster} {k : Concern}

def about (settings : Settings) (k : Concern) (e : MembershipEvent) : Bool :=
  Concern.of? settings e = some k

/-- The results of the events of a concern. -/
def resultsOf (settings : Settings) (k : Concern) (results : List Handling) : List Handling :=
  results.filter fun h => about settings k h.1

theorem handleAll_cons (e : MembershipEvent) (es : List MembershipEvent) (c : Cluster) :
    handleAll a tracing settings (e :: es) c =
      ((handleAll a tracing settings es
          (run a (Handler.membershipEvent tracing a.node settings e) c).1).1,
        (e, (run a (Handler.membershipEvent tracing a.node settings e) c).2) ::
          (handleAll a tracing settings es
            (run a (Handler.membershipEvent tracing a.node settings e) c).1).2) := rfl

theorem handleAll_append (es more : List MembershipEvent) (c : Cluster) :
    handleAll a tracing settings (es ++ more) c =
      ((handleAll a tracing settings more (handleAll a tracing settings es c).1).1,
        (handleAll a tracing settings es c).2 ++
          (handleAll a tracing settings more (handleAll a tracing settings es c).1).2) := by
  induction es generalizing c with
  | nil => rfl
  | cons e es ih =>
    rw [List.cons_append, handleAll_cons, ih, handleAll_cons]
    rfl

/-- An event of no concern makes a log record, and no more. -/
theorem run_unconcerned {e : MembershipEvent} (he : Concern.of? settings e = none) (c : Cluster) :
    quietly (run a (Handler.membershipEvent tracing a.node settings e) c) =
      (c.unlogged, some (.ok [])) := by
  have hdispatch : quietly (run a (Handler.dispatch a.node settings e).run c) =
      (c.unlogged, some (.ok [])) := by
    cases e with
    | joined | left => cases he
    | attributeChanged member key value =>
      rw [Concern.of?] at he
      split at he
      · cases he
      · next hkey =>
        rw [Handler.dispatch, Handler.attributeChanged, Handler.run_lift_bind]
        refine quietly_log_bind.trans ?_
        rw [if_pos hkey, Handler.run_lift_bind]
        exact quietly_log_bind
  have htraced : quietly (run a (tracing.apply (Handler.dispatch a.node settings e).run) c) =
      (c.unlogged, some (.ok [])) := by
    cases tracing with
    | on => exact (run_interpret faithful_traced rfl _).trans hdispatch
    | off => exact hdispatch
  exact (quietly_inSpan _ _ c).trans htraced

/-- The log is on nobody's side. -/
theorem side_of_unlogged (h : c.unlogged = d.unlogged) (id : NodeId) (k : Concern) :
    c.side id k = d.side id k := by
  have hside : c.unlogged.side id k = d.unlogged.side id k := by rw [h]
  cases k <;> exact hside

/-- Events that are not about a concern leave its side as it is. -/
theorem side_unconcerned {e : MembershipEvent} (he : about settings k e = false) (c : Cluster) :
    (run a (Handler.membershipEvent tracing a.node settings e) c).1.side a.node k =
      c.side a.node k := by
  cases hof : Concern.of? settings e with
  | none =>
    apply side_of_unlogged
    exact congrArg Prod.fst (run_unconcerned hof c)
  | some l =>
    have hkl : k ≠ l := by
      rintro rfl
      simp [about, hof] at he
    exact side_run_other hkl (Handler.membershipEvent_makes tracing a.node settings hof)

/-- Of a stream of events, each side shows what it shows of the events of its concern alone. -/
theorem handleAll_alone (es : List MembershipEvent) (h : c.side a.node k = d.side a.node k) :
    (handleAll a tracing settings es c).1.side a.node k =
        (handleAll a tracing settings (es.filter (about settings k)) d).1.side a.node k ∧
      resultsOf settings k (handleAll a tracing settings es c).2 =
        (handleAll a tracing settings (es.filter (about settings k)) d).2 := by
  -- The two runs come to the same side; only the first has the other events between.
  induction es generalizing c d with
  | nil => exact ⟨h, rfl⟩
  | cons e es ih =>
    rw [handleAll_cons, resultsOf, List.filter_cons, List.filter_cons]
    cases he : about settings k e with
    | false =>
      simp only [Bool.false_eq_true, if_false]
      exact ih ((side_unconcerned he c).trans h)
    | true =>
      have hof : Concern.of? settings e = some k := by simpa [about] using he
      have hrun := side_run (Handler.membershipEvent_makes tracing a.node settings hof) h
      obtain ⟨hside, hresults⟩ := ih hrun.left
      simp only [if_true]
      rw [handleAll_cons, hrun.reply]
      exact ⟨hside, congrArg _ hresults⟩

/-- Streams of events from clusters alike but for their logs. -/
theorem handleAll_congr (es : List MembershipEvent) (h : c.unlogged = d.unlogged) :
    quietly (handleAll a tracing settings es c) = quietly (handleAll a tracing settings es d) := by
  induction es generalizing c d with
  | nil => exact Prod.ext h rfl
  | cons e es ih =>
    have hrun := run_congr (a := a) h (Handler.membershipEvent tracing a.node settings e)
    have hrest := ih (fst_of_quietly hrun)
    have hleft := fst_of_quietly hrest
    have hresults := snd_of_quietly hrest
    rw [handleAll_cons, handleAll_cons, snd_of_quietly hrun, hresults]
    exact Prod.ext hleft rfl

/-- An event of no concern may come or not come: it makes a difference to the log, and to nothing
before or after it. -/
theorem handleAll_inserted {e : MembershipEvent} (he : Concern.of? settings e = none)
    (before after : List MembershipEvent) (c : Cluster) :
    ∃ rest, (handleAll a tracing settings (before ++ after) c).2 =
        (handleAll a tracing settings before c).2 ++ rest ∧
      (handleAll a tracing settings (before ++ e :: after) c).2 =
        (handleAll a tracing settings before c).2 ++ (e, some (.ok [])) :: rest ∧
      (handleAll a tracing settings (before ++ e :: after) c).1.unlogged =
        (handleAll a tracing settings (before ++ after) c).1.unlogged := by
  have hrun : quietly (run a (Handler.membershipEvent tracing a.node settings e)
      (handleAll a tracing settings before c).1) =
      ((handleAll a tracing settings before c).1.unlogged, some (.ok [])) := run_unconcerned he _
  have hresult : (run a (Handler.membershipEvent tracing a.node settings e)
      (handleAll a tracing settings before c).1).2 = some (.ok []) := congrArg Prod.snd hrun
  have hafter : quietly (handleAll a tracing settings after
      (run a (Handler.membershipEvent tracing a.node settings e)
        (handleAll a tracing settings before c).1).1) =
      quietly (handleAll a tracing settings after (handleAll a tracing settings before c).1) :=
    handleAll_congr after (congrArg Prod.fst hrun)
  have hleft := fst_of_quietly hafter
  rw [handleAll_append, handleAll_append, handleAll_cons, hresult, snd_of_quietly hafter]
  exact ⟨_, rfl, rfl, hleft⟩

/-- Membership and status do not interfere. Results and side of each are those of its own events
alone, attribute events with another key may be left out anywhere, and two streams with the same
events of each concern come to the same, however they are interleaved. -/
theorem concerns_separate (a : Actor) (tracing : Handler.Tracing) (settings : Settings)
    (c : Cluster) (es : List MembershipEvent) :
    (∀ k, (handleAll a tracing settings es c).1.side a.node k =
        (handleAll a tracing settings (es.filter (about settings k)) c).1.side a.node k ∧
      resultsOf settings k (handleAll a tracing settings es c).2 =
        (handleAll a tracing settings (es.filter (about settings k)) c).2) ∧
    (∀ before after member key value, es = before ++ after → key ≠ settings.statusAttribute →
      ∃ rest, (handleAll a tracing settings es c).2 =
          (handleAll a tracing settings before c).2 ++ rest ∧
        (handleAll a tracing settings (before ++ .attributeChanged member key value :: after) c).2 =
          (handleAll a tracing settings before c).2 ++
            (.attributeChanged member key value, some (.ok [])) :: rest ∧
        (handleAll a tracing settings
            (before ++ .attributeChanged member key value :: after) c).1.unlogged =
          (handleAll a tracing settings es c).1.unlogged) ∧
    ∀ es', (∀ k, es'.filter (about settings k) = es.filter (about settings k)) → ∀ k,
      (handleAll a tracing settings es' c).1.side a.node k =
        (handleAll a tracing settings es c).1.side a.node k ∧
      resultsOf settings k (handleAll a tracing settings es' c).2 =
        resultsOf settings k (handleAll a tracing settings es c).2 := by
  have halone : ∀ es k, (handleAll a tracing settings es c).1.side a.node k =
        (handleAll a tracing settings (es.filter (about settings k)) c).1.side a.node k ∧
      resultsOf settings k (handleAll a tracing settings es c).2 =
        (handleAll a tracing settings (es.filter (about settings k)) c).2 := by
    intro es k
    exact handleAll_alone es rfl
  refine ⟨halone es, ?_, ?_⟩
  · intro before after member key value hes hkey
    subst hes
    have hof : Concern.of? settings (.attributeChanged member key value) = none := if_neg hkey
    exact handleAll_inserted hof before after c
  · intro es' hsame k
    obtain ⟨hside, hresults⟩ := halone es k
    obtain ⟨hside', hresults'⟩ := halone es' k
    rw [hsame k] at hside' hresults'
    exact ⟨hside'.trans hside.symm, hresults'.trans hresults.symm⟩

/-- A node that owns a task of another one. -/
def successor : Cluster :=
  let c := (Cluster.empty default "node-tasks" default).start ⟨⟨"a"⟩, ⟨"hA"⟩⟩ .active
  { c with
    index := c.index.assign ⟨"b"⟩ [⟨"t-1"⟩]
    substrate := c.substrate.setOwner ⟨"t-1"⟩ ⟨"a"⟩ }

/-- The other node leaves and this one is told to pause, in either order, with word of a rack
between. -/
theorem departure_and_pause :
    (∀ k, (handleAll ⟨⟨"a"⟩, 0, 0⟩ .on default
        [.left ⟨⟨"b"⟩, ⟨"hB"⟩⟩, .attributeChanged ⟨⟨"a"⟩, ⟨"hA"⟩⟩ "node.status" "PAUSE"]
        successor).1.side ⟨"a"⟩ k =
      (handleAll ⟨⟨"a"⟩, 0, 0⟩ .on default
        [.attributeChanged ⟨⟨"a"⟩, ⟨"hA"⟩⟩ "node.status" "PAUSE",
          .attributeChanged ⟨⟨"a"⟩, ⟨"hA"⟩⟩ "rack" "r1", .left ⟨⟨"b"⟩, ⟨"hB"⟩⟩]
        successor).1.side ⟨"a"⟩ k) ∧
    ((handleAll ⟨⟨"a"⟩, 0, 0⟩ .on default
        [.left ⟨⟨"b"⟩, ⟨"hB"⟩⟩, .attributeChanged ⟨⟨"a"⟩, ⟨"hA"⟩⟩ "node.status" "PAUSE"]
        successor).1.node ⟨"a"⟩).runner.started.toList = [⟨"t-1"⟩] := by
  have hseparate := concerns_separate ⟨⟨"a"⟩, 0, 0⟩ .on default successor
    [.attributeChanged ⟨⟨"a"⟩, ⟨"hA"⟩⟩ "node.status" "PAUSE",
      .attributeChanged ⟨⟨"a"⟩, ⟨"hA"⟩⟩ "rack" "r1", .left ⟨⟨"b"⟩, ⟨"hB"⟩⟩]
  refine ⟨?_, by decide⟩
  intro k
  refine (hseparate.2.2 [.left ⟨⟨"b"⟩, ⟨"hB"⟩⟩,
    .attributeChanged ⟨⟨"a"⟩, ⟨"hA"⟩⟩ "node.status" "PAUSE"] ?_ k).1
  intro l
  cases l <;> decide

end Cluster

end ClusterKeeper
