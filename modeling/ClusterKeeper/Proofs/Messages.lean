import ClusterKeeper.Handler.Membership
import ClusterKeeper.Proofs.Status.Conduct

/-!
# `Proofs/Messages.lean` — what the handlers log

Every log record has a level and a message, and of each handler they can be listed: whatever it is
answered, what it logs is of these kinds (`Handler.Says`). `engineKinds` are those of all that a
node does about membership events; what tracing adds is of other kinds.
-/

set_option autoImplicit false

namespace ClusterKeeper

/-- Level and message of log records. -/
abbrev LogKind := LogLevel × String

def LogRecord.kind (x : LogRecord) : LogKind := (x.level, x.message)

namespace Handler

def arrivalKinds : List LogKind :=
  [(.debug, "member joined the cluster"), (.info, "cluster hosts recorded")]

def taskKinds : List LogKind :=
  [(.debug, "departed node had no tasks"),
    (.info, "tasks are candidates for re-trigger, node left the cluster"),
    (.debug, "partition owned by another node"), (.debug, "partition has no owner yet"),
    (.error, "partition owner lookup failed"), (.debug, "task already running on this node"),
    (.info, "triggering task, partition owned here"), (.error, "failed to re-trigger task")]

def hostKinds : List LogKind :=
  [(.debug, "host still has live members"), (.info, "cluster host removed")]

def departureKinds : List LogKind := (.debug, "member left the cluster") :: (taskKinds ++ hostKinds)

def statusKinds : List LogKind :=
  [(.info, "node status changed"), (.info, "waiting for running tasks to complete"),
    (.info, "running tasks drained"), (.warn, "drain budget exhausted, tasks still running")]

def attributeKinds : List LogKind :=
  (.info, "member attribute modified") :: (.debug, "not the status attribute, ignoring") ::
    statusKinds

def engineKinds : List LogKind := arrivalKinds ++ departureKinds ++ attributeKinds

/-- A request that logs, if at all, a record of one of these kinds. -/
def Says (kinds : List LogKind) : Request → Prop
  | .log x => x.kind ∈ kinds
  | _ => True

variable {α β ε : Type} {kinds more : List LogKind}

theorem Says.mono (h : kinds ⊆ more) {r : Request} (hr : Says kinds r) : Says more r := by
  cases r with
  | log x => exact h hr
  | _ => trivial

theorem says_log {level : LogLevel} {message : String} {fields : LogFields} {f : Unit → Handler α}
    (h : (level, message) ∈ kinds) (hf : (f ()).Asks (Says kinds)) :
    (log level message fields >>= f).Asks (Says kinds) := .request h fun _ => hf

theorem says_lift {h : Handler α} {f : α → Attempt β} (hh : h.Asks (Says kinds))
    (hf : ∀ x, (f x).run.Asks (Says kinds)) :
    ((liftM h : Attempt α) >>= f).run.Asks (Says kinds) := by
  rw [run_lift_bind]
  exact hh.bind hf

theorem says_orFail {cause : ε → HandlerError} {body : Handler (Except ε α)}
    {f : α → Attempt β} (hbody : body.Asks (Says kinds)) (hf : ∀ x, (f x).run.Asks (Says kinds)) :
    (orFail cause body >>= f).run.Asks (Says kinds) := by
  rw [run_orFail_bind]
  refine hbody.bind fun result => ?_
  cases result with
  | ok x => exact hf x
  | error e => trivial

theorem says_holding {lock : LockName} {body : Handler α} (h : body.Asks (Says kinds)) :
    (holding lock body).Asks (Says kinds) :=
  .request trivial fun _ => h.bind fun _ => .request trivial fun _ => trivial

theorem Says.of_polls {r : Request} (h : Transition.Polls r) : Says kinds r := by
  cases r <;> trivial

/-! ## 1. Arrivals and departures -/

theorem memberJoined_kinds (joined : Member) (members : List Member) :
    (memberJoined joined members).run.Asks (Says arrivalKinds) := by
  refine says_lift ⟨.head _, fun _ => trivial⟩ fun _ => ?_
  refine says_orFail ⟨trivial, fun _ => trivial⟩ fun stored => ?_
  generalize (stored.getD .empty).absorb (hostsOf members).toList = absorbed
  obtain ⟨record, added⟩ := absorbed
  refine says_orFail ⟨trivial, fun _ => trivial⟩ fun _ => ?_
  split
  · trivial
  · exact says_log (by decide) trivial

theorem isOwnedHere_kinds (here : NodeId) (task : TaskId) :
    (isOwnedHere here task).Asks (Says taskKinds) := by
  refine .request trivial fun owner => ?_
  match owner with
  | .error e => exact says_log (by decide) trivial
  | .ok none => exact says_log (by decide) trivial
  | .ok (some owner) =>
    dsimp only
    split
    · trivial
    · exact says_log (by decide) trivial

theorem resume_kinds (here : NodeId) (task : TaskId) :
    (resume here task).Asks (Says kinds) := by
  refine .request trivial fun started => ?_
  cases started with
  | error cause => trivial
  | ok _ =>
    refine .request trivial fun recorded => ?_
    cases recorded <;> trivial

theorem resumeOwned_kinds (here : NodeId) (task : TaskId) :
    (resumeOwned here task).Asks (Says taskKinds) := by
  refine says_log (by decide) ((resume_kinds here task).bind fun result => ?_)
  cases result with
  | ok _ => trivial
  | error e => exact says_log (by decide) trivial

theorem resumeOne_kinds (here : NodeId) (known : OrderedSet TaskId) (task : TaskId) :
    (resumeOne here known task).Asks (Says taskKinds) := by
  refine (isOwnedHere_kinds here task).bind fun owned => ?_
  match owned with
  | .error reason => trivial
  | .ok false => trivial
  | .ok true =>
    dsimp only
    split
    · exact says_log (by decide) trivial
    · exact (resumeOwned_kinds here task).bind fun _ => trivial

theorem resumeEach_kinds (here : NodeId) (known : OrderedSet TaskId) (tasks : List TaskId) :
    (resumeEach here known tasks).Asks (Says taskKinds) := by
  induction tasks with
  | nil => trivial
  | cons task tasks ih =>
    exact (resumeOne_kinds here known task).bind fun _ => ih.bind fun _ => trivial

theorem resumeTasks_kinds (here : NodeId) (departed : Member) :
    (resumeTasks here departed).run.Asks (Says taskKinds) := by
  refine says_orFail ⟨trivial, fun _ => trivial⟩ fun tasks => ?_
  split
  · exact says_log (by decide) trivial
  · refine says_log (by decide) (says_holding ?_)
    refine says_orFail ⟨trivial, fun _ => trivial⟩ fun known => ?_
    exact (resumeEach_kinds here known tasks.toList).bind fun _ => trivial

theorem forgetHost_kinds (departed : Member) :
    (forgetHost departed).run.Asks (Says hostKinds) := by
  refine says_orFail ⟨trivial, fun _ => trivial⟩ fun members => ?_
  split
  · exact says_log (by decide) trivial
  · refine says_orFail ⟨trivial, fun _ => trivial⟩ fun stored => ?_
    cases stored with
    | none => trivial
    | some stored =>
      dsimp only
      split
      · trivial
      · refine says_orFail ⟨trivial, fun _ => trivial⟩ fun _ => ?_
        exact says_log (by decide) trivial

theorem memberLeft_kinds (here : NodeId) (departed : Member) :
    (memberLeft here departed).run.Asks (Says departureKinds) := by
  have htasks : taskKinds ⊆ departureKinds :=
    fun _ hk => .tail _ (List.mem_append_left _ hk)
  have hhosts : hostKinds ⊆ departureKinds :=
    fun _ hk => .tail _ (List.mem_append_right _ hk)
  refine says_log (.head _) (Program.Asks.bind ?_ fun _ => ?_)
  · exact (resumeTasks_kinds here departed).mono fun _ => .mono htasks
  · exact ((forgetHost_kinds departed).mono fun _ => .mono hhosts).bind fun _ => trivial

/-! ## 2. Statuses -/

theorem setLocal_kinds (s : Status) : (setLocal s).Asks (Says statusKinds) := by
  refine .request trivial fun previous => ?_
  split
  · trivial
  · exact says_log (by decide) trivial

theorem drain_kinds (settings : Settings) : (drain settings).Asks (Says statusKinds) := by
  refine says_log (by decide) (.request trivial fun start => ?_)
  refine ((await_polls _ _).mono fun _ => .of_polls).bind fun seen => ?_
  refine .request trivial fun finish => ?_
  split
  · exact says_log (by decide) trivial
  · exact says_log (by decide) trivial

theorem enterMaintenance_kinds (settings : Settings) :
    (enterMaintenance settings).run.Asks (Says statusKinds) := by
  refine says_lift (setLocal_kinds .pause) fun paused => ?_
  refine says_lift (drain_kinds settings) fun drained => ?_
  refine says_lift (setLocal_kinds .maintenance) fun entered => ?_
  exact says_orFail ⟨trivial, fun _ => trivial⟩ fun _ => trivial

theorem takeOn_kinds (settings : Settings) (target : Status) :
    (takeOn settings target).run.Asks (Says statusKinds) := by
  refine says_lift ⟨trivial, fun _ => trivial⟩ fun current => ?_
  split
  · exact enterMaintenance_kinds settings
  · refine says_lift (setLocal_kinds target) fun events => ?_
    exact says_orFail ⟨trivial, fun _ => trivial⟩ fun _ => trivial

theorem statusPublished_kinds (settings : Settings) (value : String) :
    (statusPublished settings value).run.Asks (Says statusKinds) := by
  rw [statusPublished]
  cases Status.ofText? value with
  | none => trivial
  | some target => exact says_holding (takeOn_kinds settings target)

theorem attributeChanged_kinds (settings : Settings) (member : Member) (key value : String) :
    (attributeChanged settings member key value).run.Asks (Says attributeKinds) := by
  have hstatus : statusKinds ⊆ attributeKinds := fun _ hk => .tail _ (.tail _ hk)
  refine says_lift ⟨.head _, fun _ => trivial⟩ fun _ => ?_
  split
  · exact says_lift ⟨.tail _ (.head _), fun _ => trivial⟩ fun _ => trivial
  · exact (statusPublished_kinds settings value).mono fun _ => .mono hstatus

/-! ## 3. Events -/

theorem dispatch_kinds (here : NodeId) (settings : Settings) (e : MembershipEvent) :
    (dispatch here settings e).run.Asks (Says engineKinds) := by
  have harrival : arrivalKinds ⊆ engineKinds :=
    fun _ hk => List.mem_append_left _ (List.mem_append_left _ hk)
  have hdeparture : departureKinds ⊆ engineKinds :=
    fun _ hk => List.mem_append_left _ (List.mem_append_right _ hk)
  have hattribute : attributeKinds ⊆ engineKinds :=
    fun _ hk => List.mem_append_right _ hk
  cases e with
  | joined member members => exact (memberJoined_kinds member members).mono fun _ => .mono harrival
  | left member => exact (memberLeft_kinds here member).mono fun _ => .mono hdeparture
  | attributeChanged member key value =>
    exact (attributeChanged_kinds settings member key value).mono fun _ => .mono hattribute

end Handler

end ClusterKeeper
