import ClusterKeeper.Proofs.Departure.Outcome
import ClusterKeeper.Proofs.Environment
import ClusterKeeper.Proofs.Messages

/-!
# `Proofs/Departure/Records.lean` — what the log says of a departure

A task of a departed node is lost if its owner cannot be found out, or if it is to be resumed and
that fails. Where the handler fails later its events are dropped, and the log is the only thing that
tells of lost tasks. So it has to be complete: the records of level `error` are those of the lost
tasks, one for each and no other, in the order in which the tasks were decided on (`Accounted`).

Which tasks are lost is read off the exchanges: a lookup, a start or a recording that was refused.
So nothing is assumed of what index, substrate, runner and store reply, and the tasks are followed
one by one, each with all that may become of it (`resumeOne_always`).
-/

set_option autoImplicit false

namespace ClusterKeeper

/-! ## 1. Lost tasks -/

def ResumeError.task : ResumeError → TaskId
  | notStarted task _ | notRecorded task _ => task

/-- Why a task is lost. -/
inductive Loss
  /-- Nobody knows whose it is. -/
  | unlocated (task : TaskId) (cause : SubstrateError)
  | unresumed (cause : ResumeError)

namespace Loss

def task : Loss → TaskId
  | unlocated task _ => task
  | unresumed cause => cause.task

def reason : Loss → String
  | unlocated _ cause => cause.message
  | unresumed cause => cause.message

def message : Loss → String
  | unlocated _ _ => "partition owner lookup failed"
  | unresumed _ => "failed to re-trigger task"

def record (l : Loss) : LogRecord :=
  ⟨.error, l.message, [("task", l.task.text), ("error", l.reason)], []⟩

def event (l : Loss) : ClusterEvent := .taskFailed l.task l.reason

end Loss

def ClusterEvent.isFailure : ClusterEvent → Bool
  | taskFailed _ _ => true
  | _ => false

namespace Exchange

/-- The task that is lost by a refusal. -/
def loss? : Exchange → Option Loss
  | ⟨.ownerOf task, .error cause⟩ => some (.unlocated task cause)
  | ⟨.startTask task, .error cause⟩ => some (.unresumed (.notStarted task cause))
  | ⟨.addTask _ task, .error cause⟩ => some (.unresumed (.notRecorded task cause))
  | _ => none

/-- The task whose owner was asked for. -/
def located? : Exchange → Option TaskId
  | ⟨.ownerOf task, _⟩ => some task
  | _ => none

end Exchange

/-- What is logged before a task is started. -/
def startKind : LogKind := (.info, "triggering task, partition owned here")

def startRecord (here : NodeId) (task : TaskId) : LogRecord :=
  ⟨startKind.1, startKind.2, [("task", task.text), ("node", here.text)], []⟩

section
variable (es : List Exchange)

def lossesIn : List Loss := es.filterMap Exchange.loss?

def locatedIn : List TaskId := es.filterMap Exchange.located?

def errorsIn : List LogRecord := (loggedIn es).filter fun x => x.level = .error

def startsIn : List LogRecord := (loggedIn es).filter fun x => x.kind = startKind

end

/-- The log of these exchanges and the events after them tell of the tasks that were lost, each with
its reason, and the log of those that were tried. -/
structure Accounted (here : NodeId) (es : List Exchange) (events : List ClusterEvent) : Prop where
  errors : errorsIn es = (lossesIn es).map Loss.record
  starts : startsIn es = (triedIn es).map (startRecord here)
  told : events.filter ClusterEvent.isFailure = (lossesIn es).map Loss.event

/-- These tasks were decided on, one by one. -/
structure Decided (here : NodeId) (tasks : List TaskId) (es : List Exchange)
    (events : List ClusterEvent) : Prop extends Accounted here es events where
  located : locatedIn es = tasks
  tried : (triedIn es).Sublist tasks
  lost : ((lossesIn es).map Loss.task).Sublist tasks

section
variable {here : NodeId} {tasks tasks' : List TaskId} {es es' : List Exchange}
  {events events' : List ClusterEvent}

theorem Accounted.append (h : Accounted here es events) (h' : Accounted here es' events') :
    Accounted here (es ++ es') (events ++ events') where
  errors := by
    rw [errorsIn, loggedIn, lossesIn, List.filterMap_append, List.filter_append,
      List.filterMap_append, List.map_append]
    exact congrArg₂ _ h.errors h'.errors
  starts := by
    rw [startsIn, loggedIn, triedIn, List.filterMap_append, List.filter_append,
      List.filterMap_append, List.map_append]
    exact congrArg₂ _ h.starts h'.starts
  told := by
    rw [lossesIn, List.filter_append, List.filterMap_append, List.map_append]
    exact congrArg₂ _ h.told h'.told

theorem Decided.append (h : Decided here tasks es events) (h' : Decided here tasks' es' events') :
    Decided here (tasks ++ tasks') (es ++ es') (events ++ events') where
  toAccounted := h.toAccounted.append h'.toAccounted
  located := by
    rw [locatedIn, List.filterMap_append]
    exact congrArg₂ _ h.located h'.located
  tried := by
    rw [triedIn_append]
    exact h.tried.append h'.tried
  lost := by
    rw [lossesIn, List.filterMap_append, List.map_append]
    exact h.lost.append h'.lost

/-- A request by which no task is decided on. -/
def Idle : Request → Prop
  | .ownerOf _ | .startTask _ | .addTask _ _ => False
  | .log x => x.level ≠ .error ∧ x.kind ≠ startKind
  | _ => True

theorem Exchange.of_idle {e : Exchange} (h : Idle e.request) :
    e.loss? = none ∧ e.tried? = none ∧ e.located? = none := by
  obtain ⟨r, reply⟩ := e
  cases r with
  | ownerOf | startTask | addTask => exact h.elim
  | _ => exact ⟨rfl, rfl, rfl⟩

theorem of_mem_loggedIn {x : LogRecord} (h : x ∈ loggedIn es) : ∃ e ∈ es, e.request = .log x := by
  obtain ⟨⟨r, reply⟩, he, hlog⟩ := List.mem_filterMap.1 h
  refine ⟨_, he, ?_⟩
  cases r with
  | log y => exact congrArg _ (Option.some.inj hlog)
  | _ => cases hlog

theorem decided_of_idle (h : ∀ e ∈ es, Idle e.request) : Decided here [] es [] := by
  have hloss : lossesIn es = [] := List.filterMap_eq_nil_iff.2 fun e he => (e.of_idle (h e he)).1
  have htried : triedIn es = [] := List.filterMap_eq_nil_iff.2 fun e he => (e.of_idle (h e he)).2.1
  have hlogged : ∀ x ∈ loggedIn es, x.level ≠ .error ∧ x.kind ≠ startKind := by
    intro x hx
    obtain ⟨e, he, hrequest⟩ := of_mem_loggedIn hx
    have hidle := h e he
    rwa [hrequest] at hidle
  refine ⟨⟨?_, ?_, ?_⟩, ?_, ?_, ?_⟩
  · rw [hloss]
    exact List.filter_eq_nil_iff.2 fun x hx => by simpa using (hlogged x hx).1
  · rw [htried]
    exact List.filter_eq_nil_iff.2 fun x hx => by simpa using (hlogged x hx).2
  · rw [hloss]
    rfl
  · exact List.filterMap_eq_nil_iff.2 fun e he => (e.of_idle (h e he)).2.2
  · rw [htried]
  · rw [hloss]
    exact .refl _

theorem Decided.cons {e : Exchange} (he : Idle e.request) (h : Decided here tasks es events) :
    Decided here tasks (e :: es) events :=
  (decided_of_idle fun _ hx => List.mem_singleton.1 hx ▸ he).append h

end

/-! ## 2. Task by task -/

namespace Handler

open Cluster

variable {here : NodeId} {known : OrderedSet TaskId} {task : TaskId}

-- At an end of the tree the exchanges are spelled out, and what they say is read off them.

theorem isOwnedHere_always : (isOwnedHere here task).Always fun es owned =>
    match owned with
    | .ok true => es = [⟨.ownerOf task, .ok (some here)⟩]
    | .ok false => Decided here [task] es []
    | .error reason => Decided here [task] es [.taskFailed task reason] := by
  refine .request fun owner => ?_
  match owner with
  | .error e => exact .log (.done ⟨⟨rfl, rfl, rfl⟩, rfl, List.nil_sublist _, .refl _⟩)
  | .ok none =>
    exact .log (.done ⟨⟨rfl, rfl, rfl⟩, rfl, List.nil_sublist _, List.nil_sublist _⟩)
  | .ok (some owner) =>
    dsimp only
    split
    · next ho =>
      subst ho
      exact .done rfl
    · exact .log (.done ⟨⟨rfl, rfl, rfl⟩, rfl, List.nil_sublist _, List.nil_sublist _⟩)

/-- A task that this node has been told to own is tried, and lost unless it is started and
recorded. -/
theorem resumeOwned_always : (resumeOwned here task).Always fun es event =>
    Decided here [task] (⟨.ownerOf task, .ok (some here)⟩ :: es) [event] := by
  refine .log (.request fun started => ?_)
  cases started with
  | error cause => exact .log (.done ⟨⟨rfl, rfl, rfl⟩, rfl, .refl _, .refl _⟩)
  | ok _ =>
    refine .request fun recorded => ?_
    cases recorded with
    | error cause => exact .log (.done ⟨⟨rfl, rfl, rfl⟩, rfl, .refl _, .refl _⟩)
    | ok _ => exact .done ⟨⟨rfl, rfl, rfl⟩, rfl, .refl _, List.nil_sublist _⟩

/-- All that may become of one task. -/
theorem resumeOne_always : (resumeOne here known task).Always fun es event =>
    Decided here [task] es event.toList := by
  refine isOwnedHere_always.bind fun es owned h => ?_
  match owned with
  | .error reason => exact .done ((List.append_nil es).symm ▸ h)
  | .ok false => exact .done ((List.append_nil es).symm ▸ h)
  | .ok true =>
    obtain rfl : es = _ := h
    dsimp only
    split
    · exact .log (.done ⟨⟨rfl, rfl, rfl⟩, rfl, List.nil_sublist _, List.nil_sublist _⟩)
    · exact resumeOwned_always.bind fun es event h => .done ((List.append_nil es).symm ▸ h)

theorem resumeEach_always (tasks : List TaskId) :
    (resumeEach here known tasks).Always fun es events => Decided here tasks es events := by
  induction tasks with
  | nil => exact decided_of_idle fun _ he => absurd he List.not_mem_nil
  | cons task tasks ih =>
    refine resumeOne_always.bind fun es event h => ih.bind fun es' events h' => .done ?_
    rw [List.append_nil]
    exact h.append h'

/-! ## 3. The departure -/

/-- The tasks that the index has told of. -/
def candidates : Except IndexError (OrderedSet TaskId) → List TaskId
  | .ok tasks => tasks.toList
  | .error _ => []

/-- The tasks are decided on, or the index cannot be read and none of them is. -/
theorem resumeTasks_always (departed : Member) :
    (resumeTasks here departed).run.Always fun es result =>
      ∃ reply rest, es = ⟨.tasksOf departed.id, reply⟩ :: rest ∧
        match result with
        | .ok events => Decided here (candidates reply) es events
        | .error cause => Decided here [] es [] ∧ ∃ e, cause = .index e := by
  rw [run_resumeTasks]
  refine .request fun reply => ?_
  cases reply with
  | error e => exact .done ⟨_, _, rfl, decided_of_idle (by simp [Idle]), e, rfl⟩
  | ok tasks =>
    dsimp only
    split
    · next hempty =>
      have hnone : candidates (.ok tasks) = [] := List.isEmpty_iff.1 hempty
      refine .log (.done ⟨_, _, rfl, ?_⟩)
      rw [hnone]
      exact decided_of_idle (by simp [Idle, startKind, LogRecord.kind])
    · refine .log (.holding (.orFail fun known => ?_))
      cases known with
      | error e =>
        exact ⟨_, _, rfl, decided_of_idle (by simp [Idle, startKind, LogRecord.kind]), e, rfl⟩
      | ok known =>
        -- The lock is taken before the decisions and given up after them.
        refine (resumeEach_always tasks.toList).bind fun es events h => .done ⟨_, _, rfl, ?_⟩
        rw [List.append_nil]
        have hend : Decided here [] [⟨.release .leaveBatch, ()⟩] [] :=
          decided_of_idle (by simp [Idle])
        have hall := h.append hend
        rw [List.append_nil, List.append_nil] at hall
        refine .cons trivial (.cons ?_ (.cons trivial (.cons trivial hall)))
        simp [Idle, startKind, LogRecord.kind]

/-- No event about the host is one about a task. -/
theorem forgetHost_events (departed : Member) :
    (forgetHost departed).run.Always fun _ result =>
      ∀ events, result = .ok events → events.filter ClusterEvent.isFailure = [] := by
  have hnone : ∀ events : List ClusterEvent, (Except.ok [] : Except HandlerError _) = .ok events →
      events.filter ClusterEvent.isFailure = [] := by
    rintro events h
    cases h
    rfl
  refine .orFail fun members => ?_
  cases members with
  | error e => exact fun events h => by cases h
  | ok members =>
    dsimp only [Always]
    split
    · exact .log (.done hnone)
    · refine .orFail fun stored => ?_
      match stored with
      | .error e => exact fun events h => by cases h
      | .ok none => exact .done hnone
      | .ok (some stored) =>
        dsimp only [Always]
        split
        · exact .done hnone
        · refine .orFail fun written => ?_
          cases written with
          | error e => exact fun events h => by cases h
          | ok _ =>
            rintro _ events h
            cases h
            rfl

theorem forgetHost_always (here : NodeId) (departed : Member) :
    (forgetHost departed).run.Always fun es result => Decided here [] es [] ∧
      ∀ events, result = .ok events → events.filter ClusterEvent.isFailure = [] := by
  have hsays : ∀ k ∈ hostKinds, k.1 ≠ .error ∧ k ≠ startKind := by decide
  have hidle : ∀ r, SeesToHost r → Says hostKinds r → Idle r := by
    intro r hr hsaid
    cases r with
    | ownerOf | startTask | addTask => exact hr.elim
    | log x => exact hsays _ hsaid
    | _ => trivial
  refine Always.and ?_ (forgetHost_events departed)
  refine ((always_of_asks (forgetHost_asks departed)).and
    (always_of_asks (forgetHost_kinds departed))).mono fun es result h => ?_
  exact decided_of_idle fun e he => hidle _ (h.1 e he) (h.2 e he)

/-- What log and events say of the tasks of a departed member, given the tasks it had. -/
structure TasksTold (here : NodeId) (tasks : List TaskId) (es : List Exchange)
    (result : Except HandlerError (List ClusterEvent)) : Prop where
  /-- One record of level `error` for each task that was lost. -/
  errors : errorsIn es = (lossesIn es).map Loss.record
  starts : startsIn es = (triedIn es).map (startRecord here)
  /-- Unless they are dropped, the events tell the same. -/
  told : ∀ events, result = .ok events →
    events.filter ClusterEvent.isFailure = (lossesIn es).map Loss.event
  lost : ((lossesIn es).map Loss.task).Sublist tasks
  tried : (triedIn es).Sublist tasks
  ascending : tasks.Pairwise fun s t => compare s t = .lt
  /-- Every task is decided on, unless the index cannot be read. -/
  located : locatedIn es = tasks ∨ locatedIn es = [] ∧ ∃ e, result = .error (.index e)

theorem candidates_ascending (reply : Except IndexError (OrderedSet TaskId)) :
    (candidates reply).Pairwise fun s t => compare s t = .lt := by
  cases reply with
  | ok tasks => exact tasks.ascending
  | error e => exact .nil

/-- After the decisions nothing is added to what there is to tell, but all of it may be dropped. -/
theorem TasksTold.of_decided {reply : Except IndexError (OrderedSet TaskId)} {decided : List TaskId}
    {es : List Exchange} {events : List ClusterEvent}
    {result : Except HandlerError (List ClusterEvent)}
    (h : Decided here decided es events)
    (hdecided : decided = candidates reply ∨ decided = [] ∧ ∃ e, result = .error (.index e))
    (htold : ∀ told, result = .ok told →
      told.filter ClusterEvent.isFailure = events.filter ClusterEvent.isFailure) :
    TasksTold here (candidates reply) es result := by
  have hsub : decided.Sublist (candidates reply) := by
    rcases hdecided with rfl | ⟨rfl, -⟩
    · exact .refl _
    · exact List.nil_sublist _
  exact
    { errors := h.errors
      starts := h.starts
      told := fun told hok => (htold told hok).trans h.told
      lost := h.lost.trans hsub
      tried := h.tried.trans hsub
      ascending := candidates_ascending reply
      located := by rwa [h.located] }

theorem memberLeft_always (departed : Member) :
    (memberLeft here departed).run.Always fun es result =>
      ∃ x reply rest, es = ⟨.log x, ()⟩ :: ⟨.tasksOf departed.id, reply⟩ :: rest ∧
        TasksTold here (candidates reply) es result := by
  refine .log ((resumeTasks_always departed).bind fun es resumed h => ?_)
  refine (forgetHost_always here departed).bind fun es' forgotten h' => .done ?_
  obtain ⟨reply, rest, rfl, h⟩ := h
  obtain ⟨hhost, hevents⟩ := h'
  refine ⟨_, reply, _, rfl, ?_⟩
  rw [List.append_nil]
  have hlog : ∀ fields : LogFields,
      Idle (.log ⟨.debug, "member left the cluster", fields, []⟩) := by
    simp [Idle, startKind, LogRecord.kind]
  -- What is told of the tasks goes if either half fails; what is logged of them stays.
  cases resumed with
  | ok events =>
    refine .of_decided (.cons (hlog _) (h.append hhost)) (.inl (List.append_nil _)) ?_
    intro told hok
    cases forgotten with
    | error cause => cases hok
    | ok more =>
      cases hok
      rw [List.filter_append, hevents more rfl, List.append_nil, List.append_nil]
  | error cause =>
    obtain ⟨hnone, e, rfl⟩ := h
    exact .of_decided (.cons (hlog _) (hnone.append hhost)) (.inr ⟨rfl, e, rfl⟩) fun told hok => by
      cases hok

theorem memberLeft_asks (here : NodeId) (departed : Member) :
    (memberLeft here departed).run.Asks fun r => .clock ∉ r.parts := by
  refine .request (by simp [Request.parts]) fun _ => Program.Asks.bind ?_ fun _ => ?_
  · exact (resumeTasks_asks here departed).mono fun _ h => h.1
  · exact ((forgetHost_asks departed).mono fun _ h => h.not_clock).bind fun _ => trivial

/-- Whatever index, substrate, runner and store reply, a node that is told of a departure comes to a
result; and whatever the result, its log accounts for every task that it could not take over. -/
theorem memberLeft_tells {σ : Type} (env : Environment σ) (here : NodeId) (departed : Member)
    (s : σ) :
    ∃ result, (env.run (memberLeft here departed).run s).result = some result ∧
      ∃ x reply rest, (env.run (memberLeft here departed).run s).exchanges =
          ⟨.log x, ()⟩ :: ⟨.tasksOf departed.id, reply⟩ :: rest ∧
        TasksTold here (candidates reply)
          (env.run (memberLeft here departed).run s).exchanges result := by
  obtain ⟨result, hresult⟩ := env.run_result (memberLeft_asks here departed) s
  exact ⟨result, hresult, Environment.run_always (memberLeft_always departed) hresult⟩

/-- In a cluster it is the cluster's log that does. -/
theorem memberLeft_logs (a : Actor) (departed : Member) (c : Cluster) :
    ∃ c' result, run a (memberLeft a.node departed).run c = (c', some result) ∧
      c'.log.toList = c.log.toList ++ loggedIn (exchanges a (memberLeft a.node departed).run c) ∧
      ∃ reply, ⟨.tasksOf departed.id, reply⟩ ∈ exchanges a (memberLeft a.node departed).run c ∧
        TasksTold a.node (candidates reply)
          (exchanges a (memberLeft a.node departed).run c) result := by
  obtain ⟨result, hresult⟩ := run_result (a := a) (memberLeft_asks a.node departed) c
  obtain ⟨hexchanges, -, hsame⟩ :=
    run_environment (a := a) (rfl : c.unlogged = c.unlogged) (memberLeft a.node departed).run
  obtain ⟨x, reply, rest, hread, h⟩ :=
    Environment.run_always (memberLeft_always departed) (hsame.trans hresult)
  rw [hexchanges] at hread h
  refine ⟨_, result, Prod.ext rfl hresult, log_exchanges _ c, reply, ?_, h⟩
  rw [hread]
  exact .tail _ (.head _)

end Handler

end ClusterKeeper
