import ClusterKeeper.Proofs.Departure.Host
import ClusterKeeper.Proofs.Resumption.Confluence
import ClusterKeeper.Proofs.Resumption.Unrecorded

/-!
# `Proofs/Departure/Tasks.lean` — which tasks of a departed node are tried

What the runner is asked for can be read off the exchanges of a run. Of a batch its rule has all there
is to say: what was tried so far and what is left to be tried are together what the node is to try,
and what was started is recorded, or about to be (`Trying`). Every exchange of the rule keeps that,
whatever fails.

When index and substrate are up or down as a whole, what is to be tried can be told from owners and
entries (`resumeTasks_does`).
-/

set_option autoImplicit false

namespace ClusterKeeper

/-! ## 1. Starts -/

namespace Exchange

/-- The task that the runner was asked to start. -/
def tried? : Exchange → Option TaskId
  | ⟨.startTask task, _⟩ => some task
  | _ => none

variable {e : Exchange}

theorem tried?_of_runner (h : .runner ∉ e.request.parts) : e.tried? = none := by
  obtain ⟨r, reply⟩ := e
  cases r with
  | startTask => exact absurd (.head _) h
  | _ => rfl

/-- What was started was tried. -/
theorem tried?_of_started {task : TaskId} (h : e.started? = some task) : e.tried? = some task := by
  rw [started?_eq_some_iff.1 h]
  rfl

end Exchange

def triedIn (es : List Exchange) : List TaskId := es.filterMap Exchange.tried?

section
variable {es es' : List Exchange}

theorem triedIn_append : triedIn (es ++ es') = triedIn es ++ triedIn es' := List.filterMap_append

theorem triedIn_of_runner (h : ∀ e ∈ es, .runner ∉ e.request.parts) : triedIn es = [] :=
  List.filterMap_eq_nil_iff.2 fun e he => Exchange.tried?_of_runner (h e he)

theorem startedIn_of_triedIn (h : triedIn es = []) : startedIn es = [] := by
  rw [triedIn, List.filterMap_eq_nil_iff] at h
  refine List.filterMap_eq_nil_iff.2 fun e he => ?_
  refine Option.eq_none_iff_forall_ne_some.2 fun task hs => ?_
  have htried := h e he
  rw [Exchange.tried?_of_started hs] at htried
  cases htried

end

namespace Cluster

variable {a : Actor} {c c' c'' d : Cluster}

/-- Which of the tried tasks were started can be told beforehand. -/
theorem startedIn_exchanges {α : Type} (p : Handler α) (c : Cluster) :
    startedIn (exchanges a p c) = (triedIn (exchanges a p c)).filter (c.starts a.node) := by
  induction p generalizing c with
  | done x => rfl
  | ask r next ih =>
    cases hc : c.answer a r with
    | mk c₁ reply =>
      cases reply with
      | none =>
        rw [exchanges, hc]
        rfl
      | some reply =>
        have hrest := ih reply c₁
        rw [(AnswersAlike.of_answered hc).starts_eq] at hrest
        rw [exchanges_ask hc]
        cases r with
        | startTask task =>
          have hreply : (c.startTask a.node task).2 = reply := congrArg Prod.snd (of_replied hc)
          show startedIn ([_] ++ _) = (task :: triedIn _).filter _
          rw [List.filter_cons, starts, hreply, ← hrest, startedIn, List.filterMap_append]
          cases reply <;> rfl
        | _ => exact hrest

theorem started_answered {r : Request} {reply : r.Reply} {c' : Cluster}
    (h : c.answer a r = (c', some reply)) : (c'.node a.node).runner.started.toList =
      (c.node a.node).runner.started.toList ++ (Exchange.started? ⟨r, reply⟩).toList := by
  by_cases hr : ∃ task, r = .startTask task
  · obtain ⟨task, rfl⟩ := hr
    have hstart : c.startTask a.node task = (c', reply) := of_replied h
    cases reply with
    | error e =>
      rw [startTask_error hstart]
      exact (List.append_nil _).symm
    | ok _ =>
      rw [startTask_ok hstart, if_pos rfl, History.toList_add]
      rfl
  · have hnone : Exchange.started? ⟨r, reply⟩ = none := by
      refine Option.eq_none_iff_forall_ne_some.2 fun task hs => hr ⟨task, ?_⟩
      exact (Exchange.mk.inj (Exchange.started?_eq_some_iff.1 hs)).1
    have hsame := started_of_not_start (c := c) (a := a) fun task ht => hr ⟨task, ht⟩
    rw [h] at hsame
    rw [hnone, hsame, Option.toList_none, List.append_nil]

/-- The runner has started what it said it started. -/
theorem started_exchanges {α : Type} (p : Handler α) (c : Cluster) :
    ((run a p c).1.node a.node).runner.started.toList =
      (c.node a.node).runner.started.toList ++ startedIn (exchanges a p c) := by
  refine run_adds (fun c => (c.node a.node).runner.started.toList) started_answered
    (fun {r c c'} hc => ?_) p c
  -- A start is always answered, one way or the other.
  have hr : ∀ task, r ≠ .startTask task := by
    rintro task rfl
    have hclock := clock_of_none hc
    simp [Request.parts] at hclock
  rw [← started_of_not_start (c := c) (a := a) hr, hc]

/-! ## 2. Batches -/

/-- The owner of a task as the node is told; nobody, if the substrate does not answer. -/
def toldOwner (c : Cluster) (here : NodeId) (task : TaskId) : Option NodeId :=
  match (c.askOwner here task).2 with
  | .ok owner => owner
  | .error _ => none

/-- The tasks of a departed node that a node is to try. -/
def dueOn (c : Cluster) (here departed : NodeId) : List TaskId :=
  match (c.askTasks departed).2, (c.askTasks here).2 with
  | .ok tasks, .ok known => attempts (c.toldOwner here) here known tasks.toList
  | _, _ => []

theorem askTasks_reply (hf : d.faults = c.faults) (hi : d.index = c.index) (id : NodeId) :
    (d.askTasks id).2 = (c.askTasks id).2 := by
  unfold askTasks faulty
  rw [hf, hi]
  split <;> rfl

/-- Without a fault the index is told, whether or not it is there. -/
theorem addTask_index {task : TaskId} (h : c.faults.reason? .addTask task.text = none)
    (id : NodeId) : (c.addTask id task).1.index = (c.index.addTask id task).1 := by
  have hask : c.addTask id task =
      ({ c with index := (c.index.addTask id task).1 }, (c.index.addTask id task).2) :=
    faulty_of_none h
  rw [hask]

end Cluster

open Cluster

/-- The tasks that a batch on the node `here` is still to try. -/
def Batch.toTry (owner : TaskId → Option NodeId) (here : NodeId) : Batch → List TaskId
  | deciding known left | started known _ left => attempts owner here known left
  | chosen known task left => task :: attempts owner here known left
  | _ => []

/-- What the batch has tried so far is right, given the cluster that it began with. -/
def Batch.Tried (here departed : NodeId) (c : Cluster) (tried : List TaskId) : Batch → Prop
  | fresh => tried = []
  | candidates tasks | admitted tasks => tried = [] ∧ (c.askTasks departed).2 = .ok tasks
  | b => tried ++ b.toTry (c.toldOwner here) here = c.dueOn here departed

/-- What a batch on the node `here` has done so far, from the cluster `c` to the cluster `c'`. -/
structure Trying (here departed : NodeId) (c : Cluster) (b : Batch) (es : List Exchange)
    (c' : Cluster) : Prop where
  faults : c'.faults = c.faults
  owners : ∀ task, (c'.askOwner here task).2 = (c.askOwner here task).2
  tried : b.Tried here departed c (triedIn es)
  /-- What was started is recorded, or about to be. -/
  index : ∃ noted, startedIn es = noted ++ b.unrecorded.toList ∧
    c'.index = c.index.addAll here noted
  failed : b = .refused ∨ b = .failed → ∃ id e, (c.askTasks id).2 = .error e

namespace Trying

variable {a : Actor} {here departed : NodeId} {c c' c'' : Cluster} {b b' : Batch}
  {es : List Exchange} {task : TaskId} {known : OrderedSet TaskId} {left : List TaskId}

theorem begin (here departed : NodeId) (c : Cluster) : Trying here departed c .fresh [] c where
  faults := rfl
  owners _ := rfl
  tried := rfl
  index := ⟨[], rfl, rfl⟩
  failed := by rintro (h | h) <;> cases h

/-- As long as nothing is tried the index is asked in vain or as at the begin. -/
theorem askTasks_eq (h : Trying here departed c b es c') (hnone : triedIn es = []) {id : NodeId}
    {tasks : Except IndexError (OrderedSet TaskId)}
    (answered : c'.answer a (.tasksOf id) = (c'', some tasks)) : (c.askTasks id).2 = tasks := by
  obtain ⟨noted, hnoted, hindex⟩ := h.index
  rw [startedIn_of_triedIn hnone] at hnoted
  obtain rfl : noted = [] := (List.append_eq_nil_iff.1 hnoted.symm).1
  rw [← askTasks_reply h.faults hindex id]
  exact congrArg Prod.snd (of_replied answered)

/-- What is said of owners does not change. -/
theorem toldOwner_iff (h : Trying here departed c b es c') :
    c.toldOwner here task = some here ↔ (c'.askOwner here task).2 = .ok (some here) := by
  rw [toldOwner, ← h.owners]
  cases (c'.askOwner here task).2 <;> simp

theorem attempts_cons_of_chosen (howner : c.toldOwner here task = some here)
    (hknown : ¬ task ∈ known) : attempts (c.toldOwner here) here known (task :: left) =
      task :: attempts (c.toldOwner here) here known left :=
  List.filter_cons_of_pos (by simp [howner, hknown])

theorem attempts_cons_of_passed (h : c.toldOwner here task = some here → task ∈ known) :
    attempts (c.toldOwner here) here known (task :: left) =
      attempts (c.toldOwner here) here known left :=
  List.filter_cons_of_neg (by simpa using h)

section
variable {r : Request} {reply : r.Reply} (h : Trying a.node departed c b es c')
  (answered : c'.answer a r = (c'', some reply))

include h answered

/-- An exchange that records nothing. -/
theorem proceed (hindex : .index ∉ r.parts)
    (hb : b'.unrecorded.toList = b.unrecorded.toList ++ (Exchange.started? ⟨r, reply⟩).toList)
    (htried : b'.Tried a.node departed c (triedIn (es ++ [⟨r, reply⟩])))
    (hfailed : b' = .refused ∨ b' = .failed → ∃ id e, (c.askTasks id).2 = .error e) :
    Trying a.node departed c b' (es ++ [⟨r, reply⟩]) c'' where
  faults := by
    rw [← h.faults, ← answer_faults c' a r, answered]
  owners task := by
    rw [(AnswersAlike.of_answered answered).owners, h.owners]
  tried := htried
  index := by
    obtain ⟨noted, hnoted, hc⟩ := h.index
    refine ⟨noted, ?_, (answered_index answered hindex).trans hc⟩
    rw [startedIn_append, hb, hnoted, List.append_assoc]
  failed := hfailed

/-- An exchange by which the batch only learns something. -/
theorem learn (hr : .index ∉ r.parts ∧ .runner ∉ r.parts) (hb : b'.unrecorded = b.unrecorded)
    (htried : b'.Tried a.node departed c (triedIn es))
    (hfailed : b' = .refused ∨ b' = .failed → ∃ id e, (c.askTasks id).2 = .error e) :
    Trying a.node departed c b' (es ++ [⟨r, reply⟩]) c'' := by
  refine h.proceed answered hr.1 ?_ ?_ hfailed
  · rw [Exchange.started?_of_runner hr.2, hb]
    simp
  have hone : triedIn [(⟨r, reply⟩ : Exchange)] = [] :=
    triedIn_of_runner fun e he => List.mem_singleton.1 he ▸ hr.2
  rw [triedIn_append, hone, List.append_nil]
  exact htried

end

/-- The task that was started is recorded, or at least the index is told. -/
theorem record (hnote : ∀ key, c.faults.reason? .addTask key = none)
    (h : Trying a.node departed c (.started known task left) es c')
    {result : Except IndexError Unit}
    (answered : c'.answer a (.addTask a.node task) = (c'', some result)) :
    Trying a.node departed c (.deciding known left) (es ++ [⟨.addTask a.node task, result⟩]) c'' where
  faults := by
    rw [← h.faults, ← answer_faults c' a (.addTask a.node task), answered]
  owners task := by
    rw [(AnswersAlike.of_answered answered).owners, h.owners]
  tried := by
    show triedIn (es ++ [_]) ++ attempts _ _ _ _ = _
    rw [triedIn_append, List.append_assoc]
    exact h.tried
  index := by
    obtain ⟨noted, hnoted, hc⟩ := h.index
    have hadd : c'.addTask a.node task = (c'', result) := of_replied answered
    have hfault : c'.faults.reason? .addTask task.text = none := by
      rw [h.faults]
      exact hnote _
    have hindex := addTask_index hfault a.node
    rw [hadd, hc] at hindex
    refine ⟨noted ++ [task], ?_, ?_⟩
    · rw [startedIn_append, hnoted]
      rfl
    · rw [hindex, TaskIndex.addAll, TaskIndex.addAll, List.foldl_append]
      rfl
  failed := by simp

/-- Any exchange of a batch. -/
theorem exchange (hnote : ∀ key, c.faults.reason? .addTask key = none)
    (h : Trying a.node departed c b es c') {r : Request} {reply : r.Reply}
    (follows : Batch.Conduct a.node departed b r reply b')
    (answered : c'.answer a r = (c'', some reply)) :
    Trying a.node departed c b' (es ++ [⟨r, reply⟩]) c'' := by
  have htried := h.tried
  cases follows with
  | log => exact h.learn answered (by simp [Request.parts]) rfl htried h.failed
  | @unread e =>
    have hread : (c.askTasks departed).2 = .error e := h.askTasks_eq htried answered
    refine h.learn answered (by simp [Request.parts]) rfl ?_ fun _ => ⟨_, _, hread⟩
    show triedIn es ++ [] = _
    rw [show triedIn es = [] from htried, dueOn, hread]
    rfl
  | @nothing tasks hempty =>
    have hread : (c.askTasks departed).2 = .ok tasks := h.askTasks_eq htried answered
    refine h.learn answered (by simp [Request.parts]) rfl ?_ (by simp)
    show triedIn es ++ [] = _
    rw [show triedIn es = [] from htried, dueOn, hread]
    cases (c.askTasks a.node).2 with
    | error e => rfl
    | ok known =>
      show [] = attempts _ _ _ tasks.toList
      rw [show tasks.toList = [] from List.isEmpty_iff.1 hempty, attempts, List.filter_nil]
  | @read tasks hsome =>
    have hread : (c.askTasks departed).2 = .ok tasks := h.askTasks_eq htried answered
    exact h.learn answered (by simp [Request.parts]) rfl ⟨htried, hread⟩ (by simp)
  | enter => exact h.learn answered (by simp [Request.parts]) rfl htried (by simp)
  | @refuse tasks e =>
    have hread : (c.askTasks a.node).2 = .error e := h.askTasks_eq htried.1 answered
    refine h.learn answered (by simp [Request.parts]) rfl ?_ fun _ => ⟨_, _, hread⟩
    show triedIn es ++ [] = _
    rw [htried.1, dueOn, htried.2, hread]
    rfl
  | @remember tasks known =>
    have hread : (c.askTasks a.node).2 = .ok known := h.askTasks_eq htried.1 answered
    refine h.learn answered (by simp [Request.parts]) rfl ?_ (by simp)
    show triedIn es ++ attempts _ _ _ _ = _
    rw [htried.1, dueOn, htried.2, hread]
    rfl
  | @pass known task left owner hpass =>
    have hread : (c'.askOwner a.node task).2 = owner := congrArg Prod.snd (of_replied answered)
    have hknown : c.toldOwner a.node task = some a.node → task ∈ known := by
      intro howner
      rw [h.toldOwner_iff, hread] at howner
      exact hpass howner
    refine h.learn answered (by simp [Request.parts]) rfl ?_ (by simp)
    show triedIn es ++ attempts _ _ _ _ = _
    rw [← attempts_cons_of_passed hknown]
    exact htried
  | @choose known task left hknown =>
    have hread : (c'.askOwner a.node task).2 = .ok (some a.node) :=
      congrArg Prod.snd (of_replied answered)
    refine h.learn answered (by simp [Request.parts]) rfl ?_ (by simp)
    show triedIn es ++ task :: attempts _ _ _ _ = _
    rw [← attempts_cons_of_chosen (h.toldOwner_iff.2 hread) hknown]
    exact htried
  | start | startFails =>
    refine h.proceed answered (by simp [Request.parts]) rfl ?_ (by simp)
    show triedIn (es ++ [_]) ++ attempts _ _ _ _ = _
    rw [triedIn_append, List.append_assoc]
    exact htried
  | record => exact h.record hnote answered
  | leave => exact h.learn answered (by simp [Request.parts]) rfl htried (by simp)
  | giveUp => exact h.learn answered (by simp [Request.parts]) rfl htried fun _ => h.failed (.inl rfl)

end Trying

/-! ## 3. The handler -/

namespace Cluster

variable {a : Actor} {c : Cluster}

theorem AllOrNothing.indexAvailable (hc : c.AllOrNothing) (honline : c.index.offline = false) :
    c.IndexAvailable := ⟨honline, hc.reads, hc.notes⟩

theorem AllOrNothing.askOwner (hc : c.AllOrNothing) (here : NodeId) (task : TaskId) :
    (c.askOwner here task).2 = if c.substrate.offline
      then .error (.unavailable Substrate.outage) else .ok (c.substrate.owners.get? task) := by
  rw [Cluster.askOwner, faulty_of_none (hc.owners _)]
  rfl

theorem AllOrNothing.askTasks (hc : c.AllOrNothing) (id : NodeId) :
    c.askTasks id =
      (c, if c.index.offline then .error c.index.outage else .ok (c.index.tasks id)) := by
  rw [Cluster.askTasks, faulty_of_none (hc.reads _)]
  rfl

theorem AllOrNothing.dueOn (hc : c.AllOrNothing) (here : NodeId) (departed : Member) :
    c.dueOn here departed.id = if c.index.offline || c.substrate.offline then []
      else Handler.attemptsOf c.substrate.owners.get? here departed c := by
  rw [Cluster.dueOn, hc.askTasks, hc.askTasks]
  cases c.index.offline with
  | true => rfl
  | false =>
    have htold : c.toldOwner here = if c.substrate.offline then fun _ => none
        else c.substrate.owners.get? := by
      funext task
      rw [toldOwner, hc.askOwner]
      cases c.substrate.offline <;> rfl
    rw [htold]
    cases c.substrate.offline with
    | true => exact List.filter_eq_nil_iff.2 fun task _ => by simp
    | false => rfl

end Cluster

namespace Handler

variable {a : Actor} {c : Cluster}

/-- What is tried does not depend on what becomes of it, and what is started is recorded. -/
theorem resumeTasks_tries (hnote : ∀ key, c.faults.reason? .addTask key = none)
    (departed : Member) :
    Does a (resumeTasks a.node departed).run c fun es c' r =>
      triedIn es = c.dueOn a.node departed.id ∧
        c'.index = c.index.addAll a.node (startedIn es) ∧
        (c.IndexAvailable → ∃ events, r = .ok events) := by
  obtain ⟨r, hr⟩ := run_result (a := a) ((resumeTasks_asks a.node departed).mono fun _ h => h.1) c
  have hrun : run a (resumeTasks a.node departed).run c = (_, some r) := Prod.ext rfl hr
  refine ⟨_, r, hrun, ?_⟩
  obtain ⟨b, hend, htrying⟩ := exchanges_follows
    (P := fun b es c' => Trying a.node departed.id c b es c')
    (fun follows h answered => h.exchange hnote follows answered) []
    (resumeTasks_follows a.node departed) (.begin a.node departed.id c) hrun
  rw [List.nil_append] at htrying
  have htried := htrying.tried
  obtain ⟨noted, hnoted, hindex⟩ := htrying.index
  -- At either end there is nothing left to try or to record.
  cases b with
  | finished =>
    obtain rfl : startedIn _ = noted := hnoted.trans (List.append_nil noted)
    refine ⟨(List.append_nil _).symm.trans htried, hindex, fun _ => ?_⟩
    cases r with
    | ok events => exact ⟨events, rfl⟩
    | error cause => exact hend.elim
  | failed =>
    obtain rfl : startedIn _ = noted := hnoted.trans (List.append_nil noted)
    refine ⟨(List.append_nil _).symm.trans htried, hindex, fun hc => ?_⟩
    obtain ⟨id, e, he⟩ := htrying.failed (.inr rfl)
    rw [hc.askTasks] at he
    cases he
  | _ => cases r <;> exact hend.elim

/-- What was done about the tasks of a departed node, and what is returned. -/
structure TasksTried (here : NodeId) (departed : Member) (c : Cluster) (es : List Exchange)
    (c' : Cluster) (r : Except HandlerError (List ClusterEvent)) : Prop where
  tried : triedIn es = if c.index.offline || c.substrate.offline then []
    else attemptsOf c.substrate.owners.get? here departed c
  index : c'.index = c.index.addAll here (startedIn es)
  told : if c.index.offline then r = .error (.index c.index.outage)
    else if c.substrate.offline then ∃ events, r = .ok events
    else r = .ok ((triedIn es).map (c.attempted here))
  unwritten : writesIn es = []
  hosts : HostsAlike c c'

theorem resumeTasks_does (hc : c.AllOrNothing) (departed : Member) :
    Does a (resumeTasks a.node departed).run c (TasksTried a.node departed c) := by
  have hasks := resumeTasks_asks a.node departed
  have hhosts : Yields a (resumeTasks a.node departed).run c fun c' _ => HostsAlike c c' :=
    yields_of_asks (fun r hr => hr.1) (fun d r hr hd => hd.answer hr.2) hasks (.refl c)
  have htold : Yields a (resumeTasks a.node departed).run c fun _ r =>
      (c.index.offline = true → r = .error (.index c.index.outage)) ∧
      (c.index.offline = false → c.substrate.offline = false →
        r = .ok ((attemptsOf c.substrate.owners.get? a.node departed c).map
          (c.attempted a.node))) := by
    cases hindex : c.index.offline with
    | true =>
      rw [run_resumeTasks]
      refine yields_ask (by simp [Request.parts]) fun c₁ tasks h₁ => ?_
      have hread : c.askTasks departed.id = (c₁, tasks) := of_replied h₁
      rw [hc.askTasks, hindex, if_pos rfl] at hread
      cases hread
      exact yields_done ⟨fun _ => rfl, fun hi => absurd hi.symm Bool.false_ne_true⟩
    | false =>
      cases hsubstrate : c.substrate.offline with
      | true =>
        obtain ⟨c', r, hrun, -⟩ := hhosts
        exact ⟨c', r, hrun, fun hi => absurd hi Bool.false_ne_true,
          fun _ hs => absurd hs.symm Bool.false_ne_true⟩
      | false =>
        have howner : ∀ task, (c.askOwner a.node task).2 = .ok (c.substrate.owners.get? task) := by
          intro task
          rw [hc.askOwner, hsubstrate]
          rfl
        refine (resumeTasks_yields departed (hc.indexAvailable hindex) howner).mono ?_
        exact fun _ _ h => ⟨fun hi => absurd hi Bool.false_ne_true, fun _ _ => h.1⟩
  refine ((((resumeTasks_tries hc.notes departed).and hhosts).and htold).and_asks hasks).mono ?_
  rintro es c' r ⟨⟨⟨⟨htried, hindex, hok⟩, hhosts⟩, hdown, hup⟩, hstore⟩
  rw [hc.dueOn] at htried
  refine ⟨htried, hindex, ?_, writesIn_of_store fun e he => (hstore e he).2, hhosts⟩
  cases hi : c.index.offline with
  | true => exact hdown hi
  | false =>
    cases hs : c.substrate.offline with
    | true => exact hok (hc.indexAvailable hi)
    | false =>
      rw [hi, hs] at htried
      rw [htried]
      exact hup hi hs

end Handler

end ClusterKeeper
