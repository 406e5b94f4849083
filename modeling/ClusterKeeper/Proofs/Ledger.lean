import ClusterKeeper.Proofs.Hosts.Handling
import ClusterKeeper.Proofs.Status.Adoption
import ClusterKeeper.Proofs.Status.Handling
import ClusterKeeper.Proofs.Tracing

/-!
# `Proofs/Ledger.lean` — what the events of a node tell of it

A node that nobody else meddles with has its status, its tasks and the hosts on record from what it
was told. Whoever reads the events that its calls return can keep a `Ledger` of the three. A task that
was started and not recorded counts as started too, which only the reason of its failure says.

A call that returns events returns all that it has done. A call that fails returns none, and that
need not mean that it has done nothing: the status was written before it could not be published, the
host forgotten though the tasks could not be looked at, tasks resumed before the host could not be
forgotten. `Account` says for every event and every way to fail how much may be missing, and with
these accounts in the place of what the failed calls did not return the ledger is right again.

Store, index, substrate and runner may fail and recover as they like. Of the store only this is
asked, that a write which fails leaves the record as it was (`RecordStore.IsStore`).
-/

set_option autoImplicit false

namespace ClusterKeeper

/-! ## 1. Ledgers -/

namespace ClusterEvent

/-- The begin of what is said of a task that runs and was not recorded. -/
def untraced (task : TaskId) : String :=
  "task " ++ task.text ++ " started but was not recorded in the task index: "

def saysUntraced (task : TaskId) (reason : String) : Bool :=
  (untraced task).toList.isPrefixOf reason.toList

/-- The task that was started, if the event tells of one. -/
def started? : ClusterEvent → Option TaskId
  | taskResumed task _ => some task
  | taskFailed task reason => if saysUntraced task reason then some task else none
  | _ => none

/-- Events of the tasks of a departed node. -/
def isOfTask : ClusterEvent → Bool
  | taskResumed _ _ | taskFailed _ _ => true
  | _ => false

variable {task : TaskId} {reason : String}

theorem saysUntraced_iff :
    saysUntraced task reason = true ↔ (untraced task).toList <+: reason.toList :=
  List.isPrefixOf_iff_prefix

theorem saysUntraced_notRecorded (cause : IndexError) :
    saysUntraced task (ResumeError.notRecorded task cause).message = true := by
  rw [saysUntraced_iff, ResumeError.message, String.toList_append, ← untraced]
  exact List.prefix_append _ _

theorem not_saysUntraced_notStarted (cause : StartError) :
    saysUntraced task (ResumeError.notStarted task cause).message = false := by
  refine Bool.eq_false_iff.2 fun h => ?_
  rw [saysUntraced_iff, ResumeError.message, untraced] at h
  simp only [String.toList_append, List.append_assoc, List.prefix_append_right_inj] at h
  simp at h

theorem not_saysUntraced_substrate (e : SubstrateError) : saysUntraced task e.message = false := by
  -- They differ in their first letters.
  have huntraced : (untraced task).toList.head? = some 't' := by simp [untraced]
  have hmessage : e.message.toList.head? ≠ some 't' := by
    cases e with
    | unavailable reason =>
      show ("membership substrate unavailable: " ++ reason).toList.head? ≠ _
      simp
    | publishFailed reason =>
      show ("attribute publish failed: " ++ reason).toList.head? ≠ _
      simp
  refine Bool.eq_false_iff.2 fun h => hmessage ?_
  obtain ⟨rest, hrest⟩ := saysUntraced_iff.1 h
  rw [← hrest, List.head?_append, huntraced]
  rfl

end ClusterEvent

/-- A node as its events tell of it. -/
structure Ledger where
  status : Status
  hosts : OrderedSet Host
  /-- The tasks started on the node, one after another. -/
  started : List TaskId

namespace Ledger

def enter (l : Ledger) (e : ClusterEvent) : Ledger where
  status := match e with
    | .statusChanged _ new => new
    | _ => l.status
  hosts := match e with
    | .hostsAdded hosts => l.hosts.insertAll hosts
    | .hostRemoved host => l.hosts.erase host
    | _ => l.hosts
  started := l.started ++ e.started?.toList

def replay (l : Ledger) (events : List ClusterEvent) : Ledger := events.foldl enter l

variable {l : Ledger} {events : List ClusterEvent} {task : TaskId} {reason : String}

@[simp] theorem enter_hostsAdded (hosts : List Host) :
    l.enter (.hostsAdded hosts) = { l with hosts := l.hosts.insertAll hosts } := by
  simp [enter, ClusterEvent.started?]

@[simp] theorem enter_hostRemoved (host : Host) :
    l.enter (.hostRemoved host) = { l with hosts := l.hosts.erase host } := by
  simp [enter, ClusterEvent.started?]

@[simp] theorem enter_taskResumed (node : NodeId) :
    l.enter (.taskResumed task node) = { l with started := l.started ++ [task] } := by
  simp [enter, ClusterEvent.started?]

theorem enter_taskFailed (h : ClusterEvent.saysUntraced task reason = true) :
    l.enter (.taskFailed task reason) = { l with started := l.started ++ [task] } := by
  simp [enter, ClusterEvent.started?, h]

theorem enter_taskFailed_of_not (h : ClusterEvent.saysUntraced task reason = false) :
    l.enter (.taskFailed task reason) = l := by
  simp [enter, ClusterEvent.started?, h]

@[simp] theorem enter_statusChanged (old new : Status) :
    l.enter (.statusChanged old new) = { l with status := new } := by
  simp [enter, ClusterEvent.started?]

@[simp] theorem enter_drainFinished (polls running : Nat) (waited : Duration) (timedOut : Bool) :
    l.enter (.drainFinished polls running waited timedOut) = l := by
  simp [enter, ClusterEvent.started?]

@[simp] theorem replay_nil : l.replay [] = l := rfl

@[simp] theorem replay_cons {e : ClusterEvent} : l.replay (e :: events) = (l.enter e).replay events :=
  rfl

theorem replay_append {more : List ClusterEvent} :
    l.replay (events ++ more) = (l.replay events).replay more := List.foldl_append

/-- Changes of the status lead to where they say, and drains to nothing. -/
theorem replay_of_status {s : Status} (hof : ∀ x ∈ events, x.isOfStatus = true)
    (hpath : l.status.Path (ClusterEvent.changes events) s) :
    l.replay events = { l with status := s } := by
  induction events generalizing l with
  | nil =>
    obtain rfl : l.status = s := hpath
    rfl
  | cons x events ih =>
    have hrest := fun y hy => hof y (.tail _ hy)
    have hx := hof x (.head _)
    cases x with
    | statusChanged old new =>
      rw [replay_cons, enter_statusChanged]
      exact ih hrest hpath.2.2
    | drainFinished polls running waited timedOut =>
      rw [replay_cons, enter_drainFinished]
      exact ih hrest hpath
    | _ => cases hx

end Ledger

/-- The hosts after an arrival are those of before and the new ones. -/
theorem HostRecord.absorb_hosts (r : HostRecord) (hs : List Host) :
    (r.absorb hs).1.hosts = r.hosts.insertAll (r.absorb hs).2 := by
  induction hs generalizing r with
  | nil =>
    rw [absorb_nil]
    rfl
  | cons h hs ih =>
    by_cases hr : h ∈ r.hosts
    · rw [absorb_cons_of_mem hr]
      exact ih r
    · rw [absorb_cons_of_not_mem hr]
      exact ih ⟨r.hosts.insert h⟩

/-! ## 2. Stores that may fail -/

namespace RecordStore

variable {Holding : RecordStore → Option HostRecord → Prop}

/-- A write puts the record there, or it fails and leaves the one that is there. -/
def Writes (Holding : RecordStore → Option HostRecord → Prop) (x : HostRecord)
    (write : RecordStore → RecordStore × Except StoreError Unit) : Prop :=
  ∀ {s r}, Holding s r → match write s with
    | (s', .ok ()) => Holding s' (some x)
    | (s', .error _) => Holding s' r

/-- `Holding s r` says that the store `s` holds `r` now, whether or not it gives it away. -/
structure IsStore (Holding : RecordStore → Option HostRecord → Prop) : Prop where
  get : ∀ {s r}, Holding s r → match s.get with
    | (s', .ok x) => x = r ∧ Holding s' r
    | (s', .error _) => Holding s' r
  add : ∀ x, Writes Holding x (RecordStore.add x)
  update : ∀ x, Writes Holding x (RecordStore.update x)

/-- A store in memory, failing or not. -/
def Remembers (s : RecordStore) (r : Option HostRecord) : Prop :=
  ∃ m : MemoryStore, s = .memory m ∧ m.record = r

theorem remembers_isStore : IsStore Remembers where
  get := by
    intro s r h
    obtain ⟨m, rfl, rfl⟩ := h
    exact ⟨rfl, _, rfl, rfl⟩
  add := by
    intro x s r h
    obtain ⟨⟨record, writesFail, calls⟩, rfl, rfl⟩ := h
    cases writesFail with
    | true => exact ⟨_, rfl, rfl⟩
    | false => exact ⟨_, rfl, rfl⟩
  update := by
    intro x s r h
    obtain ⟨⟨record, writesFail, calls⟩, rfl, rfl⟩ := h
    cases writesFail with
    | true => exact ⟨_, rfl, rfl⟩
    | false =>
      cases record with
      | none => exact ⟨_, rfl, rfl⟩
      | some r => exact ⟨_, rfl, rfl⟩

end RecordStore

namespace Cluster

variable {Holding : RecordStore → Option HostRecord → Prop} {a : Actor} {c c' d : Cluster}
  {l : Ledger}

/-! ## 3. A node and its ledger -/

/-- The ledger is right about the node `here` and about the record that it shares with others. -/
structure Shows (Holding : RecordStore → Option HostRecord → Prop) (here : NodeId) (c : Cluster)
    (l : Ledger) : Prop where
  status : c.statusOf here = l.status
  started : (c.node here).runner.started.toList = l.started
  hosts : ∃ record, Holding c.store record ∧ (record.getD .empty).hosts = l.hosts

/-- Nobody else writes the status of the node or the record, or starts tasks on the node. Anything
else may happen, in particular parts may fail and recover. -/
structure LeftAlone (Holding : RecordStore → Option HostRecord → Prop) (here : NodeId)
    (c c' : Cluster) : Prop where
  status : c'.statusOf here = c.statusOf here
  started : (c'.node here).runner.started = (c.node here).runner.started
  record : ∀ record, Holding c.store record → Holding c'.store record

theorem Shows.leftAlone (h : Shows Holding a.node c l) (hc : LeftAlone Holding a.node c c') :
    Shows Holding a.node c' l where
  status := hc.status.trans h.status
  started := (congrArg History.toList hc.started).trans h.started
  hosts := by
    obtain ⟨record, hrecord, hhosts⟩ := h.hosts
    exact ⟨record, hc.record record hrecord, hhosts⟩

theorem Shows.unlogged (hcd : c.unlogged = d.unlogged) (h : Shows Holding a.node c l) :
    Shows Holding a.node d l := by
  have hnode : c.node a.node = d.node a.node := congrArg (·.node a.node) hcd
  have hstore : c.store = d.store := congrArg (·.store) hcd
  refine h.leftAlone ⟨?_, ?_, fun record hrecord => ?_⟩
  · rw [statusOf, ← hnode, statusOf]
  · rw [hnode]
  · rw [← hstore]
    exact hrecord

/-- Most requests make no difference to it. -/
theorem Shows.answered {r : Request} {reply : Option r.Reply} (h : Shows Holding a.node c l)
    (answered : c.answer a r = (c', reply))
    (hr : .store ∉ r.parts ∧ .runner ∉ r.parts ∧ .status ∉ r.parts) : Shows Holding a.node c' l := by
  obtain ⟨hstore, hrunner, hstatus⟩ := hr
  have hkept := kept_of_answered answered
  refine h.leftAlone ⟨hkept.statusOf hstatus, ?_, fun record hrecord => ?_⟩
  · rw [hkept.node.runner hrunner]
  · rw [hkept.store hstore]
    exact hrecord

/-- Reading the record changes nothing but the store, and not what it holds. -/
theorem store_of_loaded {record : Option HostRecord} {reply : Except StoreError (Option HostRecord)}
    (hstore : RecordStore.IsStore Holding) (hrecord : Holding c.store record)
    (loaded : c.loadRecord = (c', reply)) :
    ∃ s, c' = { c with store := s } ∧ Holding s record ∧ ∀ x, reply = .ok x → x = record := by
  rw [Cluster.loadRecord, faulty] at loaded
  split at loaded
  · cases loaded
    refine ⟨c.store, rfl, hrecord, fun x hx => ?_⟩
    cases hx
  · have hget := hstore.get hrecord
    rw [onStore] at loaded
    cases hs : c.store.get with
    | mk s result =>
      rw [hs] at hget loaded
      cases loaded
      cases reply with
      | error e =>
        refine ⟨s, rfl, hget, fun x hx => ?_⟩
        cases hx
      | ok x =>
        refine ⟨s, rfl, hget.2, fun y hy => ?_⟩
        cases hy
        exact hget.1

/-- A write changes nothing but the store. -/
theorem store_of_written {record : Option HostRecord} {x : HostRecord}
    {write : RecordStore → RecordStore × Except StoreError Unit} {site : FaultSite}
    {reply : Except StoreError Unit} (hwrite : RecordStore.Writes Holding x write)
    (hrecord : Holding c.store record)
    (written : c.faulty site "" .unavailable (c.onStore write) = (c', reply)) :
    ∃ s, c' = { c with store := s } ∧ match reply with
      | .ok () => Holding s (some x)
      | .error _ => Holding s record := by
  rw [faulty] at written
  split at written
  · cases written
    exact ⟨c.store, rfl, hrecord⟩
  · have hwritten := hwrite hrecord
    rw [onStore] at written
    cases hs : write c.store with
    | mk s result =>
      rw [hs] at hwritten written
      cases written
      cases reply <;> exact ⟨s, rfl, hwritten⟩

theorem Shows.store {s : RecordStore} {record : Option HostRecord} (h : Shows Holding a.node c l)
    (hrecord : Holding s record) :
    Shows Holding a.node { c with store := s }
      { l with hosts := (record.getD .empty).hosts } :=
  ⟨h.status, h.started, record, hrecord, rfl⟩

theorem Shows.loadRecord {reply : Except StoreError (Option HostRecord)}
    (hstore : RecordStore.IsStore Holding) (h : Shows Holding a.node c l)
    (answered : c.answer a .loadRecord = (c', some reply)) :
    Shows Holding a.node c' l ∧ ∀ record, reply = .ok record →
      (record.getD .empty).hosts = l.hosts := by
  obtain ⟨record, hrecord, hhosts⟩ := h.hosts
  obtain ⟨s, rfl, hs, htold⟩ := store_of_loaded hstore hrecord (of_replied answered)
  refine ⟨?_, fun x hx => ?_⟩
  · have hsame := h.store hs
    rwa [hhosts] at hsame
  · rw [htold x hx]
    exact hhosts

/-- A write puts the hosts there, or it fails and nothing has changed. -/
theorem Shows.written {x : HostRecord} {write : RecordStore → RecordStore × Except StoreError Unit}
    {site : FaultSite} {reply : Except StoreError Unit} (hwrite : RecordStore.Writes Holding x write)
    (h : Shows Holding a.node c l)
    (answered : c.faulty site "" .unavailable (c.onStore write) = (c', reply)) :
    match reply with
    | .ok () => Shows Holding a.node c' { l with hosts := x.hosts }
    | .error _ => Shows Holding a.node c' l := by
  obtain ⟨record, hrecord, hhosts⟩ := h.hosts
  obtain ⟨s, rfl, hs⟩ := store_of_written hwrite hrecord answered
  cases reply with
  | error e =>
    have hsame := h.store hs
    rwa [hhosts] at hsame
  | ok _ => exact h.store hs

/-! ## 4. Arrivals -/

/-- What a call about the event has done, by its result: all that it returns, or, if it returns
nothing, this. -/
inductive Account : MembershipEvent → Option (Except HandlerError (List ClusterEvent)) →
    List ClusterEvent → Prop
  | returned {e : MembershipEvent} {events : List ClusterEvent} : Account e (some (.ok events)) events
  | arrival {joined : Member} {members : List Member} {cause : StoreError} :
      Account (.joined joined members) (some (.error (.store cause))) []
  /-- The tasks could not be looked at. The host was seen to all the same. -/
  | unread {departed : Member} {cause : IndexError} {events : List ClusterEvent}
      (h : events = [] ∨ events = [.hostRemoved departed.host]) :
      Account (.left departed) (some (.error (.index cause))) events
  /-- The tasks were seen to. The host could not be. -/
  | unforgotten {departed : Member} {cause : HandlerError} {events : List ClusterEvent}
      (hcause : (∃ e, cause = .substrate e) ∨ ∃ e, cause = .store e)
      (h : ∀ x ∈ events, x.isOfTask = true) : Account (.left departed) (some (.error cause)) events
  | unknown {member : Member} {key value : String} :
      Account (.attributeChanged member key value) (some (.error (.unknownStatus value))) []
  /-- The status was written and could not be published. -/
  | unpublished {member : Member} {key value : String} {cause : SubstrateError}
      {events : List ClusterEvent} (h : ∀ x ∈ events, x.isOfStatus = true) :
      Account (.attributeChanged member key value) (some (.error (.substrate cause))) events
  /-- The clock stopped the call in its drain. -/
  | stopped {member : Member} {key value : String} {events : List ClusterEvent}
      (h : ∀ x ∈ events, x.isOfStatus = true) :
      Account (.attributeChanged member key value) none events

theorem Account.eq_returned {e : MembershipEvent} {returned events : List ClusterEvent}
    (h : Account e (some (.ok returned)) events) : events = returned := by
  cases h
  rfl

/-- Where a call has ended that found the node as the ledger shows it. -/
def Accounted (Holding : RecordStore → Option HostRecord → Prop) (here : NodeId) (l : Ledger)
    (e : MembershipEvent) (c' : Cluster) (r : Option (Except HandlerError (List ClusterEvent))) :
    Prop :=
  ∃ events, Account e r events ∧ Shows Holding here c' (l.replay events)

section
variable (hstore : RecordStore.IsStore Holding) (h : Shows Holding a.node c l)
include hstore h

theorem Shows.memberJoined (joined : Member) (members : List Member) :
    Yields a (Handler.memberJoined joined members).run c
      fun c' r => Accounted Holding a.node l (.joined joined members) c' (some r) := by
  rw [Handler.memberJoined, Handler.run_lift_bind]
  refine yields_ask (by simp [Request.parts]) fun c₁ _ h₁ => ?_
  have hs₁ := h.answered h₁ (by simp [Request.parts])
  rw [Handler.run_orFail_bind]
  refine yields_ask (by simp [Request.parts]) fun c₂ stored h₂ => ?_
  obtain ⟨hs₂, hstored⟩ := hs₁.loadRecord hstore h₂
  cases stored with
  | error cause => exact yields_done ⟨[], .arrival, hs₂⟩
  | ok stored =>
    have hhosts := HostRecord.absorb_hosts (stored.getD .empty) (hostsOf members).toList
    rw [hstored stored rfl] at hhosts
    dsimp only
    generalize (stored.getD .empty).absorb (hostsOf members).toList = absorbed at hhosts
    obtain ⟨record, added⟩ := absorbed
    dsimp only at hhosts ⊢
    rw [Handler.run_orFail_bind]
    refine yields_ask (by simp [Request.parts]) fun c₃ written h₃ => ?_
    have hs₃ := hs₂.written (hstore.add record) (of_replied h₃)
    cases written with
    | error cause => exact yields_done ⟨[], .arrival, hs₃⟩
    | ok _ =>
      dsimp only at hs₃ ⊢
      split
      · next hnone =>
        obtain rfl : added = [] := List.isEmpty_iff.1 hnone
        refine yields_done ⟨[], .returned, ?_⟩
        rw [hhosts] at hs₃
        exact hs₃
      · rw [Handler.run_lift_bind]
        refine yields_ask (by simp [Request.parts]) fun c₄ _ h₄ => yields_done ⟨_, .returned, ?_⟩
        have hs₄ := hs₃.answered h₄ (by simp [Request.parts])
        rw [hhosts] at hs₄
        simpa using hs₄

/-! ## 5. Departures -/

/-- The host of a departed member is forgotten and the event says so, or nothing has changed. -/
def HostSeenTo (Holding : RecordStore → Option HostRecord → Prop) (here : NodeId) (l : Ledger)
    (departed : Member) (c' : Cluster) : Except HandlerError (List ClusterEvent) → Prop
  | .ok events => (events = [] ∨ events = [.hostRemoved departed.host]) ∧
      Shows Holding here c' (l.replay events)
  | .error cause => ((∃ e, cause = .substrate e) ∨ ∃ e, cause = .store e) ∧ Shows Holding here c' l

theorem Shows.forgetHost (departed : Member) :
    Yields a (Handler.forgetHost departed).run c (HostSeenTo Holding a.node l departed) := by
  rw [Handler.forgetHost, Handler.run_orFail_bind]
  refine yields_ask (by simp [Request.parts]) fun c₁ members h₁ => ?_
  have hs₁ := h.answered h₁ (by simp [Request.parts])
  cases members with
  | error cause => exact yields_done ⟨.inl ⟨_, rfl⟩, hs₁⟩
  | ok members =>
    dsimp only
    split
    · rw [Handler.run_lift_bind]
      refine yields_ask (by simp [Request.parts]) fun c₂ _ h₂ => yields_done ⟨.inl rfl, ?_⟩
      exact hs₁.answered h₂ (by simp [Request.parts])
    · rw [Handler.run_orFail_bind]
      refine yields_ask (by simp [Request.parts]) fun c₂ stored h₂ => ?_
      obtain ⟨hs₂, hstored⟩ := hs₁.loadRecord hstore h₂
      cases stored with
      | error cause => exact yields_done ⟨.inr ⟨_, rfl⟩, hs₂⟩
      | ok stored =>
        cases stored with
        | none => exact yields_done ⟨.inl rfl, hs₂⟩
        | some stored =>
          have hhosts : stored.hosts = l.hosts := hstored _ rfl
          dsimp only
          split
          · exact yields_done ⟨.inl rfl, hs₂⟩
          · rw [Handler.run_orFail_bind]
            refine yields_ask (by simp [Request.parts]) fun c₃ written h₃ => ?_
            have hs₃ := hs₂.written (hstore.update _) (of_replied h₃)
            cases written with
            | error cause => exact yields_done ⟨.inr ⟨_, rfl⟩, hs₃⟩
            | ok _ =>
              dsimp only at hs₃ ⊢
              rw [Handler.run_lift_bind]
              refine yields_ask (by simp [Request.parts]) fun c₄ _ h₄ => yields_done ⟨.inr rfl, ?_⟩
              have hs₄ := hs₃.answered h₄ (by simp [Request.parts])
              dsimp only [HostRecord.forget] at hs₄
              rw [hhosts] at hs₄
              simpa using hs₄

end

section
variable (h : Shows Holding a.node c l)
include h

theorem Shows.startTask {task : TaskId} {reply : Except StartError Unit}
    (answered : c.answer a (.startTask task) = (c', some reply)) :
    match reply with
    | .ok () => Shows Holding a.node c' { l with started := l.started ++ [task] }
    | .error _ => Shows Holding a.node c' l := by
  have hkept := kept_of_answered answered
  have hstart : c.startTask a.node task = (c', reply) := of_replied answered
  have hstatus := (hkept.statusOf (by simp [Request.parts])).trans h.status
  have hhosts := h.hosts
  rw [← hkept.store (by simp [Request.parts])] at hhosts
  cases reply with
  | ok _ =>
    refine ⟨hstatus, ?_, hhosts⟩
    rw [startTask_ok hstart, if_pos rfl, History.toList_add, h.started]
  | error e =>
    refine ⟨hstatus, ?_, hhosts⟩
    rw [startTask_error hstart, h.started]

/-- Whether or not it was recorded, a task that was started is told of. -/
theorem Shows.resume (here : NodeId) (task : TaskId) :
    Yields a (Handler.resume here task) c fun c' r => match r with
      | .ok () => Shows Holding a.node c' (l.enter (.taskResumed task here))
      | .error e => Shows Holding a.node c' (l.enter (.taskFailed task e.message)) := by
  refine yields_ask (by simp [Request.parts]) fun c₁ started h₁ => ?_
  have hs₁ := h.startTask h₁
  cases started with
  | error cause =>
    refine yields_done ?_
    dsimp only
    rw [Ledger.enter_taskFailed_of_not (ClusterEvent.not_saysUntraced_notStarted cause)]
    exact hs₁
  | ok _ =>
    refine yields_ask (by simp [Request.parts]) fun c₂ recorded h₂ => ?_
    have hs₂ := hs₁.answered h₂ (by simp [Request.parts])
    cases recorded with
    | ok _ =>
      refine yields_done ?_
      simpa using hs₂
    | error cause =>
      refine yields_done ?_
      dsimp only
      rw [Ledger.enter_taskFailed (ClusterEvent.saysUntraced_notRecorded cause)]
      exact hs₂

/-- The tasks have been seen to, and these are the events of all of which there is something to
say. -/
def TasksSeenTo (Holding : RecordStore → Option HostRecord → Prop) (here : NodeId) (l : Ledger)
    (c' : Cluster) (events : List ClusterEvent) : Prop :=
  (∀ x ∈ events, x.isOfTask = true) ∧ Shows Holding here c' (l.replay events)

theorem Shows.resumeOwned (here : NodeId) (task : TaskId) :
    Yields a (Handler.resumeOwned here task) c fun c' event =>
      event.isOfTask = true ∧ Shows Holding a.node c' (l.enter event) := by
  refine yields_ask (by simp [Request.parts]) fun c₁ _ h₁ => ?_
  have hs₁ := h.answered h₁ (by simp [Request.parts])
  refine (hs₁.resume here task).bind fun c₂ result hs₂ => ?_
  cases result with
  | ok _ => exact yields_done ⟨rfl, hs₂⟩
  | error e =>
    refine yields_ask (by simp [Request.parts]) fun c₃ _ h₃ => yields_done ⟨rfl, ?_⟩
    exact hs₂.answered h₃ (by simp [Request.parts])

/-- An owner was asked for. That none could be told is no sign of a start. -/
def OwnerAsked (Holding : RecordStore → Option HostRecord → Prop) (here : NodeId) (l : Ledger)
    (task : TaskId) (c' : Cluster) (owned : Except String Bool) : Prop :=
  Shows Holding here c' l ∧
    ∀ reason, owned = .error reason → ClusterEvent.saysUntraced task reason = false

/-- Whether it is this node is logged and nothing else. -/
theorem Shows.ownerAsked {task : TaskId} {level : LogLevel} {message : String}
    {fields : LogFields} {owned : Except String Bool}
    (howned : ∀ reason, owned = .error reason → ClusterEvent.saysUntraced task reason = false) :
    Yields a (Handler.log level message fields >>= fun _ => pure owned) c
      (OwnerAsked Holding a.node l task) := by
  refine yields_ask (by simp [Request.parts]) fun c₁ _ h₁ => yields_done ⟨?_, howned⟩
  exact h.answered h₁ (by simp [Request.parts])

theorem Shows.isOwnedHere (here : NodeId) (task : TaskId) :
    Yields a (Handler.isOwnedHere here task) c (OwnerAsked Holding a.node l task) := by
  have htold : ∀ owned : Bool, ∀ reason, (.ok owned : Except String Bool) = .error reason →
      ClusterEvent.saysUntraced task reason = false := by
    intro owned reason hreason
    cases hreason
  refine yields_ask (by simp [Request.parts]) fun c₁ owner h₁ => ?_
  have hs₁ := h.answered h₁ (by simp [Request.parts])
  cases owner with
  | error e =>
    refine hs₁.ownerAsked fun reason hreason => ?_
    cases hreason
    exact ClusterEvent.not_saysUntraced_substrate e
  | ok owner =>
    cases owner with
    | none => exact hs₁.ownerAsked (htold false)
    | some owner =>
      dsimp only
      split
      · exact yields_done ⟨hs₁, htold true⟩
      · exact hs₁.ownerAsked (htold false)

theorem Shows.resumeOne (here : NodeId) (known : OrderedSet TaskId) (task : TaskId) :
    Yields a (Handler.resumeOne here known task) c fun c' event =>
      TasksSeenTo Holding a.node l c' event.toList := by
  refine (h.isOwnedHere here task).bind fun c₁ owned h₁ => ?_
  obtain ⟨hs₁, hreason⟩ := h₁
  cases owned with
  | error reason =>
    refine yields_done ⟨by simp [ClusterEvent.isOfTask], ?_⟩
    show Shows Holding a.node c₁ ((l.enter (.taskFailed task reason)).replay [])
    rw [Ledger.enter_taskFailed_of_not (hreason reason rfl)]
    exact hs₁
  | ok owned =>
    cases owned with
    | false => exact yields_done ⟨by simp, hs₁⟩
    | true =>
      dsimp only
      split
      · refine yields_ask (by simp [Request.parts]) fun c₂ _ h₂ => yields_done ⟨by simp, ?_⟩
        exact hs₁.answered h₂ (by simp [Request.parts])
      · refine (hs₁.resumeOwned here task).bind fun c₂ event h₂ => ?_
        obtain ⟨hof, hs₂⟩ := h₂
        exact yields_done ⟨by simpa using hof, hs₂⟩

end

/-- The induction is on the tasks that are left, from whatever ledger they are come to with. -/
theorem Shows.resumeEach (h : Shows Holding a.node c l) (here : NodeId) (known : OrderedSet TaskId)
    (tasks : List TaskId) :
    Yields a (Handler.resumeEach here known tasks) c (TasksSeenTo Holding a.node l) := by
  induction tasks generalizing c l with
  | nil => exact yields_done ⟨by simp, h⟩
  | cons task tasks ih =>
    refine (h.resumeOne here known task).bind fun c₁ event h₁ => ?_
    obtain ⟨hof₁, hs₁⟩ := h₁
    refine (ih hs₁).bind fun c₂ events h₂ => ?_
    obtain ⟨hof₂, hs₂⟩ := h₂
    refine yields_done ⟨fun x hx => ?_, ?_⟩
    · exact (List.mem_append.1 hx).elim (hof₁ x) (hof₂ x)
    · rw [Ledger.replay_append]
      exact hs₂

/-- The tasks of a departed node have been seen to, or the index could not be read and nothing has
changed. -/
def BatchSeenTo (Holding : RecordStore → Option HostRecord → Prop) (here : NodeId) (l : Ledger)
    (c' : Cluster) : Except HandlerError (List ClusterEvent) → Prop
  | .ok events => TasksSeenTo Holding here l c' events
  | .error cause => (∃ e, cause = .index e) ∧ Shows Holding here c' l

theorem Shows.decideAll (h : Shows Holding a.node c l) (here : NodeId) (tasks : OrderedSet TaskId) :
    Yields a (Handler.decideAll here tasks).run c (BatchSeenTo Holding a.node l) := by
  rw [Handler.decideAll, Handler.run_orFail_bind]
  refine yields_ask (by simp [Request.parts]) fun c₁ known h₁ => ?_
  have hs₁ := h.answered h₁ (by simp [Request.parts])
  cases known with
  | error e => exact yields_done ⟨⟨e, rfl⟩, hs₁⟩
  | ok known => exact (hs₁.resumeEach here known tasks.toList).bind fun c₂ events h₂ => yields_done h₂

theorem Shows.resumeTasks (h : Shows Holding a.node c l) (here : NodeId) (departed : Member) :
    Yields a (Handler.resumeTasks here departed).run c (BatchSeenTo Holding a.node l) := by
  rw [Handler.run_resumeTasks]
  refine yields_ask (by simp [Request.parts]) fun c₁ tasks h₁ => ?_
  have hs₁ := h.answered h₁ (by simp [Request.parts])
  cases tasks with
  | error e => exact yields_done ⟨⟨e, rfl⟩, hs₁⟩
  | ok tasks =>
    dsimp only
    split
    · refine yields_ask (by simp [Request.parts]) fun c₂ _ h₂ => yields_done ⟨by simp, ?_⟩
      exact hs₁.answered h₂ (by simp [Request.parts])
    · refine yields_ask (by simp [Request.parts]) fun c₂ _ h₂ => ?_
      have hs₂ := hs₁.answered h₂ (by simp [Request.parts])
      refine yields_ask (by simp [Request.parts]) fun c₃ _ h₃ => ?_
      have hs₃ := hs₂.answered h₃ (by simp [Request.parts])
      refine (hs₃.decideAll here tasks).bind fun c₄ result h₄ => ?_
      refine yields_ask (by simp [Request.parts]) fun c₅ _ h₅ => yields_done ?_
      cases result with
      | ok events => exact ⟨h₄.1, h₄.2.answered h₅ (by simp [Request.parts])⟩
      | error cause => exact ⟨h₄.1, h₄.2.answered h₅ (by simp [Request.parts])⟩

theorem Shows.memberLeft (hstore : RecordStore.IsStore Holding) (h : Shows Holding a.node c l)
    (here : NodeId) (departed : Member) :
    Yields a (Handler.memberLeft here departed).run c fun c' r =>
      Accounted Holding a.node l (.left departed) c' (some r) := by
  refine yields_ask (by simp [Request.parts]) fun c₁ _ h₁ => ?_
  have hs₁ := h.answered h₁ (by simp [Request.parts])
  refine (hs₁.resumeTasks here departed).bind fun c₂ resumed h₂ => ?_
  cases resumed with
  | ok events =>
    obtain ⟨hof, hs₂⟩ := h₂
    refine (hs₂.forgetHost hstore departed).bind fun c₃ forgotten h₃ => yields_done ?_
    cases forgotten with
    | ok more =>
      refine ⟨events ++ more, .returned, ?_⟩
      rw [Ledger.replay_append]
      exact h₃.2
    | error cause => exact ⟨events, .unforgotten h₃.1 hof, h₃.2⟩
  | error cause =>
    obtain ⟨⟨e, rfl⟩, hs₂⟩ := h₂
    refine (hs₂.forgetHost hstore departed).bind fun c₃ forgotten h₃ => yields_done ?_
    cases forgotten with
    | ok events => exact ⟨events, .unread h₃.1, h₃.2⟩
    | error cause => exact ⟨[], .unread (.inl rfl), h₃.2⟩

/-! ## 6. Changes of attributes -/

theorem started_of_not_start {r : Request} (hr : ∀ task, r ≠ .startTask task) :
    ((c.answer a r).1.node a.node).runner.started = (c.node a.node).runner.started := by
  cases r with
  | startTask task => exact absurd rfl (hr task)
  | runningCount =>
    rw [answer, askCount]
    dsimp only
    split
    · rfl
    · rw [node_setNode, if_pos rfl]
      show (c.node a.node).runner.count.1.started = _
      rw [TaskRunner.count]
      split <;> rfl
  | _ => rw [answer_runner (by simp [Request.parts])]

/-- Taking on a status starts no task. -/
theorem ends_started (settings : Settings) {target : Status} {value : String}
    (hvalue : Status.ofText? value = some target) (c : Cluster) :
    Ends a (Handler.statusPublished settings value).run c fun c' _ =>
      (c'.node a.node).runner.started = (c.node a.node).runner.started := by
  have hasks : (Handler.statusPublished settings value).run.Asks fun r =>
      ∀ task, r ≠ .startTask task := by
    refine (Handler.statusPublished_follows settings hvalue).asks Request.reply_nonempty ?_
    rintro g r reply g' h task rfl
    cases h with
    | poll hr => exact hr
  exact ends_of_asks (P := fun d => (d.node a.node).runner.started = _)
    (fun d r hr hd => (started_of_not_start hr).trans hd) hasks rfl

theorem Handled.accounted {settings : Settings} {target : Status} {member : Member}
    {key value : String} {r : Option (Except HandlerError (List ClusterEvent))}
    (hh : Handled a settings.statusAttribute target c c' r)
    (hstarted : (c'.node a.node).runner.started = (c.node a.node).runner.started)
    (h : Shows Holding a.node c l) :
    Accounted Holding a.node l (.attributeChanged member key value) c' r := by
  obtain ⟨events, hpath, hof, -, htold⟩ := hh.told
  rw [h.status] at hpath
  refine ⟨events, ?_, ?_⟩
  · cases r with
    | none => exact .stopped hof
    | some r =>
      cases r with
      | ok x =>
        obtain rfl := htold x rfl
        exact .returned
      | error cause =>
        have hresult := hh.result (Option.some_ne_none _)
        split at hresult
        · obtain ⟨x, hx⟩ := hresult
          cases hx
        · obtain ⟨e, he⟩ := hresult
          cases he
          exact .unpublished hof
  · rw [Ledger.replay_of_status hof hpath]
    refine ⟨rfl, ?_, ?_⟩
    · rw [hstarted]
      exact h.started
    · rw [hh.kept.store (by simp)]
      exact h.hosts

theorem Shows.attributeChanged (h : Shows Holding a.node c l) (settings : Settings)
    (member : Member) (key value : String) :
    Ends a (Handler.attributeChanged settings member key value).run c
      (Accounted Holding a.node l (.attributeChanged member key value)) := by
  rw [Handler.attributeChanged, Handler.run_lift_bind]
  refine ends_request (by simp [Request.parts]) fun c₁ _ h₁ => ?_
  have hs₁ := h.answered h₁ (by simp [Request.parts])
  split
  · rw [Handler.run_lift_bind]
    refine ends_request (by simp [Request.parts]) fun c₂ _ h₂ => ends_done ⟨[], .returned, ?_⟩
    exact hs₁.answered h₂ (by simp [Request.parts])
  · cases hvalue : Status.ofText? value with
    | none =>
      rw [Handler.run_statusPublished, hvalue]
      exact ends_done ⟨[], .unknown, hs₁⟩
    | some target =>
      refine ((statusPublished_handled settings hvalue).and (ends_started settings hvalue c₁)).mono ?_
      intro c' r hr
      exact hr.1.accounted hr.2 hs₁

/-! ## 7. Runs -/

/-- What a node does about an event, with the account of it. -/
theorem Shows.membershipEvent (hstore : RecordStore.IsStore Holding) (h : Shows Holding a.node c l)
    (tracing : Handler.Tracing) (here : NodeId) (settings : Settings) (e : MembershipEvent) :
    Ends a (Handler.membershipEvent tracing here settings e) c (Accounted Holding a.node l e) := by
  refine Ends.membershipEvent ?_ ?_
  · intro c d r hcd hc
    obtain ⟨events, haccount, hs⟩ := hc
    exact ⟨events, haccount, hs.unlogged hcd⟩
  · cases e with
    | joined member members =>
      refine (h.memberJoined hstore member members).ends.mono fun c' r hr => ?_
      obtain ⟨x, rfl, hx⟩ := hr
      exact hx
    | left member =>
      refine (h.memberLeft hstore here member).ends.mono fun c' r hr => ?_
      obtain ⟨x, rfl, hx⟩ := hr
      exact hx
    | attributeChanged member key value => exact h.attributeChanged settings member key value

/-- The handling of an event by a node. -/
abbrev EventCall := Occasion MembershipEvent (Except HandlerError (List ClusterEvent))

/-- Events handled one after another on the node of `a`, while nobody else writes what is its own. -/
abbrev EventCourse (Holding : RecordStore → Option HostRecord → Prop) (a : Actor)
    (tracing : Handler.Tracing) (settings : Settings) (c : Cluster) (os : List EventCall)
    (c' : Cluster) : Prop :=
  Course a (Handler.membershipEvent tracing a.node settings) (LeftAlone Holding a.node) c os c'

/-- So much for each of the calls. -/
abbrev AllAccounted (os : List EventCall) (accounts : List (List ClusterEvent)) : Prop :=
  List.Forall₂ (fun o events => Account o.about o.result events) os accounts

/-- Calls that all return something have returned all there is. -/
theorem AllAccounted.eq_told {os : List EventCall} {accounts : List (List ClusterEvent)}
    (h : AllAccounted os accounts) (hok : ∀ o ∈ os, ∃ events, o.result = some (.ok events)) :
    accounts = os.map Occasion.told := by
  induction h with
  | nil => rfl
  | @cons o events os accounts ho _ ih =>
    have hrest := ih fun o ho => hok o (.tail _ ho)
    obtain ⟨returned, hr⟩ := hok o (.head _)
    rw [hr] at ho
    rw [List.map_cons, hrest, ho.eq_returned, Occasion.told, hr]

section
variable {tracing : Handler.Tracing} {settings : Settings} {os : List EventCall}

theorem EventCourse.accounted (hstore : RecordStore.IsStore Holding)
    (h : EventCourse Holding a tracing settings c os c') (hc : Shows Holding a.node c l) :
    ∃ accounts, AllAccounted os accounts ∧ Shows Holding a.node c' (l.replay accounts.flatten) := by
  have heach := h.each (Q := fun e d d' r => ∀ l, Shows Holding a.node d l →
    Accounted Holding a.node l e d' r) fun e d l hd => hd.membershipEvent hstore _ _ _ e
  refine h.keeps (P := fun os c' => ∃ accounts, AllAccounted os accounts ∧
    Shows Holding a.node c' (l.replay accounts.flatten)) heach ⟨[], .nil, hc⟩
    (fun {os o} ho hp => ?_) fun hs hp => ?_
  · obtain ⟨accounts, haccounts, hbefore⟩ := hp
    obtain ⟨events, haccount, hafter⟩ := ho _ hbefore
    refine ⟨accounts ++ [events], List.rel_append haccounts (.cons haccount .nil), ?_⟩
    rw [List.flatten_append, List.flatten_singleton, Ledger.replay_append]
    exact hafter
  · obtain ⟨accounts, haccounts, hbefore⟩ := hp
    exact ⟨accounts, haccounts, hbefore.leftAlone hs⟩

/-- Whatever fails and recovers, the ledger of a node comes out right from the accounts of its calls;
and where all calls return events, from these. -/
theorem effects_accounted_for (hstore : RecordStore.IsStore Holding)
    (h : EventCourse Holding a tracing settings c os c') (hc : Shows Holding a.node c l) :
    (∃ accounts, AllAccounted os accounts ∧ Shows Holding a.node c' (l.replay accounts.flatten)) ∧
    ((∀ o ∈ os, ∃ events, o.result = some (.ok events)) →
      Shows Holding a.node c' (l.replay (os.flatMap Occasion.told))) := by
  obtain ⟨accounts, haccounts, hs⟩ := h.accounted hstore hc
  refine ⟨⟨accounts, haccounts, hs⟩, fun hok => ?_⟩
  rw [haccounts.eq_told hok] at hs
  rw [List.flatMap_def]
  exact hs

theorem leftAlone_setOffline {here : NodeId} (offline : Bool) (c : Cluster) :
    LeftAlone Holding here c (c.setOffline offline) := ⟨rfl, rfl, fun _ h => h⟩

/-- A node that pauses during an outage does not say so. -/
theorem unpublished_pause_untold : ∃ (os : List EventCall) (c' : Cluster),
    EventCourse RecordStore.Remembers ⟨⟨"a"⟩, 0, 0⟩ .off default (.empty default "node-tasks" default)
      os c' ∧
    os.map (·.about) = [.attributeChanged ⟨⟨"a"⟩, ⟨"hA"⟩⟩ "node.status" "PAUSE"] ∧
    Shows RecordStore.Remembers ⟨"a"⟩ (.empty default "node-tasks" default) ⟨.active, ∅, []⟩ ∧
    ¬ Shows RecordStore.Remembers ⟨"a"⟩ c'
      (Ledger.replay ⟨.active, ∅, []⟩ (os.flatMap Occasion.told)) := by
  have hdown : EventCourse RecordStore.Remembers ⟨⟨"a"⟩, 0, 0⟩ .off default
      (.empty default "node-tasks" default) _ _ :=
    .call (.attributeChanged ⟨⟨"a"⟩, ⟨"hA"⟩⟩ "node.status" "PAUSE")
      (.elsewhere .nil (leftAlone_setOffline true _))
  refine ⟨_, _, hdown, rfl, ⟨rfl, rfl, none, ⟨_, rfl, rfl⟩, rfl⟩, fun h => ?_⟩
  have hstatus := h.status
  revert hstatus
  decide

/-- A member comes and goes, and in between the node pauses during an outage. -/
theorem pause_between_arrival_and_departure : ∃ (os : List EventCall) (c' : Cluster),
    EventCourse RecordStore.Remembers ⟨⟨"a"⟩, 0, 0⟩ .off default (.empty default "node-tasks" default)
      os c' ∧
    os.map (·.about) = [.joined ⟨⟨"b"⟩, ⟨"hB"⟩⟩ [⟨⟨"b"⟩, ⟨"hB"⟩⟩],
      .attributeChanged ⟨⟨"a"⟩, ⟨"hA"⟩⟩ "node.status" "PAUSE", .left ⟨⟨"b"⟩, ⟨"hB"⟩⟩] ∧
    os.map Occasion.told = [[.hostsAdded [⟨"hB"⟩]], [], [.hostRemoved ⟨"hB"⟩]] ∧
    ∃ accounts, AllAccounted os accounts ∧
      Shows RecordStore.Remembers ⟨"a"⟩ c' (Ledger.replay ⟨.active, ∅, []⟩ accounts.flatten) := by
  have harrival : EventCourse RecordStore.Remembers ⟨⟨"a"⟩, 0, 0⟩ .off default
      (.empty default "node-tasks" default) _ _ :=
    .call (.joined ⟨⟨"b"⟩, ⟨"hB"⟩⟩ [⟨⟨"b"⟩, ⟨"hB"⟩⟩]) .nil
  have hpause : EventCourse RecordStore.Remembers ⟨⟨"a"⟩, 0, 0⟩ .off default
      (.empty default "node-tasks" default) _ _ :=
    .call (.attributeChanged ⟨⟨"a"⟩, ⟨"hA"⟩⟩ "node.status" "PAUSE")
      (harrival.elsewhere (leftAlone_setOffline true _))
  have hdeparture : EventCourse RecordStore.Remembers ⟨⟨"a"⟩, 0, 0⟩ .off default
      (.empty default "node-tasks" default) _ _ :=
    .call (.left ⟨⟨"b"⟩, ⟨"hB"⟩⟩) (hpause.elsewhere (leftAlone_setOffline false _))
  have haccounts := effects_accounted_for (l := ⟨.active, ∅, []⟩) RecordStore.remembers_isStore
    hdeparture ⟨rfl, rfl, none, ⟨_, rfl, rfl⟩, rfl⟩
  refine ⟨_, _, hdeparture, rfl, ?_, haccounts.1⟩
  decide

end

end Cluster

end ClusterKeeper
