import ClusterKeeper.Proofs.Course
import ClusterKeeper.Proofs.Status.Conduct

/-!
# `Proofs/Status/Handling.lean` — what comes of one value of the status attribute

A call of a status machine alone, to each of its ends. It may be told that it cannot publish, and
its clock may stop it while it waits; what it has written until then stays written. In every case its
status has gone from what it was to what it is by changes that it can tell of (`Handled`), and it has
told of them if it came to its end and could publish.

Whether a call drains is decided by the status that it finds, and by nothing else. A call that does
not drain asks neither clock nor runner, so it always has a result.
-/

set_option autoImplicit false

namespace ClusterKeeper

/-! ## 1. What events tell of a status -/

namespace ClusterEvent

/-- The change of the local status that an event tells of. -/
def change? : ClusterEvent → Option (Status × Status)
  | statusChanged old new => some (old, new)
  | _ => none

def endsDrain : ClusterEvent → Bool
  | drainFinished _ _ _ _ => true
  | _ => false

/-- Events of a status machine. -/
def isOfStatus : ClusterEvent → Bool
  | statusChanged _ _ | drainFinished _ _ _ _ => true
  | _ => false

def changes (events : List ClusterEvent) : List (Status × Status) := events.filterMap change?

theorem changes_append (events more : List ClusterEvent) :
    changes (events ++ more) = changes events ++ changes more := List.filterMap_append

/-- What there is to tell when a status is written over another. -/
def ofChange (old new : Status) : List ClusterEvent :=
  if old = new then [] else [statusChanged old new]

theorem of_mem_ofChange {old new : Status} :
    ∀ x ∈ ofChange old new, x.isOfStatus = true ∧ x.endsDrain = false := by
  intro x hx
  rw [ofChange] at hx
  split at hx
  · exact absurd hx List.not_mem_nil
  · obtain rfl := List.mem_singleton.1 hx
    exact ⟨rfl, rfl⟩

end ClusterEvent

open ClusterEvent (changes)

/-- Changes from one status to another, each from where the one before it led, and to another. -/
def Status.Path : Status → List (Status × Status) → Status → Prop
  | s, [], t => s = t
  | s, (old, new) :: rest, t => s = old ∧ old ≠ new ∧ Path new rest t

theorem Status.Path.append {s u t : Status} {first rest : List (Status × Status)}
    (h : s.Path first u) (h' : u.Path rest t) : s.Path (first ++ rest) t := by
  induction first generalizing s with
  | nil =>
    obtain rfl : s = u := h
    exact h'
  | cons change first ih => exact ⟨h.1, h.2.1, ih h.2.2⟩

theorem Status.path_ofChange (old new : Status) :
    old.Path (changes (ClusterEvent.ofChange old new)) new := by
  rw [ClusterEvent.ofChange]
  split
  · next hsame => exact hsame
  · next hchanged => exact ⟨rfl, hchanged, rfl⟩

namespace Cluster

def statusOf (c : Cluster) (id : NodeId) : Status := (c.node id).status.status

/-- How often the runner of a node was asked how many tasks are running. -/
def countQueries (c : Cluster) (id : NodeId) : Nat := (c.node id).runner.countQueries

/-- The substrate is up, as far as this value is concerned. -/
def canPublish (c : Cluster) (value : String) : Bool :=
  !c.substrate.offline && (c.faults.reason? .publish value).isNone

variable {c c' : Cluster}

theorem publish_of_can (asker : NodeId) (key : String) {value : String}
    (h : c.canPublish value = true) :
    (c.publish asker key value).2 = .ok () := by
  rw [canPublish, Bool.and_eq_true, Bool.not_eq_true', Option.isNone_iff_eq_none] at h
  rw [publish, faulty_of_none h.2]
  show (c.substrate.publish asker key value).2 = _
  rw [Substrate.publish_result, h.1]
  rfl

/-- What cannot be published leaves all attributes as they were. -/
theorem publish_of_cannot (asker : NodeId) (key : String) {value : String}
    (h : c.canPublish value = false) :
    ∃ e, (c.publish asker key value).2 = .error e ∧ ∀ id k,
      (c.publish asker key value).1.substrate.attribute? id k = c.substrate.attribute? id k := by
  cases hfault : c.faults.reason? .publish value with
  | some reason =>
    refine ⟨.publishFailed reason, ?_, fun id k => ?_⟩
    · rw [publish, faulty, hfault]
    · rw [publish, faulty, hfault]
  | none =>
    have hoffline : c.substrate.offline = true := by
      rw [canPublish, hfault] at h
      simpa using h
    refine ⟨.publishFailed Substrate.outage, ?_, fun id k => ?_⟩
    · rw [publish, faulty_of_none hfault]
      show (c.substrate.publish asker key value).2 = _
      rw [Substrate.publish_result, hoffline]
      rfl
    · rw [publish, faulty_of_none hfault]
      show (c.substrate.publish asker key value).1.attribute? id k = _
      simp only [Substrate.publish, Substrate.noting, hoffline, if_pos]
      rfl

variable {a : Actor} {parts : List Part}

theorem Kept.statusOf (h : Kept a parts c c') (hp : .status ∉ parts) :
    c'.statusOf a.node = c.statusOf a.node := by
  rw [Cluster.statusOf, h.node.status hp, Cluster.statusOf]

theorem Kept.countQueries (h : Kept a parts c c') (hp : .runner ∉ parts) :
    c'.countQueries a.node = c.countQueries a.node := by
  rw [Cluster.countQueries, h.node.runner hp, Cluster.countQueries]

theorem Kept.canPublish (h : Kept a parts c c') (value : String) :
    c'.canPublish value = c.canPublish value := by
  rw [Cluster.canPublish, h.offline, h.faults, Cluster.canPublish]

end Cluster

/-! ## 2. Waiting -/

namespace Handler

open Cluster

variable {a : Actor} {c : Cluster}

/-- What a drain asks for: it looks, it waits, and it says so. -/
def Waits : Request → Prop
  | .runningCount | .now | .sleep _ | .log _ => True
  | _ => False

theorem Waits.parts {r : Request} (h : Waits r) : r.parts ⊆ [.runner, .clock, .log] := by
  cases r <;> simp_all [Waits, Request.parts]

theorem Waits.of_polls {r : Request} (h : Transition.Polls r) : Waits r := by
  cases r <;> trivial

theorem drain_asks (settings : Settings) : (drain settings).Asks Waits := by
  refine .request trivial fun _ => .request trivial fun start => ?_
  refine ((await_polls _ _).mono fun _ => .of_polls).bind fun seen => ?_
  refine .request trivial fun finish => ?_
  split
  · exact .request trivial fun _ => trivial
  · exact .request trivial fun _ => trivial

end Handler

namespace TaskRunner

theorem count_calls (r : TaskRunner) : r.count.1.calls = r.calls.add .count := by
  rw [count]
  split <;> rfl

theorem countQueries_count (r : TaskRunner) : r.count.1.countQueries = r.countQueries + 1 := by
  rw [countQueries, count_calls, History.toList_add, List.count_append, countQueries]
  rfl

end TaskRunner

namespace Cluster

variable {a : Actor} {c c' : Cluster}

theorem countQueries_look {n : Nat} (h : c.answer a .runningCount = (c', some n)) :
    c'.countQueries a.node = c.countQueries a.node + 1 := by
  rw [answer, askCount] at h
  dsimp only at h
  split at h
  · cases h
  · cases h
    rw [countQueries, node_setNode, if_pos rfl]
    exact TaskRunner.countQueries_count _

theorem countQueries_of_waits {r : Request} (hr : Handler.Waits r) {n : Nat}
    (hn : n ≤ c.countQueries a.node) : n ≤ (c.answer a r).1.countQueries a.node := by
  cases ha : c.answer a r with
  | mk c' reply =>
    have hkept := kept_of_answered ha
    cases r with
    | runningCount =>
      cases reply with
      | none =>
        rw [answer, askCount] at ha
        dsimp only at ha
        split at ha
        · cases ha
          exact hn
        · cases ha
      | some count =>
        rw [countQueries_look ha]
        exact Nat.le_succ_of_le hn
    | now | sleep | log =>
      rw [hkept.countQueries (by simp [Request.parts])]
      exact hn
    | _ => exact hr.elim

end Cluster

namespace Handler

open Cluster

variable {a : Actor} {c : Cluster}

/-- A drain that has looked has asked the runner. -/
theorem look_ends {α : Type} {next : Request.Reply .runningCount → Handler α}
    (h : (Program.ask .runningCount next).Asks Waits) :
    Ends a (.ask .runningCount next) c fun c' r =>
      r ≠ none → c.countQueries a.node < c'.countQueries a.node := by
  cases ha : c.answer a .runningCount with
  | mk c₁ reply =>
    cases reply with
    | none =>
      rw [Ends, run_ask_none ha]
      exact fun hr => absurd rfl hr
    | some count =>
      rw [Ends, run_ask_some ha]
      have hlater : Ends a (next count) c₁ fun c' _ =>
          c₁.countQueries a.node ≤ c'.countQueries a.node :=
        ends_of_asks (fun d r hr hd => countQueries_of_waits hr hd) (h.2 count) le_rfl
      intro _
      refine lt_of_lt_of_le ?_ hlater
      rw [countQueries_look ha]
      exact Nat.lt_succ_self _

theorem await_ends (wait : BoundedWait) (satisfies : Nat → Bool) :
    Ends a (wait.await drainSurroundings satisfies) c fun c' r =>
      r ≠ none → c.countQueries a.node < c'.countQueries a.node := by
  refine ends_request (by simp [Request.parts]) fun c₁ now ha => ?_
  have hkept := (kept_of_answered ha).countQueries (by simp [Request.parts])
  rw [← hkept]
  have hpoll := (poll_polls wait satisfies (wait.deadline? now) wait.maxPolls 0).mono
    fun _ => Waits.of_polls
  cases h : wait.maxPolls with
  | zero =>
    rw [h] at hpoll
    exact look_ends hpoll
  | succ remaining =>
    rw [h] at hpoll
    exact look_ends hpoll

/-- A drain that comes to its end has looked, and tells what it saw. -/
theorem drain_ends (settings : Settings) : Ends a (drain settings) c fun c' r =>
    Kept a [.runner, .clock, .log] c c' ∧ ∀ x ∈ r,
      (∃ polls running waited timedOut, x = .drainFinished polls running waited timedOut) ∧
      c.countQueries a.node < c'.countQueries a.node := by
  refine (ends_kept ((drain_asks settings).mono fun _ => Waits.parts) c).and ?_
  refine ends_request (by simp [Request.parts]) fun c₁ _ h₁ => ?_
  refine ends_request (by simp [Request.parts]) fun c₂ start h₂ => ?_
  rw [← (kept_of_answered h₁).countQueries (by simp [Request.parts]),
    ← (kept_of_answered h₂).countQueries (by simp [Request.parts])]
  refine (await_ends _ _).bind (fun c₃ seen h₃ => ?_) fun _ _ x hx => ?_
  · have hlooked := h₃ (Option.some_ne_none _)
    refine ends_request (by simp [Request.parts]) fun c₄ finish h₄ => ?_
    have hkept₄ := (kept_of_answered h₄).countQueries (by simp [Request.parts])
    rw [← hkept₄] at hlooked
    have hend : ∀ (level : LogLevel) (message : String) (fields : LogFields) (event : ClusterEvent),
        (∃ polls running waited timedOut, event = .drainFinished polls running waited timedOut) →
        Ends a (log level message fields >>= fun _ => pure event) c₄ fun c' r => ∀ x ∈ r,
          (∃ polls running waited timedOut, x = .drainFinished polls running waited timedOut) ∧
          c₂.countQueries a.node < c'.countQueries a.node := by
      intro level message fields event hevent
      refine ends_request (by simp [Request.parts]) fun c₅ _ h₅ => ends_done ?_
      rintro _ ⟨⟩
      rw [(kept_of_answered h₅).countQueries (by simp [Request.parts])]
      exact ⟨hevent, hlooked⟩
    split
    · exact hend _ _ _ _ ⟨_, _, _, _, rfl⟩
    · exact hend _ _ _ _ ⟨_, _, _, _, rfl⟩
  · cases hx

/-! ## 3. Writing and publishing -/

/-- A write tells of the change that it makes, if it makes one. -/
theorem setLocal_tells (s : Status) : Yields a (setLocal s) c fun c' events =>
    Kept a [.status, .log] c c' ∧ c'.statusOf a.node = s ∧
      events = ClusterEvent.ofChange (c.statusOf a.node) s := by
  refine yields_ask (by simp [Request.parts]) fun c₁ previous h₁ => ?_
  have hkept₁ : Kept a [.status, .log] c c₁ :=
    (kept_of_answered h₁).mono (by simp [Request.parts])
  have hwrite : c.writeStatus a.node s = (c₁, previous) := of_replied h₁
  have hstatus : c₁.statusOf a.node = s := status_of_writeStatus hwrite
  obtain rfl : c.statusOf a.node = previous := congrArg Prod.snd hwrite
  split
  · next hsame => exact yields_done ⟨hkept₁, hstatus, (if_pos hsame).symm⟩
  · next hchanged =>
    refine yields_ask (by simp [Request.parts]) fun c₂ _ h₂ => yields_done ?_
    have hkept₂ := kept_of_answered h₂
    refine ⟨hkept₁.trans (hkept₂.mono (by simp [Request.parts])), ?_, (if_neg hchanged).symm⟩
    rw [hkept₂.statusOf (by simp [Request.parts])]
    exact hstatus

theorem setLocal_yields (s : Status) : Yields a (setLocal s) c fun c' events =>
    Kept a [.status, .log] c c' ∧ c'.statusOf a.node = s ∧
      (c.statusOf a.node).Path (changes events) s ∧
      ∀ x ∈ events, x.isOfStatus = true ∧ x.endsDrain = false := by
  refine (setLocal_tells s).mono fun c' events h => ?_
  obtain ⟨hkept, hstatus, rfl⟩ := h
  exact ⟨hkept, hstatus, Status.path_ofChange _ _, ClusterEvent.of_mem_ofChange⟩

/-- What a call publishes and answers, once the status is written. -/
theorem publish_ends {α : Type} (settings : Settings) (s : Status) (x : α) :
    Ends a (publish settings s >>= fun _ => (pure x : Attempt α)).run c fun c' r =>
      Kept a [.substrate] c c' ∧
      if c.canPublish s.text then
        r = some (.ok x) ∧
          c'.substrate.attribute? a.node settings.statusAttribute = some s.text
      else
        (∃ e, r = some (.error (.substrate e))) ∧
          c'.substrate.attribute? a.node settings.statusAttribute =
            c.substrate.attribute? a.node settings.statusAttribute := by
  rw [publish, run_orFail_bind]
  refine ends_request (by simp [Request.parts]) fun c₁ result h₁ => ?_
  have hkept : Kept a [.substrate] c c₁ := kept_of_answered h₁
  have hask : c.publish a.node settings.statusAttribute s.text = (c₁, result) := of_replied h₁
  cases hcan : c.canPublish s.text with
  | true =>
    have hok := publish_of_can a.node settings.statusAttribute hcan
    rw [hask] at hok
    obtain rfl : result = .ok () := hok
    refine ends_done ⟨hkept, ?_⟩
    rw [if_pos rfl]
    exact ⟨rfl, (publish_attribute hask _ _).trans (if_pos ⟨rfl, rfl⟩)⟩
  | false =>
    obtain ⟨e, he, hsame⟩ := publish_of_cannot a.node settings.statusAttribute hcan
    rw [hask] at he hsame
    obtain rfl : result = .error e := he
    refine ends_done ⟨hkept, ?_⟩
    rw [if_neg Bool.false_ne_true]
    exact ⟨⟨e, rfl⟩, hsame _ _⟩

end Handler

/-! ## 4. A call -/

namespace Cluster

/-- A call drains on the way into maintenance. -/
def Drains (c : Cluster) (id : NodeId) (target : Status) : Prop :=
  target = .maintenance ∧ c.statusOf id ≠ .maintenance

/-- What has become of a node when a call to take on a status has ended, with this result or, where
its clock stopped it, with none. -/
structure Handled (a : Actor) (key : String) (target : Status) (c c' : Cluster)
    (r : Option (Except HandlerError (List ClusterEvent))) : Prop where
  kept : Kept a [.locks, .status, .log, .runner, .clock, .substrate] c c'
  /-- The events are what the call has to tell, whether or not it comes to telling it. -/
  told : ∃ events, (c.statusOf a.node).Path (changes events) (c'.statusOf a.node) ∧
    (∀ x ∈ events, x.isOfStatus = true) ∧
    (r ≠ none → ((∃ x ∈ events, x.endsDrain = true) ↔ c.Drains a.node target)) ∧
    ∀ x, r = some (.ok x) → x = events
  status : r ≠ none → c'.statusOf a.node = target
  result : r ≠ none → if c.canPublish target.text then ∃ events, r = some (.ok events)
    else ∃ e, r = some (.error (.substrate e))
  published : r ≠ none → c'.substrate.attribute? a.node key =
    if c.canPublish target.text then some target.text else c.substrate.attribute? a.node key
  drained : c.Drains a.node target → r ≠ none → c.countQueries a.node < c'.countQueries a.node
  quiet : ¬ c.Drains a.node target → r ≠ none ∧
    (c'.node a.node).runner = (c.node a.node).runner ∧
    (c'.node a.node).clock = (c.node a.node).clock

variable {a : Actor} {key : String} {target : Status} {c c' d d' : Cluster}
  {r : Option (Except HandlerError (List ClusterEvent))}

/-- Taking a lock before and giving it up after makes no difference. -/
theorem Handled.locked (h : Handled a key target d d' r) (hbefore : Kept a [.locks] c d)
    (hafter : Kept a [.locks] d' c') : Handled a key target c c' r := by
  have hstatus : d.statusOf a.node = c.statusOf a.node := hbefore.statusOf (by simp)
  have hstatus' : c'.statusOf a.node = d'.statusOf a.node := hafter.statusOf (by simp)
  have hqueries : d.countQueries a.node = c.countQueries a.node := hbefore.countQueries (by simp)
  have hqueries' : c'.countQueries a.node = d'.countQueries a.node := hafter.countQueries (by simp)
  have hcan : d.canPublish target.text = c.canPublish target.text := hbefore.canPublish _
  have hdrains : d.Drains a.node target ↔ c.Drains a.node target := by
    rw [Drains, hstatus, Drains]
  obtain ⟨events, hpath, hof, hends, htold⟩ := h.told
  rw [hstatus, ← hstatus'] at hpath
  constructor
  case kept =>
    exact (hbefore.mono (by simp)).trans (h.kept.trans (hafter.mono (by simp)))
  case told => exact ⟨events, hpath, hof, fun hr => (hends hr).trans hdrains, htold⟩
  case status => exact fun hr => hstatus'.trans (h.status hr)
  case result =>
    rw [← hcan]
    exact h.result
  case published =>
    rw [hafter.substrate (by simp), ← hcan, ← hbefore.substrate (by simp)]
    exact h.published
  case drained =>
    rw [hqueries', ← hqueries]
    exact fun hd => h.drained (hdrains.2 hd)
  case quiet =>
    intro hd
    obtain ⟨hr, hrunner, hclock⟩ := h.quiet (mt hdrains.1 hd)
    refine ⟨hr, ?_, ?_⟩
    · rw [hafter.node.runner (by simp), hrunner, hbefore.node.runner (by simp)]
    · rw [hafter.node.clock (by simp), hclock, hbefore.node.clock (by simp)]

/-- Once the status is written what is left is to publish it. -/
theorem handled_of_publish {settings : Settings} {events : List ClusterEvent}
    (hkept : Kept a [.status, .log, .runner, .clock] c d) (hstatus : d.statusOf a.node = target)
    (hpath : (c.statusOf a.node).Path (changes events) target)
    (hof : ∀ x ∈ events, x.isOfStatus = true)
    (hends : (∃ x ∈ events, x.endsDrain = true) ↔ c.Drains a.node target)
    (hdrained : c.Drains a.node target → c.countQueries a.node < d.countQueries a.node)
    (hquiet : ¬ c.Drains a.node target → Kept a [.status, .log] c d) :
    Ends a (Handler.publish settings target >>= fun _ => (pure events : Attempt _)).run d
      (Handled a settings.statusAttribute target c) := by
  refine (Handler.publish_ends settings target events).mono fun c' r h => ?_
  obtain ⟨hkept', hr⟩ := h
  have hcan : d.canPublish target.text = c.canPublish target.text := hkept.canPublish _
  have hsub : d.substrate = c.substrate := hkept.substrate (by simp)
  have hstatus' : c'.statusOf a.node = target := (hkept'.statusOf (by simp)).trans hstatus
  have hqueries : c'.countQueries a.node = d.countQueries a.node := hkept'.countQueries (by simp)
  rw [hcan, hsub] at hr
  constructor
  case kept => exact (hkept.mono (by simp)).trans (hkept'.mono (by simp))
  case told =>
    refine ⟨events, hstatus' ▸ hpath, hof, fun _ => hends, fun x hx => ?_⟩
    split at hr
    · rw [hr.1] at hx
      cases hx
      rfl
    · obtain ⟨⟨e, he⟩, -⟩ := hr
      rw [he] at hx
      cases hx
  case status => exact fun _ => hstatus'
  case result =>
    intro _
    split at hr
    · next hup =>
      rw [if_pos hup]
      exact ⟨events, hr.1⟩
    · next hdown =>
      rw [if_neg hdown]
      exact hr.1
  case published =>
    intro _
    split at hr
    · next hup =>
      rw [if_pos hup]
      exact hr.2
    · next hdown =>
      rw [if_neg hdown]
      exact hr.2
  case drained =>
    intro hd _
    rw [hqueries]
    exact hdrained hd
  case quiet =>
    intro hd
    have hkept := hquiet hd
    refine ⟨?_, ?_, ?_⟩
    · split at hr
      · rw [hr.1]
        exact Option.some_ne_none _
      · obtain ⟨⟨e, he⟩, -⟩ := hr
        rw [he]
        exact Option.some_ne_none _
    · rw [hkept'.node.runner (by simp), hkept.node.runner (by simp)]
    · rw [hkept'.node.clock (by simp), hkept.node.clock (by simp)]

variable (settings : Settings)

theorem enterMaintenance_handled (hd : c.Drains a.node .maintenance) :
    Ends a (Handler.enterMaintenance settings).run c
      (Handled a settings.statusAttribute .maintenance c) := by
  rw [Handler.enterMaintenance, Handler.run_lift_bind]
  refine (Handler.setLocal_yields .pause).bind_ends fun c₁ paused h₁ => ?_
  obtain ⟨hkept₁, hpaused, hpath₁, hof₁⟩ := h₁
  rw [Handler.run_lift_bind]
  refine (Handler.drain_ends settings).bind (fun c₂ drained h₂ => ?_) fun c₂ h₂ => ?_
  · obtain ⟨hkept₂, hdrained⟩ := h₂
    obtain ⟨⟨polls, running, waited, timedOut, rfl⟩, hlooked⟩ := hdrained drained rfl
    rw [Handler.run_lift_bind]
    refine (Handler.setLocal_yields .maintenance).bind_ends fun c₃ entered h₃ => ?_
    obtain ⟨hkept₃, hentered, hpath₃, hof₃⟩ := h₃
    rw [hkept₂.statusOf (by simp), hpaused] at hpath₃
    refine handled_of_publish ?_ hentered ?_ ?_ ?_ (fun _ => ?_) (absurd hd)
    · exact (hkept₁.mono (by simp)).trans ((hkept₂.mono (by simp)).trans (hkept₃.mono (by simp)))
    · rw [ClusterEvent.changes_append, ClusterEvent.changes_append]
      refine (hpath₁.append ?_).append hpath₃
      rfl
    · intro x hx
      simp only [List.mem_append, List.mem_singleton] at hx
      rcases hx with (hx | rfl) | hx
      · exact (hof₁ x hx).1
      · rfl
      · exact (hof₃ x hx).1
    · refine ⟨fun _ => hd, fun _ => ⟨.drainFinished polls running waited timedOut, ?_, rfl⟩⟩
      exact List.mem_append_left _ (List.mem_append_right _ (.head _))
    · rw [hkept₃.countQueries (by simp), ← hkept₁.countQueries (by simp)]
      exact hlooked
  · -- The clock stopped the drain, and the node is left in its pause.
    obtain ⟨hkept₂, -⟩ := h₂
    have hstatus : c₂.statusOf a.node = .pause := (hkept₂.statusOf (by simp)).trans hpaused
    constructor
    case kept => exact (hkept₁.mono (by simp)).trans (hkept₂.mono (by simp))
    case told =>
      refine ⟨paused, hstatus ▸ hpath₁, fun x hx => (hof₁ x hx).1, fun hr => absurd rfl hr, ?_⟩
      intro x hx
      cases hx
    case quiet => exact absurd hd
    all_goals intros; contradiction

/-- With the lock held. -/
theorem takeOn_handled (target : Status) : Ends a (Handler.takeOn settings target).run c
    (Handled a settings.statusAttribute target c) := by
  rw [Handler.takeOn, Handler.run_lift_bind]
  refine ends_request (by simp [Request.parts]) fun c₁ current h₁ => ?_
  cases h₁
  split
  · next hd =>
    obtain ⟨rfl, hne⟩ := hd
    exact enterMaintenance_handled settings ⟨rfl, hne⟩
  · next hd =>
    rw [Handler.run_lift_bind]
    refine (Handler.setLocal_yields target).bind_ends fun c₂ events h₂ => ?_
    obtain ⟨hkept, hstatus, hpath, hof⟩ := h₂
    refine handled_of_publish (hkept.mono (by simp)) hstatus hpath (fun x hx => (hof x hx).1) ?_
      (fun h => absurd h hd) fun _ => hkept
    constructor
    · intro h
      obtain ⟨x, hx, hends⟩ := h
      rw [(hof x hx).2] at hends
      cases hends
    · exact fun h => absurd h hd

/-- Taking on a status, to whatever end. -/
theorem statusPublished_handled {value : String} (hvalue : Status.ofText? value = some target) :
    Ends a (Handler.statusPublished settings value).run c
      (Handled a settings.statusAttribute target c) := by
  rw [Handler.run_statusPublished, hvalue]
  refine ends_request (by simp [Request.parts]) fun c₁ _ h₁ => ?_
  have hbefore : Kept a [.locks] c c₁ := kept_of_answered h₁
  refine (takeOn_handled settings target).bind (fun c₂ x h₂ => ?_) fun c₂ h₂ => ?_
  · refine ends_request (by simp [Request.parts]) fun c₃ _ h₃ => ends_done ?_
    exact h₂.locked hbefore (kept_of_answered h₃)
  · exact h₂.locked hbefore .refl

end Cluster

end ClusterKeeper
