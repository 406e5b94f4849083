import ClusterKeeper.Proofs.Status.Conduct
import ClusterKeeper.Proofs.Status.Steering

/-!
# `Proofs/Status/Calls.lean` — calls of a status machine, together and alone

Any number of values arrive at one status machine at any time. Its calls are interleaved request by
request, and whatever else happens leaves the status of the node, its clock and the counts of its
runner alone (`StatusMachine.Elsewhere`).

`StatusMachine.Serializes` says what it means that the calls might as well have been made one after
another: each of them, run alone from the steering that the one before it left, writes and publishes
the same with the same results, and ends with the same.

A call under way (`StatusMachine.Underway`) is compared with itself run alone. What it has been
answered so far it would have been answered by *any* cluster steered as the node was when it began,
up to the moment when it publishes. So the cluster to run it alone from need not be chosen before;
then it is chosen so that publishing goes the same way.
-/

set_option autoImplicit false

namespace ClusterKeeper

/-! ## 1. What can be seen of a team -/

def Exchange.isEffect (e : Exchange) : Bool :=
  match e.request with
  | .writeStatus _ | .publish _ _ => true
  | _ => false

def Exchange.takesLock (e : Exchange) : Bool :=
  match e.request with
  | .acquire _ => true
  | _ => false

def Exchange.written? (e : Exchange) : Option Status :=
  match e.request with
  | .writeStatus s => some s
  | _ => none

namespace Transition

variable {r : Request} {reply : r.Reply}

/-- What a drain does is determined by the steering of its node. -/
theorem Polls.steered (h : Polls r) : r.Steered := by
  cases r <;> trivial

theorem Polls.keeps_status (h : Polls r) : .status ∉ r.parts := by
  cases r <;> simp_all [Polls, Request.parts]

theorem Polls.not_acquire (h : Polls r) : (⟨r, reply⟩ : Exchange).takesLock = false := by
  cases r <;> trivial

theorem Polls.not_effect (h : Polls r) : (⟨r, reply⟩ : Exchange).isEffect = false := by
  cases r <;> trivial

theorem Polls.not_written (h : Polls r) : (⟨r, reply⟩ : Exchange).written? = none := by
  cases r <;> trivial

end Transition

namespace Team

variable {ι α : Type}

/-- The activities in the order in which they got locks. -/
def acquired (t : Team ι α) : List ι := (t.trace.filter (·.2.takesLock)).map (·.1)

/-- All writes and publications, by whom, in order. -/
def effects (t : Team ι α) : List (ι × Exchange) := t.trace.filter (·.2.isEffect)

def writes [DecidableEq ι] (t : Team ι α) (i : ι) : List Status :=
  (t.trace.filter (·.1 = i)).filterMap (·.2.written?)

end Team

/-! ## 2. Calls of a status machine -/

/-- A status machine of a node, with the settings that it was made with. -/
structure StatusMachine where
  here : NodeId
  machine : Nat
  settings : Settings

namespace StatusMachine

variable (m : StatusMachine) {n : Nat} (values : Fin n → String)

abbrev Calls (n : Nat) : Type := Team (Fin n) (Except HandlerError (List ClusterEvent))

def actor (i : Fin n) : Actor := ⟨m.here, m.machine, i⟩

def call (i : Fin n) : Handler (Except HandlerError (List ClusterEvent)) :=
  (Handler.statusPublished m.settings (values i)).run

def steering (c : Cluster) : Steering := c.steering m.here

/-- What may happen beside the calls: nobody else steers the node or claims the lock. -/
structure Elsewhere (n : Nat) (c c' : Cluster) : Prop where
  steering : m.steering c' = m.steering c
  claims : Team.KeepsClaims (m.actor (n := n)) .transition c c'

/-- A call that has the cluster to itself. -/
def solo (i : Fin n) (c : Cluster) : Cluster × Option (Except HandlerError (List ClusterEvent)) :=
  (m.call values i |> Cluster.run (m.actor i)) c

def soloEffects (i : Fin n) (c : Cluster) : List (Fin n × Exchange) :=
  ((Cluster.exchanges (m.actor i) (m.call values i) c).filter (·.isEffect)).map (i, ·)

/-- Calls run alone one after another, each from a cluster steered as the one before left it. -/
inductive InTurn : Steering → List (Fin n × Cluster) → Steering → Prop
  | nobody {s : Steering} : InTurn s [] s
  | next {s : Steering} {blocks : List (Fin n × Cluster)} {i : Fin n} {c : Cluster}
      (before : InTurn s blocks (m.steering c)) :
      InTurn s (blocks ++ [(i, c)]) (m.steering (m.solo values i c).1)

/-- A call on its way into maintenance that is not over, and has written PAUSE last. -/
structure Draining (t : Calls n) (i : Fin n) : Prop where
  target : Status.ofText? (values i) = some .maintenance
  pending : ∀ result, ¬ t.Over i result
  paused : (t.writes i).getLast? = some .pause

/-- Nothing was written or published since a call wrote PAUSE. -/
def QuietSincePause (t : Calls n) (i : Fin n) : Prop :=
  ∃ before previous after,
    t.trace = before ++ (i, ⟨.writeStatus .pause, previous⟩) :: after ∧
      ∀ e ∈ after, e.2.isEffect = false

/-! ## 3. Their rule -/

def conduct (i : Fin n) : Rule Request.Reply Transition := fun p r reply p' =>
  ∃ target, Status.ofText? (values i) = some target ∧
    Transition.Conduct m.settings.statusAttribute target p r reply p'

/-- Where a call begins; one with a value that is no status is at its end. -/
def opening (i : Fin n) : Transition := if (Status.ofText? (values i)).isSome then .outside else .left

theorem actor_injective : Function.Injective fun i : Fin n => (m.actor i).activity :=
  Fin.val_injective

variable {m values}

theorem opening_inside (i : Fin n) : (opening values i).inside = false := by
  unfold opening
  split <;> rfl

theorem call_eq_of_invalid {i : Fin n} (h : Status.ofText? (values i) = none) :
    m.call values i = .done (.error (.unknownStatus (values i))) := by
  rw [call, Handler.run_statusPublished, h]

theorem call_follows (i : Fin n) :
    (m.call values i).Follows (m.conduct values i) Transition.Ending (opening values i) := by
  unfold opening
  cases h : Status.ofText? (values i) with
  | none =>
    rw [call_eq_of_invalid h]
    rfl
  | some target =>
    exact (Handler.statusPublished_follows m.settings h).map id (fun hr => ⟨target, h, hr⟩) id

theorem conduct_locks {i : Fin n} {p p' : Transition} {r : Request} {reply : r.Reply}
    (h : m.conduct values i p r reply p') : LockRule .transition p.inside r reply p'.inside := by
  obtain ⟨target, -, h⟩ := h
  exact h.locks

theorem done_of_left {i : Fin n} {p : Handler (Except HandlerError (List ClusterEvent))}
    (h : p.Follows (m.conduct values i) Transition.Ending .left) : ∃ x, p = .done x := by
  cases p with
  | done x => exact ⟨x, rfl⟩
  | ask r next =>
    obtain ⟨reply⟩ := r.reply_nonempty
    obtain ⟨p', ⟨target, -, hr⟩, -⟩ := h reply
    cases hr with
    | log hin => cases hin

/-! ## 4. A call that is under way -/

variable {i : Fin n} {es : List Exchange} {s now : Steering} {p q : Transition} {r : Request}
  {next : r.Reply → Handler (Except HandlerError (List ClusterEvent))} {reply : r.Reply}
  {c c' c₀ : Cluster}

variable (m values) in
/-- Run alone from `c₀`, the call comes by these exchanges to the same rest and steering. -/
def Replays (i : Fin n) (es : List Exchange)
    (rest : Handler (Except HandlerError (List ClusterEvent))) (now : Steering) (c₀ : Cluster) :
    Prop :=
  ∃ c₁, Cluster.Leads (m.actor i) (m.call values i) c₀ es rest c₁ ∧ m.steering c₁ = now

theorem Replays.exchange (h : m.Replays values i es (.ask r next) (m.steering c) c₀)
    (hr : r.Steered) (answered : c.answer (m.actor i) r = (c', some reply)) :
    m.Replays values i (es ++ [⟨r, reply⟩]) (next reply) (m.steering c') c₀ := by
  obtain ⟨c₁, hleads, hsteering⟩ := h
  obtain ⟨hreply, hnext⟩ := Cluster.answer_steered (a := m.actor i) hr hsteering
  rw [answered] at hreply hnext
  exact ⟨_, hleads.tail (Prod.ext rfl hreply), hnext⟩

theorem Replays.publish {key value : String}
    {next : Except SubstrateError Unit → Handler (Except HandlerError (List ClusterEvent))}
    {reply : Except SubstrateError Unit}
    (h : m.Replays values i es (.ask (.publish key value) next) (m.steering c) c₀)
    (hfaults : c₀.faults = c.faults) (honline : c₀.substrate.offline = c.substrate.offline)
    (answered : c.answer (m.actor i) (.publish key value) = (c', some reply)) :
    m.Replays values i (es ++ [⟨.publish key value, reply⟩]) (next reply) (m.steering c') c₀ := by
  obtain ⟨c₁, hleads, hsteering⟩ := h
  have hf : c₁.faults = c.faults :=
    (hleads.keeps (·.faults) fun d r => Cluster.answer_faults d _ r).trans hfaults
  have ho : c₁.substrate.offline = c.substrate.offline :=
    (hleads.keeps (·.substrate.offline) fun d r =>
      Cluster.answer_substrate_offline d _ r).trans honline
  have hreply : (c₁.publish m.here key value).2 = reply := by
    rw [Cluster.publish_reply hf ho]
    exact congrArg Prod.snd (Cluster.of_replied answered)
  refine ⟨(c₁.publish m.here key value).1, hleads.tail ?_, ?_⟩
  · show Cluster.replied (c₁.publish m.here key value) = _
    rw [← hreply]
    rfl
  · have hafter := Cluster.answer_publish_steering c (m.actor i) key value m.here
    rw [answered] at hafter
    show Cluster.steering (c₁.answer (m.actor i) (.publish key value)).1 m.here = c'.steering m.here
    rw [Cluster.answer_publish_steering, hafter]
    exact hsteering

variable (m values) in
/-- A call that has come from the steering `s` to this rest: it could have come there alone, and
until it publishes, from any cluster with that steering. -/
structure Underway (i : Fin n) (s : Steering) (es : List Exchange)
    (rest : Handler (Except HandlerError (List ClusterEvent))) (now : Steering) (p : Transition) :
    Prop where
  somewhere : ∃ c₀, m.steering c₀ = s ∧ m.Replays values i es rest now c₀
  anywhere : p ≠ .published → ∀ c₀, m.steering c₀ = s → m.Replays values i es rest now c₀

theorem Underway.begin (c : Cluster) (i : Fin n) :
    m.Underway values i (m.steering c) [] (m.call values i) (m.steering c) .outside where
  somewhere := ⟨c, rfl, c, .refl, rfl⟩
  anywhere _ c₀ h := ⟨c₀, .refl, h⟩

theorem Underway.exchange (h : m.Underway values i s es (.ask r next) (m.steering c) p)
    (hr : r.Steered) (answered : c.answer (m.actor i) r = (c', some reply))
    (hp : p = .published → q = .published) :
    m.Underway values i s (es ++ [⟨r, reply⟩]) (next reply) (m.steering c') q where
  somewhere := by
    obtain ⟨c₀, hc₀, hreplays⟩ := h.somewhere
    exact ⟨c₀, hc₀, hreplays.exchange hr answered⟩
  anywhere hne c₀ hc₀ := (h.anywhere (fun he => hne (hp he)) c₀ hc₀).exchange hr answered

/-- The cluster to run the call alone from is one where publishing goes as it goes now. -/
theorem Underway.publish {key value : String}
    {next : Except SubstrateError Unit → Handler (Except HandlerError (List ClusterEvent))}
    {reply : Except SubstrateError Unit}
    (h : m.Underway values i s es (.ask (.publish key value) next) (m.steering c) .settled)
    (answered : c.answer (m.actor i) (.publish key value) = (c', some reply)) :
    m.Underway values i s (es ++ [⟨.publish key value, reply⟩]) (next reply) (m.steering c')
      .published where
  somewhere := by
    -- Before it published, any cluster with that steering would do; from now on it is this one.
    have hs : m.steering (c.steer m.here s) = s := Cluster.steering_steer c m.here s
    exact ⟨_, hs, (h.anywhere nofun _ hs).publish rfl rfl answered⟩
  anywhere hne := absurd rfl hne

/-- A call that has come to its end would have done so alone. -/
theorem Underway.finished {x : Except HandlerError (List ClusterEvent)}
    (h : m.Underway values i s es (.done x) now p) :
    ∃ c₀, m.steering c₀ = s ∧ m.steering (m.solo values i c₀).1 = now ∧
      (m.solo values i c₀).2 = some x ∧
      m.soloEffects values i c₀ = (es.filter (·.isEffect)).map (i, ·) := by
  obtain ⟨c₀, hc₀, c₁, hleads, hnow⟩ := h.somewhere
  have hrun : m.solo values i c₀ = (c₁, some x) := hleads.run_eq
  refine ⟨c₀, hc₀, ?_, ?_, ?_⟩
  · rw [hrun]
    exact hnow
  · rw [hrun]
  · rw [soloEffects, hleads.exchanges_eq]
    simp [Cluster.exchanges]

theorem Underway.stopped (h : m.Underway values i s es (.ask r next) (m.steering c) p)
    (hr : r.Steered) (answered : c.answer (m.actor i) r = (c', none)) :
    ∃ c₀, m.steering c₀ = s ∧ m.steering (m.solo values i c₀).1 = m.steering c' ∧
      (m.solo values i c₀).2 = none ∧
      m.soloEffects values i c₀ = (es.filter (·.isEffect)).map (i, ·) := by
  obtain ⟨c₀, hc₀, c₁, hleads, hnow⟩ := h.somewhere
  obtain ⟨hreply, hnext⟩ := Cluster.answer_steered (a := m.actor i) hr hnow
  rw [answered] at hreply hnext
  have hanswer : c₁.answer (m.actor i) r = ((c₁.answer (m.actor i) r).1, none) :=
    Prod.ext rfl hreply
  have hrun : m.solo values i c₀ = ((c₁.answer (m.actor i) r).1, none) :=
    hleads.run_eq.trans (Cluster.run_ask_none hanswer)
  refine ⟨c₀, hc₀, ?_, ?_, ?_⟩
  · rw [hrun]
    exact hnext
  · rw [hrun]
  · rw [soloEffects, hleads.exchanges_eq, Cluster.exchanges, hanswer, List.append_nil]

end StatusMachine

end ClusterKeeper
