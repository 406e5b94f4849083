import ClusterKeeper.Proofs.Status.Adoption
import Mathlib.Logic.Function.Basic
import Mathlib.Logic.Relation

/-!
# `Proofs/Status/Agreement.lean` — nodes come to agree on a status

Nodes take on whatever status anybody publishes and publish it in turn, so values race each other
between them. There is no leader and no order: an event in flight is delivered whenever it may be,
and an operator may send any value at any time.

What decides is the last status that was sent, by whomever (`Mesh.latest`). Every node either has an
event with it in flight, or has it and publishes it (`Mesh.Inv`). For if a node takes on another one,
then either it publishes something new, and so that other one is the last status sent and on its way
to everybody; or it published that other one already, and so it was not among those that have the
last status and publish it, and still has the event in flight.
-/

set_option autoImplicit false

namespace ClusterKeeper

/-- Nodes with the events in flight to each of them, and the values sent so far, the latest first. -/
structure Mesh (ι : Type) where
  cluster : Cluster
  inFlight : ι → List MembershipEvent
  sent : List String

namespace Mesh

variable {ι : Type}

def start (c : Cluster) : Mesh ι := ⟨c, fun _ => [], []⟩

def send (s : Mesh ι) (key : String) (member : Member) (value : String) : Mesh ι where
  cluster := s.cluster
  inFlight i := .attributeChanged member key value :: s.inFlight i
  sent := value :: s.sent

/-- What a node publishes now, if that is something new. No handler publishes more than once, so it is
enough to look before and after. -/
def news (key : String) (id : NodeId) (c c' : Cluster) : Option String :=
  if c'.substrate.attribute? id key = c.substrate.attribute? id key then none
  else c'.substrate.attribute? id key

def announce (s : Mesh ι) (key : String) (member : Member) : Option String → Mesh ι
  | some value => s.send key member value
  | none => s

/-- What may happen beside: statuses and attributes of the nodes stay, and they can publish. -/
structure Elsewhere (node : ι → NodeId) (key : String) (c c' : Cluster) : Prop where
  publishing : c'.Publishing
  status : ∀ i, (c'.node (node i)).status = (c.node (node i)).status
  published : ∀ i, c'.substrate.attribute? (node i) key = c.substrate.attribute? (node i) key

inductive Step [DecidableEq ι] (node : ι → NodeId) (settings : ι → Settings) (key : String) :
    Mesh ι → Mesh ι → Prop
  /-- An operator sends any value in the name of any member. -/
  | operates {s : Mesh ι} (member : Member) (value : String) :
      Step node settings key s (s.send key member value)
  /-- An event in flight is handled to the end. If the node publishes something new by that, all
  nodes are told. -/
  | delivers {s : Mesh ι} {i : ι} {e : MembershipEvent} {before after : List MembershipEvent}
      {c : Cluster} {result : Except HandlerError (List ClusterEvent)}
      (flight : s.inFlight i = before ++ e :: after)
      (handled : s.cluster.run ⟨node i, 0, 0⟩ (Handler.dispatch (node i) (settings i) e).run =
        (c, some result)) :
      Step node settings key s
        (announce ⟨c, Function.update s.inFlight i (before ++ after), s.sent⟩ key
          (c.node (node i)).member (news key (node i) s.cluster c))
  | elsewhere {s : Mesh ι} {c : Cluster} (happened : Elsewhere node key s.cluster c) :
      Step node settings key s { s with cluster := c }

abbrev Reaches [DecidableEq ι] (node : ι → NodeId) (settings : ι → Settings) (key : String) :
    Mesh ι → Mesh ι → Prop :=
  Relation.ReflTransGen (Step node settings key)

/-! ## 1. The last status sent -/

/-- The last value sent that is a status. -/
def latest (s : Mesh ι) : Option Status := (s.sent.filterMap Status.ofText?).head?

theorem latest_send (s : Mesh ι) (key : String) (member : Member) (value : String) :
    (s.send key member value).latest = (Status.ofText? value).or s.latest := by
  rw [latest, send, List.filterMap_cons]
  cases Status.ofText? value <;> rfl

theorem exists_latest {s : Mesh ι} (h : ∃ value ∈ s.sent, (Status.ofText? value).isSome) :
    ∃ status, s.latest = some status := by
  obtain ⟨value, hsent, hvalue⟩ := h
  obtain ⟨status, hstatus⟩ := Option.isSome_iff_exists.1 hvalue
  have hmem : status ∈ s.sent.filterMap Status.ofText? :=
    List.mem_filterMap.2 ⟨value, hsent, hstatus⟩
  exact Option.isSome_iff_exists.1 (List.isSome_head?.2 (List.ne_nil_of_mem hmem))

variable (node : ι → NodeId) (key : String)

def Settled (c : Cluster) (i : ι) (status : Status) : Prop :=
  (c.node (node i)).status.status = status ∧
    c.substrate.attribute? (node i) key = some status.text

def Awaits (s : Mesh ι) (i : ι) (status : Status) : Prop :=
  ∃ member, .attributeChanged member key status.text ∈ s.inFlight i

structure Inv (s : Mesh ι) : Prop where
  publishing : s.cluster.Publishing
  only : ∀ i, ∀ e ∈ s.inFlight i, ∃ member value, e = .attributeChanged member key value
  latest : ∀ status, s.latest = some status → ∀ i,
    s.Awaits key i status ∨ Settled node key s.cluster i status

variable {node key} {s : Mesh ι} {c : Cluster}

theorem Inv.start (h : c.Publishing) : (start c : Mesh ι).Inv node key where
  publishing := h
  only i e he := by cases he
  latest status h := by cases h

/-! ## 2. Steps -/

theorem only_send (only : ∀ i, ∀ e ∈ s.inFlight i, ∃ member value,
      e = .attributeChanged member key value) (member : Member) (value : String) :
    ∀ i, ∀ e ∈ (s.send key member value).inFlight i, ∃ member value,
      e = .attributeChanged member key value := by
  intro i e he
  rcases List.mem_cons.1 he with rfl | he
  · exact ⟨member, value, rfl⟩
  · exact only i e he

/-- A status that is sent is in flight to everybody, whoever had which one before. -/
theorem Inv.of_send (publishing : s.cluster.Publishing)
    (only : ∀ i, ∀ e ∈ s.inFlight i, ∃ member value, e = .attributeChanged member key value)
    (member : Member) (target : Status) : (s.send key member target.text).Inv node key where
  publishing := publishing
  only := only_send only member target.text
  latest status hlatest i := by
    rw [latest_send, Status.ofText?_text, Option.some_or] at hlatest
    obtain rfl := Option.some.inj hlatest
    exact .inl ⟨member, .head _⟩

/-- A value that is no status makes no difference. -/
theorem Inv.send (h : s.Inv node key) (member : Member) (value : String) :
    (s.send key member value).Inv node key := by
  cases hvalue : Status.ofText? value with
  | some target =>
    obtain rfl := Status.ofText?_eq_some_iff.1 hvalue
    exact .of_send h.publishing h.only member target
  | none =>
    refine ⟨h.publishing, only_send h.only member value, fun status hlatest i => ?_⟩
    rw [latest_send, hvalue, Option.none_or] at hlatest
    refine (h.latest status hlatest i).imp_left ?_
    rintro ⟨m, hm⟩
    exact ⟨m, .tail _ hm⟩

theorem Inv.elsewhere (h : s.Inv node key) (happened : Elsewhere node key s.cluster c) :
    ({ s with cluster := c } : Mesh ι).Inv node key where
  publishing := happened.publishing
  only := h.only
  latest status hlatest i := by
    refine (h.latest status hlatest i).imp_right fun hs => ?_
    rw [Settled, happened.status, happened.published]
    exact hs

theorem Settled.of_untouched (hnode : Function.Injective node) {c' : Cluster}
    {i j : ι} (untouched : Cluster.Untouched (node i) c c') (hj : j ≠ i) {status : Status}
    (h : Settled node key c j status) : Settled node key c' j status := by
  have hne : node j ≠ node i := fun hn => hj (hnode hn)
  rw [Settled, untouched.status _ hne, untouched.published _ hne]
  exact h

section
variable [DecidableEq ι] {settings : ι → Settings} {i : ι} {before after : List MembershipEvent}
  {e : MembershipEvent}

theorem mem_inFlight_of_ne (flight : s.inFlight i = before ++ e :: after) {x : MembershipEvent}
    {j : ι} (hx : x ∈ s.inFlight j) (hne : x ≠ e) :
    x ∈ Function.update s.inFlight i (before ++ after) j := by
  by_cases hj : j = i
  · subst hj
    rw [Function.update_self]
    rw [flight, List.mem_append, List.mem_cons] at hx
    rcases hx with hx | rfl | hx
    · exact List.mem_append_left _ hx
    · exact absurd rfl hne
    · exact List.mem_append_right _ hx
  · rwa [Function.update_of_ne hj]

theorem mem_inFlight_before (flight : s.inFlight i = before ++ e :: after) {x : MembershipEvent}
    {j : ι} (hx : x ∈ Function.update s.inFlight i (before ++ after) j) : x ∈ s.inFlight j := by
  by_cases hj : j = i
  · subst hj
    rw [Function.update_self, List.mem_append] at hx
    rw [flight]
    exact hx.elim (List.mem_append_left _) fun hx => List.mem_append_right _ (.tail _ hx)
  · rwa [Function.update_of_ne hj] at hx

/-- A node that has handled an event is told of nothing it has not been, and the others are left
alone; it remains to be seen what became of the last status sent. -/
theorem Inv.delivered (h : s.Inv node key) (flight : s.inFlight i = before ++ e :: after)
    (hc : c.Publishing) (hlatest : ∀ status, s.latest = some status → ∀ j,
      (∃ member, .attributeChanged member key status.text ∈
        Function.update s.inFlight i (before ++ after) j) ∨ Settled node key c j status) :
    (⟨c, Function.update s.inFlight i (before ++ after), s.sent⟩ : Mesh ι).Inv node key where
  publishing := hc
  only j x hx := h.only j x (mem_inFlight_before flight hx)
  latest := hlatest

/-- A node has handled a value that is no status. -/
theorem Inv.unknown (h : s.Inv node key) {member : Member} {value : String}
    (flight : s.inFlight i = before ++ .attributeChanged member key value :: after)
    (hvalue : Status.ofText? value = none) (hc : c.Publishing)
    (hsettled : ∀ j status, Settled node key s.cluster j status → Settled node key c j status) :
    (⟨c, Function.update s.inFlight i (before ++ after), s.sent⟩ : Mesh ι).Inv node key := by
  refine h.delivered flight hc fun status hlatest j => ?_
  rcases h.latest status hlatest j with ⟨m, hm⟩ | hs
  · refine .inl ⟨m, mem_inFlight_of_ne flight hm ?_⟩
    rintro ⟨⟩
    rw [Status.ofText?_text] at hvalue
    cases hvalue
  · exact .inr (hsettled j status hs)

/-- A node has handled a status that it published already. -/
theorem Inv.adoptedAgain (hnode : Function.Injective node) (h : s.Inv node key) {member : Member}
    {target : Status}
    (flight : s.inFlight i = before ++ .attributeChanged member key target.text :: after)
    (hc : c.Publishing) (adopted : Cluster.Adopted (node i) key target s.cluster c)
    (hsame : s.cluster.substrate.attribute? (node i) key = some target.text) :
    (⟨c, Function.update s.inFlight i (before ++ after), s.sent⟩ : Mesh ι).Inv node key := by
  refine h.delivered flight hc fun status hlatest j => ?_
  by_cases hj : j = i
  · subst hj
    by_cases hstatus : status = target
    · rw [hstatus]
      exact .inr ⟨adopted.status, adopted.published⟩
    · rcases h.latest status hlatest j with ⟨m, hm⟩ | hs
      · refine .inl ⟨m, mem_inFlight_of_ne flight hm ?_⟩
        intro heq
        injection heq with _ _ htext
        exact hstatus (Status.text_injective htext)
      · -- It did not publish the last status, since it published this one.
        have htext : status.text = target.text := Option.some.inj (hs.2.symm.trans hsame)
        exact absurd (Status.text_injective htext) hstatus
  · rcases h.latest status hlatest j with ⟨m, hm⟩ | hs
    · refine .inl ⟨m, ?_⟩
      rwa [Function.update_of_ne hj]
    · exact .inr (hs.of_untouched hnode adopted.untouched hj)

theorem Inv.delivers (hnode : Function.Injective node)
    (hkey : ∀ i, (settings i).statusAttribute = key) (h : s.Inv node key)
    (flight : s.inFlight i = before ++ e :: after)
    {result : Except HandlerError (List ClusterEvent)}
    (handled : s.cluster.run ⟨node i, 0, 0⟩ (Handler.dispatch (node i) (settings i) e).run =
      (c, some result)) :
    (announce ⟨c, Function.update s.inFlight i (before ++ after), s.sent⟩ key
      (c.node (node i)).member (news key (node i) s.cluster c)).Inv node key := by
  have he : e ∈ s.inFlight i := by
    rw [flight]
    exact List.mem_append_right _ (.head _)
  obtain ⟨member, value, rfl⟩ := h.only i e he
  have hc : c.Publishing := by
    have := h.publishing.of_run (a := ⟨node i, 0, 0⟩)
      (Handler.dispatch (node i) (settings i) (.attributeChanged member key value)).run
    rwa [handled] at this
  rw [← hkey i] at handled
  cases hvalue : Status.ofText? value with
  | none =>
    obtain ⟨log, rfl⟩ := Cluster.run_unknown hvalue handled
    rw [news, if_pos rfl]
    exact h.unknown flight hvalue hc fun _ _ hs => hs
  | some target =>
    have hadopted := h.publishing.handled hvalue handled
    rw [hkey i] at hadopted
    obtain rfl := Status.ofText?_eq_some_iff.1 hvalue
    by_cases hsame : c.substrate.attribute? (node i) key = s.cluster.substrate.attribute? (node i) key
    · rw [news, if_pos hsame]
      exact h.adoptedAgain hnode flight hc hadopted (hsame.symm.trans hadopted.published)
    · -- What it publishes is new, and so the last status sent.
      rw [news, if_neg hsame, hadopted.published]
      exact .of_send hc (fun j x hx => h.only j x (mem_inFlight_before flight hx)) _ target

theorem Inv.step (hnode : Function.Injective node) (hkey : ∀ i, (settings i).statusAttribute = key)
    {s' : Mesh ι} (h : s.Inv node key) (hstep : Step node settings key s s') :
    s'.Inv node key := by
  cases hstep with
  | operates member value => exact h.send member value
  | delivers flight handled => exact h.delivers hnode hkey flight handled
  | elsewhere happened => exact h.elsewhere happened

theorem Reaches.inv (hnode : Function.Injective node) (hkey : ∀ i, (settings i).statusAttribute = key)
    {s s' : Mesh ι} (hrun : Reaches node settings key s s') (h : s.Inv node key) :
    s'.Inv node key := by
  induction hrun with
  | refl => exact h
  | tail _ hstep ih => exact ih.step hnode hkey hstep

/-! ## 3. Agreement -/

/-- Once nothing is in flight any more, all nodes have one status and publish it, if any was ever
sent: whatever theirs were at first, in whatever order the events were delivered, whatever operators
sent meanwhile, and however the drains went. -/
theorem statuses_agree (hnode : Function.Injective node)
    (hkey : ∀ i, (settings i).statusAttribute = key) (hc : c.Publishing)
    (hrun : Reaches node settings key (start c) s) (hquiet : ∀ i, s.inFlight i = [])
    (hsent : ∃ value ∈ s.sent, (Status.ofText? value).isSome) :
    ∃ status : Status, ∀ i, (s.cluster.node (node i)).status.status = status ∧
      s.cluster.substrate.attribute? (node i) key = some status.text := by
  obtain ⟨status, hlatest⟩ := exists_latest hsent
  refine ⟨status, fun i => ?_⟩
  rcases (hrun.inv hnode hkey (.start hc)).latest status hlatest i with ⟨member, hmem⟩ | hsettled
  · rw [hquiet i] at hmem
    cases hmem
  · exact hsettled

end

/-- An operator asks for a pause, and two nodes tell each other until both have it. -/
theorem pause_agreed : ∃ s : Mesh Bool,
    Reaches (fun i => cond i ⟨"a"⟩ ⟨"b"⟩) (fun _ => default) (default : Settings).statusAttribute
      (start (.empty default "node-tasks" (.memory (.holding none)))) s ∧
    ∃ status : Status, ∀ i, (s.cluster.node (cond i ⟨"a"⟩ ⟨"b"⟩)).status.status = status ∧
      s.cluster.substrate.attribute? (cond i ⟨"a"⟩ ⟨"b"⟩) (default : Settings).statusAttribute =
        some status.text := by
  -- The request and what a node publishes because of it are delivered in the order of the steps.
  have hreach := (((((((Relation.ReflTransGen.refl.tail
    (Step.operates (s := start (.empty default "node-tasks" (.memory (.holding none))))
      ⟨⟨"c"⟩, ⟨"10.0.0.3"⟩⟩ "PAUSE" : Step (fun i : Bool => cond i ⟨"a"⟩ ⟨"b"⟩) (fun _ => default)
        (default : Settings).statusAttribute _ _)).tail
    (.delivers (i := true) (show _ = [] ++ _ from rfl) rfl)).tail
    (.delivers (i := true) (show _ = [] ++ _ from rfl) rfl)).tail
    (.delivers (i := false) (show _ = [] ++ _ from rfl) rfl)).tail
    (.delivers (i := false) (show _ = [] ++ _ from rfl) rfl)).tail
    (.delivers (i := false) (show _ = [] ++ _ from rfl) rfl)).tail
    (.delivers (i := true) (show _ = [] ++ _ from rfl) rfl))
  have hempty : (Cluster.empty default "node-tasks" (.memory (.holding none))).Publishing :=
    ⟨rfl, fun _ => rfl⟩
  exact ⟨_, hreach, statuses_agree (by decide) (fun _ => rfl) hempty hreach (by decide)
    ⟨_, .head _, rfl⟩⟩

end Mesh

end ClusterKeeper
