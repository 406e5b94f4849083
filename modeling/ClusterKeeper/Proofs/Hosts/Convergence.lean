import ClusterKeeper.Proofs.Hosts.Handling
import Mathlib.Logic.Function.Basic
import Mathlib.Logic.Relation

/-!
# `Proofs/Hosts/Convergence.lean` — the record comes to be the hosts alive

Members come and go, and every reconciler is told, in order, but may be far behind; an arrival comes
with the members of the moment it happened, a departure is judged by those of the moment it is
handled. All reconcilers write one record, so one that lags adds hosts again that another has
removed.

That it comes right in the end rests on what is still in the queues (`Churn.Inv`):

* who is alive is recorded, or nobody has yet handled an arrival that tells of them;
* a recorded host that nobody alive is on has a departure from it in some queue — and wherever an
  arrival tells of somebody who is gone, the departure comes later in the same queue (`Announced`).

With all queues empty nothing is left but the equality (`Churn.hosts_converge`).
-/

set_option autoImplicit false

namespace ClusterKeeper

/-! ## 1. Members that come and go -/

namespace Substrate

theorem join_members {s : Substrate} {m : Member} (h : m ∉ s.members) :
    (s.join m).members = s.members ++ [m] := by
  rw [join, if_neg h]

theorem join_offline (s : Substrate) (m : Member) : (s.join m).offline = s.offline := by
  unfold join
  split <;> rfl

theorem leave_offline (s : Substrate) (id : NodeId) : (s.leave id).1.offline = s.offline := by
  unfold leave
  split <;> rfl

/-- If ids are distinct, the member that leaves is the one that was meant. -/
theorem leave_members {s : Substrate} {m : Member} (hids : (s.members.map (·.id)).Nodup)
    (hm : m ∈ s.members) : (s.leave m.id).1.members = s.members.erase m := by
  unfold leave
  cases hf : s.members.find? fun x => x.id = m.id with
  | none => exact absurd (List.find?_eq_none.1 hf m hm) (by simp)
  | some x =>
    have hx : x.id = m.id := by simpa using List.find?_some hf
    rw [List.inj_on_of_nodup_map hids (List.mem_of_find?_eq_some hf) hm hx]

end Substrate

/-- A cluster with reconcilers: what each of them has still to handle, and what was handled. -/
structure Churn (ι : Type) where
  cluster : Cluster
  queue : ι → List MembershipEvent
  handled : List (ι × MembershipEvent)

namespace Churn

variable {ι : Type}

def start (c : Cluster) : Churn ι := ⟨c, fun _ => [], []⟩

def tell (s : Churn ι) (e : MembershipEvent) : Churn ι :=
  { s with queue := fun i => s.queue i ++ [e] }

/-- The cluster after a reconciler's node has handled an event. -/
def handle (s : Churn ι) (here : NodeId) (e : MembershipEvent) : Cluster :=
  (s.cluster.run ⟨here, 0, 0⟩ (Handler.dispatch here s.cluster.settings e).run).1

variable [DecidableEq ι]

inductive Step (node : ι → NodeId) : Churn ι → Churn ι → Prop
  /-- A member with an id never used before joins, and with its arrival go the members alive. -/
  | joins {s : Churn ι} (m : Member) (never : ¬ m.id ∈ s.cluster.known) :
      Step node s ({ s with cluster := s.cluster.join m }.tell
        (.joined m (s.cluster.join m).substrate.members))
  | leaves {s : Churn ι} (m : Member) (alive : m ∈ s.cluster.substrate.members) :
      Step node s ({ s with cluster :=
        { s.cluster with substrate := (s.cluster.substrate.leave m.id).1 } }.tell (.left m))
  | handles {s : Churn ι} {i : ι} {e : MembershipEvent} {rest : List MembershipEvent}
      (head : s.queue i = e :: rest) :
      Step node s ⟨s.handle (node i) e, Function.update s.queue i rest, (i, e) :: s.handled⟩
  /-- The event is kept and will be delivered again. -/
  | repeats {s : Churn ι} {i : ι} {e : MembershipEvent} {rest : List MembershipEvent}
      (head : s.queue i = e :: rest) :
      Step node s ⟨s.handle (node i) e, s.queue, (i, e) :: s.handled⟩

abbrev Reaches (node : ι → NodeId) : Churn ι → Churn ι → Prop := Relation.ReflTransGen (Step node)

end Churn

/-! ## 2. Queues -/

/-- Whoever an arrival tells of is alive, or their departure is announced behind it. -/
def Announced (alive : List Member) : List MembershipEvent → Prop
  | [] => True
  | .joined _ members :: rest => (∀ m ∈ members, m ∈ alive ∨ .left m ∈ rest) ∧ Announced alive rest
  | _ :: rest => Announced alive rest

theorem Announced.append {alive alive' : List Member} {q new : List MembershipEvent}
    (h : Announced alive q) (hgone : ∀ m ∈ alive, m ∈ alive' ∨ .left m ∈ new)
    (hnew : Announced alive' new) : Announced alive' (q ++ new) := by
  induction q with
  | nil => exact hnew
  | cons e q ih =>
    cases e with
    | joined joined members =>
      refine ⟨fun m hm => ?_, ih h.2⟩
      rcases h.1 m hm with ha | hleft
      · exact (hgone m ha).imp_right (List.mem_append_right q)
      · exact .inr (List.mem_append_left new hleft)
    | left d => exact ih h
    | attributeChanged m key value => exact ih h

theorem Announced.tail {alive : List Member} {e : MembershipEvent} {q : List MembershipEvent}
    (h : Announced alive (e :: q)) : Announced alive q := by
  cases e with
  | joined joined members => exact h.2
  | left d => exact h
  | attributeChanged m key value => exact h

/-! ## 3. The invariant -/

namespace Churn

variable {ι : Type} {Holding : RecordStore → Option HostRecord → Prop} {s : Churn ι}
  {record : Option HostRecord}

def alive (s : Churn ι) : List Member := s.cluster.substrate.members

/-- What is recorded and what is still in the queues, against who is alive. -/
structure Inv (Holding : RecordStore → Option HostRecord → Prop) (s : Churn ι)
    (record : Option HostRecord) : Prop where
  reliable : s.cluster.Reliable Holding s.alive record
  ids : (s.alive.map (·.id)).Nodup
  known : ∀ m ∈ s.alive, m.id ∈ s.cluster.known
  gone : ∀ i d, .left d ∈ s.queue i → d.id ∈ s.cluster.known ∧ ∀ m ∈ s.alive, m.id ≠ d.id
  only : ∀ i, ∀ e ∈ s.queue i, (∃ m ms, e = .joined m ms) ∨ ∃ d, e = .left d
  recorded : ∀ m ∈ s.alive, Recorded record m.host ∨
    ∀ i, ∃ j ms, .joined j ms ∈ s.queue i ∧ m ∈ ms
  removed : ∀ x, Recorded record x →
    (∃ m ∈ s.alive, m.host = x) ∨ ∃ i d, .left d ∈ s.queue i ∧ d.host = x
  announced : ∀ i, Announced s.alive (s.queue i)
  /-- Before there is a record, no departure is the next to be handled. -/
  first : record = none → ∀ i d rest, s.queue i ≠ .left d :: rest
  written : s.handled ≠ [] → record ≠ none

theorem Inv.start {c : Cluster} (h : c.Reliable Holding [] none) :
    (Churn.start c : Churn ι).Inv Holding none := by
  have hnobody : (Churn.start c : Churn ι).alive = [] := h.members
  constructor
  case reliable =>
    rw [hnobody]
    exact h
  case ids =>
    rw [hnobody]
    exact List.nodup_nil
  case known | recorded =>
    rw [hnobody]
    intro m hm
    cases hm
  case gone =>
    intro i d hd
    cases hd
  case only =>
    intro i e he
    cases he
  case removed =>
    intro x hx
    exact hx.elim
  case announced =>
    intro i
    trivial
  case first =>
    intro _ i d rest he
    cases he
  case written =>
    intro hne
    exact absurd rfl hne

/-! ## 4. Arrivals and departures -/

theorem Inv.joins (h : s.Inv Holding record) {m : Member} (never : ¬ m.id ∈ s.cluster.known) :
    ({ s with cluster := s.cluster.join m }.tell
      (.joined m (s.cluster.join m).substrate.members) : Churn ι).Inv Holding record := by
  have hnew : m ∉ s.alive := fun hm => never (h.known m hm)
  have halive : (s.cluster.join m).substrate.members = s.alive ++ [m] := Substrate.join_members hnew
  have hmem : ∀ x, x ∈ (s.cluster.join m).substrate.members ↔ x ∈ s.alive ∨ x = m := by
    intro x
    rw [halive, List.mem_append, List.mem_singleton]
  constructor
  case reliable =>
    exact ⟨h.reliable.holds, rfl, (Substrate.join_offline _ _).trans h.reliable.online,
      h.reliable.asked, h.reliable.loaded, h.reliable.added, h.reliable.updated⟩
  case ids =>
    show ((s.cluster.join m).substrate.members.map (·.id)).Nodup
    rw [halive, List.map_append]
    refine List.nodup_append.2 ⟨h.ids, List.nodup_singleton _, ?_⟩
    intro id hid id' hid' he
    obtain ⟨x, hx, rfl⟩ := List.mem_map.1 hid
    rw [List.mem_singleton.1 hid'] at he
    exact never ((show x.id = m.id from he) ▸ h.known x hx)
  case known =>
    intro x hx
    show x.id ∈ s.cluster.known.insert m.id
    rcases (hmem x).1 hx with hx | rfl
    · exact OrderedSet.mem_insert.2 (.inr (h.known x hx))
    · exact OrderedSet.mem_insert.2 (.inl rfl)
  case gone =>
    intro i d hd
    have hd : .left d ∈ s.queue i := by simpa [tell] using hd
    obtain ⟨hknown, hgone⟩ := h.gone i d hd
    refine ⟨OrderedSet.mem_insert.2 (.inr hknown), fun x hx => ?_⟩
    rcases (hmem x).1 hx with hx | rfl
    · exact hgone x hx
    · intro he
      exact never (he ▸ hknown)
  case only =>
    intro i e he
    rcases List.mem_append.1 he with he | he
    · exact h.only i e he
    · exact .inl ⟨_, _, List.mem_singleton.1 he⟩
  case recorded =>
    intro x hx
    rcases (hmem x).1 hx with hold | hxm
    · refine (h.recorded x hold).imp_right fun hq i => ?_
      obtain ⟨j, ms, hj, hm⟩ := hq i
      exact ⟨j, ms, List.mem_append_left _ hj, hm⟩
    · exact .inr fun i => ⟨_, _, List.mem_append_right _ (.head _), hx⟩
  case removed =>
    intro x hx
    rcases h.removed x hx with ⟨y, hy, he⟩ | ⟨i, d, hd, he⟩
    · exact .inl ⟨y, (hmem y).2 (.inl hy), he⟩
    · exact .inr ⟨i, d, List.mem_append_left _ hd, he⟩
  case announced =>
    intro i
    exact (h.announced i).append (fun x hx => .inl ((hmem x).2 (.inl hx)))
      ⟨fun x hx => .inl hx, trivial⟩
  case first =>
    intro hnone i d rest he
    cases hq : s.queue i with
    | nil => simp [tell, hq] at he
    | cons e q =>
      simp only [tell, hq, List.cons_append, List.cons.injEq] at he
      exact h.first hnone i d q (he.1 ▸ hq)
  case written => exact h.written

theorem Inv.leaves [Nonempty ι] (h : s.Inv Holding record) {m : Member} (hm : m ∈ s.alive) :
    ({ s with cluster := { s.cluster with
      substrate := (s.cluster.substrate.leave m.id).1 } }.tell (.left m) : Churn ι).Inv
        Holding record := by
  have halive : (s.cluster.substrate.leave m.id).1.members = s.alive.erase m :=
    Substrate.leave_members h.ids hm
  have hsub : ∀ x ∈ (s.cluster.substrate.leave m.id).1.members, x ∈ s.alive := by
    rw [halive]
    exact fun x hx => List.mem_of_mem_erase hx
  have hstill : ∀ x ∈ s.alive, x ∈ (s.cluster.substrate.leave m.id).1.members ∨ x = m := by
    intro x hx
    by_cases he : x = m
    · exact .inr he
    · rw [halive]
      exact .inl ((List.mem_erase_of_ne he).2 hx)
  constructor
  case reliable =>
    exact ⟨h.reliable.holds, rfl, (Substrate.leave_offline _ _).trans h.reliable.online,
      h.reliable.asked, h.reliable.loaded, h.reliable.added, h.reliable.updated⟩
  case ids =>
    show ((s.cluster.substrate.leave m.id).1.members.map (·.id)).Nodup
    rw [halive]
    exact h.ids.sublist (List.erase_sublist.map _)
  case known =>
    intro x hx
    exact h.known x (hsub x hx)
  case gone =>
    intro i d hd
    rcases List.mem_append.1 hd with hd | hd
    · exact ⟨(h.gone i d hd).1, fun x hx => (h.gone i d hd).2 x (hsub x hx)⟩
    · obtain rfl : d = m := by simpa using hd
      refine ⟨h.known d hm, fun x hx he => ?_⟩
      obtain rfl := List.inj_on_of_nodup_map h.ids (hsub x hx) hm he
      have hx : x ∈ (s.cluster.substrate.leave x.id).1.members := hx
      rw [halive] at hx
      exact h.ids.of_map.not_mem_erase hx
  case only =>
    intro i e he
    rcases List.mem_append.1 he with he | he
    · exact h.only i e he
    · exact .inr ⟨_, List.mem_singleton.1 he⟩
  case recorded =>
    intro x hx
    refine (h.recorded x (hsub x hx)).imp_right fun hq i => ?_
    obtain ⟨j, ms, hj, hx⟩ := hq i
    exact ⟨j, ms, List.mem_append_left _ hj, hx⟩
  case removed =>
    intro x hx
    rcases h.removed x hx with ⟨y, hy, he⟩ | ⟨i, d, hd, he⟩
    · rcases hstill y hy with hy | rfl
      · exact .inl ⟨y, hy, he⟩
      · exact .inr ⟨Classical.arbitrary ι, y, List.mem_append_right _ (.head _), he⟩
    · exact .inr ⟨i, d, List.mem_append_left _ hd, he⟩
  case announced =>
    intro i
    refine (h.announced i).append (fun x hx => ?_) trivial
    rcases hstill x hx with hx | rfl
    · exact .inl hx
    · exact .inr (.head _)
  case first =>
    intro hnone i d rest he
    cases hq : s.queue i with
    | nil =>
      -- Without a record, the member that leaves is told of by an arrival in every queue.
      rcases h.recorded m hm with hrec | hrec
      · rw [hnone] at hrec
        exact hrec
      · obtain ⟨j, ms, hj, -⟩ := hrec i
        rw [hq] at hj
        cases hj
    | cons e q =>
      simp only [tell, hq, List.cons_append, List.cons.injEq] at he
      exact h.first hnone i d q (he.1 ▸ hq)
  case written => exact h.written

/-! ## 5. Handling an event -/

/-- What is left of the invariant to be shown where the record was written. -/
theorem Inv.after (h : s.Inv Holding record) {s' : Churn ι} {record' : Option HostRecord}
    (hrel : s'.cluster.Reliable Holding s.alive record')
    (hknown : s'.cluster.known = s.cluster.known)
    (hqueue : ∀ j e, e ∈ s'.queue j → e ∈ s.queue j)
    (hannounced : ∀ j, Announced s.alive (s'.queue j)) (hsome : record' ≠ none)
    (hrecorded : ∀ m ∈ s.alive, Recorded record' m.host ∨
      ∀ j, ∃ x ms, .joined x ms ∈ s'.queue j ∧ m ∈ ms)
    (hremoved : ∀ x, Recorded record' x →
      (∃ m ∈ s.alive, m.host = x) ∨ ∃ j d, .left d ∈ s'.queue j ∧ d.host = x) :
    s'.Inv Holding record' := by
  have halive : s'.alive = s.alive := hrel.members
  refine ⟨halive ▸ hrel, halive ▸ h.ids, ?_, ?_, fun j e he => h.only j e (hqueue j e he),
    halive ▸ hrecorded, halive ▸ hremoved, halive ▸ hannounced, fun hnone => absurd hnone hsome,
    fun _ => hsome⟩
  · rw [halive, hknown]
    exact h.known
  · rw [halive, hknown]
    exact fun j d hd => h.gone j d (hqueue j _ hd)

variable [DecidableEq ι] {node : ι → NodeId} {i : ι} {e : MembershipEvent}
  {q rest : List MembershipEvent}

section
variable (head : s.queue i = e :: rest) (hq : q = rest ∨ q = e :: rest)
include head hq

theorem mem_queue_before {j : ι} {x : MembershipEvent}
    (hx : x ∈ Function.update s.queue i q j) : x ∈ s.queue j := by
  by_cases hj : j = i
  · subst hj
    rw [Function.update_self] at hx
    rw [head]
    rcases hq with rfl | rfl
    · exact .tail _ hx
    · exact hx
  · rwa [Function.update_of_ne hj] at hx

theorem mem_queue_after {j : ι} {x : MembershipEvent} (hx : x ∈ s.queue j) (hne : x ≠ e) :
    x ∈ Function.update s.queue i q j := by
  by_cases hj : j = i
  · subst hj
    rw [Function.update_self]
    rw [head] at hx
    rcases hq with rfl | rfl
    · exact (List.mem_cons.1 hx).resolve_left hne
    · exact hx
  · rwa [Function.update_of_ne hj]

theorem Inv.announced_after (h : s.Inv Holding record) (j : ι) :
    Announced s.alive (Function.update s.queue i q j) := by
  by_cases hj : j = i
  · subst hj
    have hj := h.announced j
    rw [head] at hj
    rw [Function.update_self]
    rcases hq with rfl | rfl
    · exact hj.tail
    · exact hj
  · rw [Function.update_of_ne hj]
    exact h.announced j

end

section
variable (hreg : RecordStore.IsRegister Holding) (h : s.Inv Holding record)
  (hq : q = rest ∨ q = e :: rest)
include hreg h hq

theorem Inv.handlesJoined {joined : Member} {members : List Member}
    (he : e = .joined joined members) (head : s.queue i = e :: rest) :
    ∃ record', Inv Holding (⟨s.handle (node i) e, Function.update s.queue i q,
      (i, e) :: s.handled⟩ : Churn ι) record' := by
  subst he
  have hknown : (s.handle (node i) (.joined joined members)).known = s.cluster.known :=
    Cluster.run_known _ _
  obtain ⟨c', x, hrun, record', hrel, hhosts⟩ :=
    h.reliable.memberJoined (a := ⟨node i, 0, 0⟩) hreg joined members
  have hc : s.handle (node i) (.joined joined members) = c' := congrArg Prod.fst hrun
  refine ⟨some record', h.after (by rw [hc]; exact hrel) hknown (fun j y => mem_queue_before head hq)
    (h.announced_after head hq) (Option.some_ne_none _) (fun m hm => ?_) fun x hx => ?_⟩
  · by_cases htold : m ∈ members
    · exact .inl ((hhosts _).2 (.inl ⟨m, htold, rfl⟩))
    · refine (h.recorded m hm).imp (fun hrec => (hhosts _).2 (.inr hrec)) fun hold j => ?_
      obtain ⟨y, ms, hy, hms⟩ := hold j
      refine ⟨y, ms, mem_queue_after head hq hy ?_, hms⟩
      rintro ⟨⟩
      exact htold hms
  · rcases (hhosts x).1 hx with ⟨m, hm, rfl⟩ | hrec
    · -- The arrival is out of date where it tells of somebody who left since.
      have htold := h.announced i
      rw [head] at htold
      rcases htold.1 m hm with ha | hleft
      · exact .inl ⟨m, ha, rfl⟩
      · refine .inr ⟨i, m, mem_queue_after head hq (head ▸ .tail _ hleft) ?_, rfl⟩
        rintro ⟨⟩
    · refine (h.removed x hrec).imp_right ?_
      rintro ⟨j, d, hd, hx⟩
      refine ⟨j, d, mem_queue_after head hq hd ?_, hx⟩
      rintro ⟨⟩

theorem Inv.handlesLeft {d : Member} (he : e = .left d) (head : s.queue i = e :: rest) :
    ∃ record', Inv Holding (⟨s.handle (node i) e, Function.update s.queue i q,
      (i, e) :: s.handled⟩ : Churn ι) record' := by
  subst he
  have hknown : (s.handle (node i) (.left d)).known = s.cluster.known := Cluster.run_known _ _
  obtain ⟨c', x, hrun, record', hrel, hsome, hhosts⟩ :=
    h.reliable.memberLeft (a := ⟨node i, 0, 0⟩) hreg (node i) d
  have hc : s.handle (node i) (.left d) = c' := congrArg Prod.fst hrun
  have hrecord : record ≠ none := fun hnone => h.first hnone i d rest head
  refine ⟨record', h.after (by rw [hc]; exact hrel) hknown (fun j y => mem_queue_before head hq)
    (h.announced_after head hq) ?_ (fun m hm => ?_) fun x hx => ?_⟩
  · rintro rfl
    exact hrecord (Option.isSome_eq_false_iff.1 hsome.symm |> Option.isNone_iff_eq_none.1)
  · refine (h.recorded m hm).imp (fun hrec => (hhosts _).2 ⟨hrec, fun _ => ?_⟩) fun hold j => ?_
    · -- Who left is not alive, so the host of anybody alive is kept.
      exact ⟨m, hm, (h.gone i d (head ▸ .head _)).2 m hm, rfl⟩
    · obtain ⟨y, ms, hy, hms⟩ := hold j
      refine ⟨y, ms, mem_queue_after head hq hy ?_, hms⟩
      rintro ⟨⟩
  · obtain ⟨hrec, hkept⟩ := (hhosts x).1 hx
    rcases h.removed x hrec with hlive | ⟨j, d', hd', rfl⟩
    · exact .inl hlive
    · by_cases he : d' = d
      · obtain ⟨m, hm, -, hhost⟩ := hkept (congrArg Member.host he)
        exact .inl ⟨m, hm, hhost⟩
      · refine .inr ⟨j, d', mem_queue_after head hq hd' ?_, rfl⟩
        rintro ⟨⟩
        exact he rfl

/-- The event at the head of a queue is handled, and dropped or kept. -/
theorem Inv.handles (head : s.queue i = e :: rest) :
    ∃ record', Inv Holding (⟨s.handle (node i) e, Function.update s.queue i q,
      (i, e) :: s.handled⟩ : Churn ι) record' := by
  rcases h.only i e (head ▸ .head _) with ⟨joined, members, he⟩ | ⟨d, he⟩
  · exact h.handlesJoined hreg hq he head
  · exact h.handlesLeft hreg hq he head

end

theorem Inv.step [Nonempty ι] (hreg : RecordStore.IsRegister Holding) {s' : Churn ι}
    (h : s.Inv Holding record) (hs : Step node s s') : ∃ record', s'.Inv Holding record' := by
  cases hs with
  | joins m never => exact ⟨record, h.joins never⟩
  | leaves m alive => exact ⟨record, h.leaves alive⟩
  | handles head => exact h.handles hreg (.inl rfl) head
  | @repeats i e rest head =>
    have hkept : ∃ record', Inv Holding (⟨s.handle (node i) e,
        Function.update s.queue i (e :: rest), (i, e) :: s.handled⟩ : Churn ι) record' :=
      h.handles hreg (.inr rfl) head
    rwa [← head, Function.update_eq_self] at hkept

/-! ## 6. Nothing left to handle -/

/-- Wherever the cluster has got, if all queues are empty and anything was ever handled, the record
is there and its hosts are those of the members alive. -/
theorem hosts_converge [Nonempty ι] (hreg : RecordStore.IsRegister Holding) (node : ι → NodeId)
    {c : Cluster} (hc : c.Reliable Holding [] none) {s : Churn ι}
    (hreach : Reaches node (.start c) s) (hquiet : ∀ i, s.queue i = [])
    (hhandled : s.handled ≠ []) :
    s.cluster.store.get.2 = .ok (some ⟨hostsOf s.cluster.substrate.members⟩) := by
  have hinv : ∃ record, s.Inv Holding record := by
    clear hquiet hhandled
    induction hreach with
    | refl => exact ⟨none, .start hc⟩
    | tail _ hs ih =>
      obtain ⟨record, h⟩ := ih
      exact h.step hreg hs
  obtain ⟨record, h⟩ := hinv
  cases record with
  | none => exact absurd rfl (h.written hhandled)
  | some record =>
    have hhosts : record.hosts = hostsOf s.alive := by
      refine OrderedSet.ext_mem fun x => ?_
      rw [mem_hostsOf]
      constructor
      · intro hx
        rcases h.removed x hx with hlive | ⟨i, d, hd, -⟩
        · exact hlive
        · rw [hquiet i] at hd
          cases hd
      · rintro ⟨m, hm, rfl⟩
        rcases h.recorded m hm with hrec | hq
        · exact hrec
        · obtain ⟨j, ms, hj, -⟩ := hq (Classical.arbitrary ι)
          rw [hquiet] at hj
          cases hj
    obtain ⟨s', hget, -⟩ := hreg.get h.reliable.holds
    rw [hget]
    cases record
    cases hhosts
    rfl

/-- Two members share a host, one of them leaves, and only then is any of it handled. -/
theorem shared_host_kept : ∃ s : Churn Unit,
    Reaches (fun _ => ⟨"a"⟩) (.start (.empty default "node-tasks" (.memory (.holding none)))) s ∧
    s.cluster.substrate.members = [⟨⟨"c"⟩, ⟨"10.0.0.2"⟩⟩] ∧
    s.cluster.store.get.2 = .ok (some (.ofHosts [⟨"10.0.0.2"⟩])) := by
  have hreach := (((((Relation.ReflTransGen.refl.tail
    (Step.joins (s := .start (.empty default "node-tasks" (.memory (.holding none))))
      ⟨⟨"b"⟩, ⟨"10.0.0.2"⟩⟩ (by decide) : Step (fun _ : Unit => ⟨"a"⟩) _ _)).tail
    (.joins ⟨⟨"c"⟩, ⟨"10.0.0.2"⟩⟩ (by decide))).tail
    (.leaves ⟨⟨"b"⟩, ⟨"10.0.0.2"⟩⟩ (by decide))).tail
    (.handles (i := ()) rfl)).tail
    (.handles (i := ()) rfl)).tail
    (.handles (i := ()) rfl)
  have hempty : (Cluster.empty default "node-tasks" (.memory (.holding none))).Reliable
      RecordStore.InMemory [] none :=
    ⟨⟨_, rfl, rfl, rfl⟩, rfl, rfl, rfl, rfl, rfl, rfl⟩
  have hrecord := hosts_converge RecordStore.inMemory_isRegister _ hempty hreach (fun _ => rfl)
    (List.cons_ne_nil _ _)
  exact ⟨_, hreach, rfl, hrecord⟩

end Churn

end ClusterKeeper
