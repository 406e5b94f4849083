import ClusterKeeper.Proofs.Hosts.Handling
import ClusterKeeper.Proofs.Resumption.ExactlyOnce
import ClusterKeeper.Proofs.Resumption.Handling

/-!
# `Proofs/Resumption/Confluence.lean` — departures in any order, any number of times

Survivors are told of departures in whatever order the substrate comes to it, and may be told of one
more than once. Each delivery is handled to its end before the next, on one index and one store that
all share. What comes of them depends on which deliveries there were, and on nothing else: neither
on their order nor on how often each was repeated.

The invariant says what a *set* of deliveries comes to (`Merged`). A survivor's entry has what it
had and what is due there of the departed nodes that it was told of; the record has lost the hosts
that nobody alive is on. Entries of departed nodes are never written to, since only survivors are
told, so what there is to take over is the same throughout. A delivery that was handled before finds
all of that done. It attempts again what its runner fails, and writes nothing.
-/

set_option autoImplicit false

namespace ClusterKeeper

/-- A survivor is told of a departure. -/
abbrev Delivery : Type := NodeId × Member

namespace Delivery

/-- What a survivor does about the delivery. -/
def handler (p : Delivery) : Handler (Except HandlerError (List ClusterEvent)) :=
  (Handler.memberLeft p.1 p.2).run

def actor (p : Delivery) : Actor := ⟨p.1, 0, 0⟩

/-- Deliveries handled one after another. -/
def handleAll : List Delivery → Cluster → Cluster
  | [], c => c
  | p :: ps, c => handleAll ps (Cluster.run p.actor p.handler c).1

theorem handleAll_append (ps qs : List Delivery) (c : Cluster) :
    handleAll (ps ++ qs) c = handleAll qs (handleAll ps c) := by
  induction ps generalizing c with
  | nil => rfl
  | cons p ps ih => exact ih _

end Delivery

/-! ## 1. Entries of the index -/

namespace TaskIndex

variable {i j : TaskIndex} {here : NodeId} {new : List TaskId}

/-- Tasks recorded under a node one after another. -/
def addAll (i : TaskIndex) (here : NodeId) (new : List TaskId) : TaskIndex :=
  new.foldl (fun i task => (i.addTask here task).1) i

theorem addAll_cons (i : TaskIndex) (here : NodeId) (task : TaskId) (new : List TaskId) :
    i.addAll here (task :: new) = (i.addTask here task).1.addAll here new := rfl

theorem addAll_name (i : TaskIndex) (here : NodeId) (new : List TaskId) :
    (i.addAll here new).name = i.name := by
  induction new generalizing i with
  | nil => rfl
  | cons task new ih => rw [addAll_cons, ih, addTask_name]

theorem addAll_offline (i : TaskIndex) (here : NodeId) (new : List TaskId) :
    (i.addAll here new).offline = i.offline := by
  induction new generalizing i with
  | nil => rfl
  | cons task new ih => rw [addAll_cons, ih, addTask_offline]

theorem mem_addAll (h : i.offline = false) {id : NodeId} {x : TaskId} :
    x ∈ (i.addAll here new).tasks id ↔ x ∈ i.tasks id ∨ (id = here ∧ x ∈ new) := by
  induction new generalizing i with
  | nil => simp [addAll]
  | cons task new ih =>
    rw [addAll_cons, ih ((addTask_offline i here task).trans h), Cluster.tasks_addTask h]
    split
    · next hid =>
      subst hid
      simp only [OrderedSet.mem_insert, List.mem_cons, true_and]
      tauto
    · next hid => simp [hid]

/-- A node comes to have an entry where something is recorded under it. -/
theorem get?_addAll_eq_none (h : i.offline = false) {id : NodeId} :
    (i.addAll here new).entries.get? id = none ↔
      i.entries.get? id = none ∧ (id = here → new = []) := by
  induction new generalizing i with
  | nil => simp [addAll]
  | cons task new ih =>
    rw [addAll_cons, ih ((addTask_offline i here task).trans h)]
    simp only [addTask, h, Bool.false_eq_true, if_false, OrderedMap.get?_put]
    by_cases hid : id = here <;> simp [hid]

/-- An index is known by its name, by who has an entry, and by the tasks of everyone. -/
theorem ext_tasks (hname : i.name = j.name) (hoffline : i.offline = j.offline)
    (hnone : ∀ id, i.entries.get? id = none ↔ j.entries.get? id = none)
    (htasks : ∀ id x, x ∈ i.tasks id ↔ x ∈ j.tasks id) : i = j := by
  have hentries : i.entries = j.entries := by
    apply OrderedMap.ext_get?
    intro id
    cases hi : i.entries.get? id with
    | none => exact ((hnone id).1 hi).symm
    | some s =>
      cases hj : j.entries.get? id with
      | none =>
        rw [(hnone id).2 hj] at hi
        cases hi
      | some t =>
        have hmem : ∀ x, x ∈ s ↔ x ∈ t := by
          intro x
          have h := htasks id x
          rwa [tasks, tasks, hi, hj] at h
        rw [OrderedSet.ext_mem hmem]
  cases i
  cases j
  cases hname
  cases hoffline
  cases hentries
  rfl

end TaskIndex

/-! ## 2. What deliveries come to -/

namespace Departures

open Cluster

variable {Holding : RecordStore → Option HostRecord → Prop} {survivors : Set NodeId}
  {owner : TaskId → Option NodeId} {fails : NodeId → TaskId → Prop} {members : List Member}
  {record : Option HostRecord} {c c' c'' : Cluster} {heard more : Set Delivery} {p : Delivery}

/-- The task is due on a node that has heard of the departure of one that ran it. -/
def Resumes (owner : TaskId → Option NodeId) (fails : NodeId → TaskId → Prop) (c : Cluster)
    (heard : Set Delivery) (id : NodeId) (task : TaskId) : Prop :=
  Due owner fails id task ∧ ∃ p ∈ heard, p.1 = id ∧ task ∈ c.index.tasks p.2.id

/-- What has become of a cluster when these deliveries were handled, each at least once. -/
structure Merged (Holding : RecordStore → Option HostRecord → Prop) (owner : TaskId → Option NodeId)
    (fails : NodeId → TaskId → Prop) (members : List Member) (record : Option HostRecord)
    (c : Cluster) (heard : Set Delivery) (c' : Cluster) : Prop where
  alike : AnswersAlike c c'
  name : c'.index.name = c.index.name
  offline : c'.index.offline = c.index.offline
  tasks : ∀ id x, x ∈ c'.index.tasks id ↔ x ∈ c.index.tasks id ∨ Resumes owner fails c heard id x
  absent : ∀ id, c'.index.entries.get? id = none ↔
    c.index.entries.get? id = none ∧ ∀ x, ¬ Resumes owner fails c heard id x
  started : ∀ id x, x ∈ (c'.node id).runner.started.toList ↔
    x ∈ (c.node id).runner.started.toList ∨
      (Resumes owner fails c heard id x ∧ ¬ x ∈ c.index.tasks id)
  record : ∃ record', c'.Reliable Holding members record' ∧ record'.isSome = record.isSome ∧
    ∀ h, Recorded record' h ↔ Recorded record h ∧ ∀ p ∈ heard, KeptHost members p.2 h

/-- A node that is told of a departure survives, and the departed one does not. -/
def Proper (survivors : Set NodeId) (p : Delivery) : Prop := p.1 ∈ survivors ∧ p.2.id ∉ survivors

theorem resumes_insert {id : NodeId} {x : TaskId} :
    Resumes owner fails c (insert p heard) id x ↔ Resumes owner fails c heard id x ∨
      (p.1 = id ∧ x ∈ c.index.tasks p.2.id ∧ Due owner fails id x) := by
  constructor
  · rintro ⟨hdue, q, rfl | hq, hid, hx⟩
    · exact .inr ⟨hid, hx, hdue⟩
    · exact .inl ⟨hdue, q, hq, hid, hx⟩
  · rintro (⟨hdue, q, hq, hid, hx⟩ | ⟨hid, hx, hdue⟩)
    · exact ⟨hdue, q, .inr hq, hid, hx⟩
    · exact ⟨hdue, p, .inl rfl, hid, hx⟩

theorem Merged.start (h : c.Reliable Holding members record) :
    Merged Holding owner fails members record c ∅ c where
  alike := .refl c
  name := rfl
  offline := rfl
  tasks := by simp [Resumes]
  absent := by simp [Resumes]
  started := by simp [Resumes]
  record := ⟨record, h, rfl, by simp⟩

/-- Nothing is ever recorded under a departed node. -/
theorem Merged.tasks_departed (h : Merged Holding owner fails members record c heard c')
    (hheard : ∀ q ∈ heard, Proper survivors q) (hp : Proper survivors p) :
    c'.index.tasks p.2.id = c.index.tasks p.2.id := by
  apply OrderedSet.ext_mem
  intro x
  rw [h.tasks]
  constructor
  · rintro (hx | ⟨-, q, hq, hid, -⟩)
    · exact hx
    · exact absurd (hid ▸ (hheard q hq).1) hp.2
  · exact .inl

theorem mem_attemptsOf {here : NodeId} {departed : Member} {x : TaskId} :
    x ∈ Handler.attemptsOf owner here departed c ↔ x ∈ c.index.tasks departed.id ∧
      owner x = some here ∧ ¬ x ∈ c.index.tasks here := by
  rw [Handler.attemptsOf, attempts, List.mem_filter, decide_eq_true_eq]
  rfl

theorem Steady.starts_iff (h : Steady survivors owner fails c) {id : NodeId} (hid : id ∈ survivors)
    (x : TaskId) : c.starts id x = true ↔ ¬ fails id x := by
  rw [← h.starts id hid x, Cluster.starts]
  cases (c.startTask id x).2 <;> simp [Except.isOk, Except.toBool]

theorem Steady.alike (h : Steady survivors owner fails c) (halike : AnswersAlike c c') :
    Steady survivors owner fails c' where
  owners asker task := (halike.owners asker task).trans (h.owners asker task)
  starts id hid task := by
    rw [halike.starts]
    exact h.starts id hid task

/-- What is done about the host has nothing to do with tasks. -/
theorem forgetHost_tookOver {a : Actor} (departed : Member) :
    Yields a (Handler.forgetHost departed).run c fun c' _ => TookOver a.node [] c c' := by
  refine yields_of_asks (P := TookOver a.node [] c) ?_ ?_ (Handler.forgetHost_asks departed) ?_
  · intro r hr
    cases r <;> simp_all [Handler.SeesToHost, Request.parts]
  · intro d r hr hd
    exact hd.trans (tookOver_answered rfl hr.not_index hr.not_runner)
  · exact .refl _ c

/-- A delivery takes over what the node attempts and its runner starts. -/
theorem handler_tookOver (hindex : c.IndexAvailable)
    (howner : ∀ task, (c.askOwner p.1 task).2 = .ok (owner task)) :
    Yields p.actor p.handler c fun c' _ =>
      TookOver p.1 ((Handler.attemptsOf owner p.1 p.2 c).filter (c.starts p.1)) c c' := by
  refine Handler.tookOver_log fun c₁ h₁ => ?_
  have howner₁ : ∀ task, (c₁.askOwner p.1 task).2 = .ok (owner task) := by
    intro task
    rw [h₁.alike.owners]
    exact howner task
  have hsame : c₁.index = c.index := h₁.index
  refine (Handler.resumeTasks_yields p.2 (h₁.alike.available hindex) howner₁).bind ?_
  intro c₂ resumed h₂
  obtain ⟨-, h₂⟩ := h₂
  rw [Handler.attemptsOf, hsame, h₁.alike.starts_eq] at h₂
  refine (forgetHost_tookOver p.2).bind fun c₃ forgotten h₃ => yields_done ?_
  have htook := (h₁.trans h₂).trans h₃
  rwa [List.append_nil] at htook

/-- What a delivery starts is what is due of the departed node and was not recorded by then. -/
theorem Merged.mem_new (h : Merged Holding owner fails members record c heard c')
    (hsteady : Steady survivors owner fails c) (hheard : ∀ q ∈ heard, Proper survivors q)
    (hp : Proper survivors p) {x : TaskId} :
    x ∈ (Handler.attemptsOf owner p.1 p.2 c').filter (c'.starts p.1) ↔
      (x ∈ c.index.tasks p.2.id ∧ Due owner fails p.1 x) ∧ ¬ x ∈ c'.index.tasks p.1 := by
  rw [List.mem_filter, mem_attemptsOf, (hsteady.alike h.alike).starts_iff hp.1,
    h.tasks_departed hheard hp, Due]
  tauto

theorem Merged.deliver (hreg : RecordStore.IsRegister Holding)
    (h : Merged Holding owner fails members record c heard c') (hindex : c.IndexAvailable)
    (hsteady : Steady survivors owner fails c) (hheard : ∀ q ∈ heard, Proper survivors q)
    (hp : Proper survivors p) :
    Merged Holding owner fails members record c (insert p heard) (run p.actor p.handler c').1 := by
  have hindex' := h.alike.available hindex
  obtain ⟨record', hreliable, hsome, hrecorded⟩ := h.record
  have hmem := fun x => h.mem_new (x := x) hsteady hheard hp
  obtain ⟨c'', result, hrun, htook, record'', hreliable'', hsome'', hrecorded''⟩ :=
    (handler_tookOver (p := p) hindex' ((hsteady.alike h.alike).owners p.1)).and
      (hreliable.memberLeft (a := p.actor) hreg p.1 p.2)
  rw [hrun]
  generalize (Handler.attemptsOf owner p.1 p.2 c').filter (c'.starts p.1) = new at hmem htook
  have hadded : c''.index = c'.index.addAll p.1 new := htook.index
  constructor
  case alike => exact h.alike.trans htook.alike
  case name => rw [hadded, TaskIndex.addAll_name, h.name]
  case offline => rw [hadded, TaskIndex.addAll_offline, h.offline]
  case tasks =>
    intro id x
    rw [hadded, TaskIndex.mem_addAll hindex'.online, resumes_insert]
    by_cases hid : id = p.1
    · subst hid
      rw [hmem, h.tasks]
      tauto
    · rw [h.tasks]
      tauto
  case absent =>
    intro id
    rw [hadded, TaskIndex.get?_addAll_eq_none hindex'.online, h.absent, and_assoc]
    refine and_congr_right fun hnone => ?_
    constructor
    · rintro ⟨hnothing, hnew⟩ x hx
      rcases resumes_insert.1 hx with hx | ⟨hid, hx⟩
      · exact hnothing x hx
      · -- It would have been started, since the node has no entry that it could be in.
        have hnotin : ¬ x ∈ c'.index.tasks p.1 := by
          rw [hid, TaskIndex.tasks, (h.absent id).2 ⟨hnone, hnothing⟩]
          exact OrderedSet.not_mem_empty
        rw [← hid] at hx
        have hstarted := (hmem x).2 ⟨hx, hnotin⟩
        rw [hnew hid.symm] at hstarted
        exact List.not_mem_nil hstarted
    · intro hnothing
      refine ⟨fun x hx => hnothing x (resumes_insert.2 (.inl hx)), ?_⟩
      rintro rfl
      rw [List.eq_nil_iff_forall_not_mem]
      intro x hx
      exact hnothing x (resumes_insert.2 (.inr ⟨rfl, ((hmem x).1 hx).1⟩))
  case started =>
    intro id x
    rw [htook.started, List.mem_append, h.started, resumes_insert]
    split
    · next hid =>
      subst hid
      rw [hmem, h.tasks]
      tauto
    · next hid =>
      simp only [List.not_mem_nil, or_false]
      tauto
  case record =>
    refine ⟨record'', hreliable'', hsome''.trans hsome, fun x => ?_⟩
    rw [hrecorded'', hrecorded]
    simp only [Set.mem_insert_iff, forall_eq_or_imp]
    tauto

/-- However many deliveries, one after another. -/
theorem merged_handleAll (hreg : RecordStore.IsRegister Holding)
    (hreliable : c.Reliable Holding members record) (hindex : c.IndexAvailable)
    (hsteady : Steady survivors owner fails c) (ps : List Delivery)
    (hps : ∀ p ∈ ps, Proper survivors p) :
    Merged Holding owner fails members record c {p | p ∈ ps} (Delivery.handleAll ps c) := by
  induction ps using List.reverseRecOn with
  | nil =>
    have hnone : {p : Delivery | p ∈ []} = ∅ := by simp
    rw [hnone]
    exact .start hreliable
  | append_singleton ps p ih =>
    have hset : {q | q ∈ ps ++ [p]} = insert p {q | q ∈ ps} := by
      ext q
      simp only [List.mem_append, List.mem_singleton, Set.mem_ofPred_eq, Set.mem_insert_iff]
      exact or_comm
    have hearlier : ∀ q ∈ ps, Proper survivors q := fun q hq => hps q (List.mem_append_left _ hq)
    rw [Delivery.handleAll_append, hset]
    exact (ih hearlier).deliver hreg hindex hsteady hearlier
      (hps p (List.mem_append_right _ (.head _)))

/-- The set of deliveries says what has become of index, record and started tasks. -/
theorem Merged.unique (hreg : RecordStore.IsRegister Holding)
    (h : Merged Holding owner fails members record c heard c')
    (h' : Merged Holding owner fails members record c heard c'') :
    c'.index = c''.index ∧ c'.store.get.2 = c''.store.get.2 ∧
      ∀ id x, x ∈ (c'.node id).runner.started.toList ↔ x ∈ (c''.node id).runner.started.toList := by
  refine ⟨?_, ?_, ?_⟩
  · apply TaskIndex.ext_tasks (h.name.trans h'.name.symm) (h.offline.trans h'.offline.symm)
    · intro id
      rw [h.absent, h'.absent]
    · intro id x
      rw [h.tasks, h'.tasks]
  · obtain ⟨r, hr, hsome, hrecorded⟩ := h.record
    obtain ⟨r', hr', hsome', hrecorded'⟩ := h'.record
    have hsame : r = r' := by
      refine eq_of_recorded ?_ fun x => ?_
      · rw [← Option.not_isSome_iff_eq_none, ← Option.not_isSome_iff_eq_none, hsome, hsome']
      · rw [hrecorded, hrecorded']
    obtain ⟨s, hs, -⟩ := hreg.get hr.holds
    obtain ⟨s', hs', -⟩ := hreg.get hr'.holds
    rw [hs, hs', hsame]
  · intro id x
    rw [h.started, h'.started]

/-! ## 3. Deliveries that are repeated -/

/-- A request that writes to the store. -/
def Writes : Request → Prop
  | .addRecord _ | .updateRecord _ => True
  | _ => False

/-- The task whose resumption is told to have failed. -/
def failedTask? : ClusterEvent → Option TaskId
  | .taskFailed task _ => some task
  | _ => none

/-- A host that is gone, or that somebody alive is on, is let be. -/
theorem forgetHost_spares {a : Actor} (hreg : RecordStore.IsRegister Holding)
    (h : c.Reliable Holding members record) {departed : Member}
    (hkept : Recorded record departed.host → KeptHost members departed departed.host) :
    Spares Writes a (Handler.forgetHost departed).run c fun _ r => r = .ok [] := by
  rw [Handler.forgetHost]
  refine .orFail ((h.askMembers.spares_request (by simp [Writes])).mono fun c₁ r hr => ?_)
  obtain ⟨rfl, h₁⟩ := hr
  refine ⟨members, rfl, ?_⟩
  split
  · rw [Handler.run_lift_bind]
    refine ((h₁.log _ _ _).spares ⟨by simp [Writes], fun _ => trivial⟩).bind fun c₂ _ _ => ?_
    exact spares_done rfl
  · next hl =>
    have hgone : ¬ Recorded record departed.host := fun hr =>
      hl (contains_hostsOf_others.2 (hkept hr rfl))
    refine .orFail (((h₁.loadRecord hreg).spares_request (by simp [Writes])).mono fun c₂ r hr => ?_)
    obtain ⟨rfl, h₂⟩ := hr
    refine ⟨record, rfl, ?_⟩
    cases record with
    | none => exact spares_done rfl
    | some stored =>
      have hunknown : stored.contains departed.host = false := by
        rw [Bool.eq_false_iff]
        exact fun hc => hgone (HostRecord.contains_iff.1 hc)
      dsimp only [HostRecord.forget]
      rw [hunknown]
      exact spares_done rfl

/-- A delivery that was handled before finds nothing to do but what failed. It fails again, which is
all that is told, and nothing is written to the store. -/
theorem Merged.again (hreg : RecordStore.IsRegister Holding)
    (h : Merged Holding owner fails members record c heard c') (hindex : c.IndexAvailable)
    (hsteady : Steady survivors owner fails c) (hheard : ∀ q ∈ heard, Proper survivors q)
    (hp : p ∈ heard) :
    (∀ x ∈ Handler.attemptsOf owner p.1 p.2 c', fails p.1 x) ∧
      Spares Writes p.actor p.handler c' fun _ r => ∃ events, r = .ok events ∧
        events.map failedTask? = (Handler.attemptsOf owner p.1 p.2 c').map some := by
  have hsteady' := hsteady.alike h.alike
  have hfails : ∀ x ∈ Handler.attemptsOf owner p.1 p.2 c', fails p.1 x := by
    intro x hx
    obtain ⟨htask, howned, hnew⟩ := mem_attemptsOf.1 hx
    rw [h.tasks_departed hheard (hheard p hp)] at htask
    -- What is due was recorded when the delivery was first handled.
    refine Classical.byContradiction fun hdue => hnew ?_
    exact (h.tasks p.1 x).2 (.inr ⟨⟨howned, hdue⟩, p, hp, rfl, htask⟩)
  have htold : ∀ x ∈ Handler.attemptsOf owner p.1 p.2 c',
      failedTask? (c'.attempted p.1 x) = some x := by
    intro x hx
    obtain ⟨e, he⟩ := (hsteady'.starts p.1 (hheard p hp).1 x).2 (hfails x hx)
    rw [attempted, he]
    rfl
  refine ⟨hfails, ?_⟩
  obtain ⟨record', hreliable, -, hrecorded⟩ := h.record
  have hkept : Recorded record' p.2.host → KeptHost members p.2 p.2.host := fun hr =>
    ((hrecorded _).1 hr).2 p hp
  have hlog : Yields p.actor (Handler.log .debug "member left the cluster"
      [("member", p.2.display)]) c' fun c₁ _ =>
        TookOver p.1 [] c' c₁ ∧ c₁.Reliable Holding members record' :=
    (Handler.log_tookOver _ _ _).and (hreliable.log _ _ _)
  have hasks : (Handler.resumeTasks p.1 p.2).run.Asks fun r => ¬ Writes r := by
    refine (Handler.resumeTasks_follows p.1 p.2).asks Request.reply_nonempty ?_
    intro b r reply b' hr
    cases hr <;> simp [Writes]
  refine (hlog.spares ⟨by simp [Writes], fun _ => trivial⟩).bind fun c₁ _ h₁ => ?_
  obtain ⟨htook, h₁⟩ := h₁
  have hsame : c₁.index = c'.index := htook.index
  have hresume := (Handler.resumeTasks_yields (a := p.actor) p.2
    (htook.alike.available (h.alike.available hindex))
    ((hsteady'.alike htook.alike).owners p.1)).and (h₁.resumeTasks p.1 p.2)
  refine (hresume.spares hasks).bind fun c₂ resumed h₂ => ?_
  obtain ⟨⟨rfl, -⟩, h₂⟩ := h₂
  refine (forgetHost_spares hreg h₂ hkept).bind fun c₃ forgotten h₃ => spares_done ?_
  subst h₃
  refine ⟨_, rfl, ?_⟩
  rw [List.append_nil, Handler.attemptsOf, hsame, htook.alike.attempted_eq, List.map_map]
  exact List.map_congr_left htold

/-- Departures are confluent. Index, record and started tasks depend on which deliveries there were,
and not on their order or on how often each was repeated; and a repeated one only tells again of
what the runner fails. -/
theorem departures_confluent (hreg : RecordStore.IsRegister Holding)
    (hreliable : c.Reliable Holding members record) (hindex : c.IndexAvailable)
    (hsteady : Steady survivors owner fails c) {ps qs : List Delivery}
    (hps : ∀ p ∈ ps, Proper survivors p) (hsame : ∀ p, p ∈ ps ↔ p ∈ qs) :
    ((Delivery.handleAll ps c).index = (Delivery.handleAll qs c).index ∧
      (Delivery.handleAll ps c).store.get.2 = (Delivery.handleAll qs c).store.get.2 ∧
      ∀ id x, x ∈ ((Delivery.handleAll ps c).node id).runner.started.toList ↔
        x ∈ ((Delivery.handleAll qs c).node id).runner.started.toList) ∧
    ∀ first p rest, ps = first ++ p :: rest → p ∈ first →
      (∀ x ∈ Handler.attemptsOf owner p.1 p.2 (Delivery.handleAll first c), fails p.1 x) ∧
      Spares Writes p.actor p.handler (Delivery.handleAll first c) fun _ r =>
        ∃ events, r = .ok events ∧ events.map failedTask? =
          (Handler.attemptsOf owner p.1 p.2 (Delivery.handleAll first c)).map some := by
  have hqs : ∀ p ∈ qs, Proper survivors p := fun p hp => hps p ((hsame p).2 hp)
  constructor
  · have hset : {p | p ∈ ps} = {p | p ∈ qs} := Set.ext hsame
    have hmerged := merged_handleAll hreg hreliable hindex hsteady ps hps
    rw [hset] at hmerged
    exact hmerged.unique hreg (merged_handleAll hreg hreliable hindex hsteady qs hqs)
  · intro first p rest hsplit hp
    have hfirst : ∀ q ∈ first, Proper survivors q := by
      intro q hq
      refine hps q ?_
      rw [hsplit]
      exact List.mem_append_left _ hq
    have hmerged := merged_handleAll hreg hreliable hindex hsteady first hfirst
    exact hmerged.again hreg hindex hsteady hfirst hp

/-- Two departed nodes claimed tasks of the one that is left, whose runner fails one of them. -/
def twoClaims : Cluster :=
  { Cluster.empty default "node-tasks" default with
    substrate := (Substrate.empty.setOwner ⟨"t-1"⟩ ⟨"a"⟩).setOwner ⟨"t-2"⟩ ⟨"a"⟩
    index := ((TaskIndex.named "node-tasks").assign ⟨"d"⟩ [⟨"t-1"⟩, ⟨"t-2"⟩]).assign ⟨"e"⟩ [⟨"t-1"⟩]
  }.setNode ⟨"a"⟩ { Node.fresh ⟨⟨"a"⟩, ⟨"hA"⟩⟩ .active with runner := TaskRunner.idle.fail ⟨"t-2"⟩ }

theorem twoClaims_steady : Steady {⟨"a"⟩} (fun task => twoClaims.substrate.owners.get? task)
    (fun _ task => task = ⟨"t-2"⟩) twoClaims := by
  refine ⟨fun _ _ => rfl, ?_⟩
  rintro id rfl task
  have hreply : (twoClaims.startTask ⟨"a"⟩ task).2 =
      ((TaskRunner.idle.fail ⟨"t-2"⟩).start task).2 := rfl
  have hfailing : task ∈ (TaskRunner.idle.fail ⟨"t-2"⟩).failing ↔ task = ⟨"t-2"⟩ :=
    List.mem_singleton
  rw [hreply, TaskRunner.start]
  dsimp only
  split
  · next h => exact ⟨fun _ => hfailing.1 h, fun _ => ⟨_, rfl⟩⟩
  · next h =>
    constructor
    · rintro ⟨e, he⟩
      cases he
    · intro ht
      exact absurd (hfailing.2 ht) h

def leftFirst : Delivery := (⟨"a"⟩, ⟨⟨"d"⟩, ⟨"hD"⟩⟩)

def leftThen : Delivery := (⟨"a"⟩, ⟨⟨"e"⟩, ⟨"hE"⟩⟩)

/-- The node hears of both departures, and of the first once more. -/
theorem two_claims_confluent :
    (Delivery.handleAll [leftFirst, leftThen, leftFirst] twoClaims).index =
      (Delivery.handleAll [leftThen, leftFirst] twoClaims).index ∧
    Spares Writes leftFirst.actor leftFirst.handler
      (Delivery.handleAll [leftFirst, leftThen] twoClaims) fun _ r =>
        ∃ events, r = .ok events ∧ events.map failedTask? = [some ⟨"t-2"⟩] := by
  have hreliable : twoClaims.Reliable RecordStore.InMemory [] none :=
    ⟨⟨_, rfl, rfl, rfl⟩, rfl, rfl, rfl, rfl, rfl, rfl⟩
  have hproper : ∀ p ∈ [leftFirst, leftThen, leftFirst], Proper {⟨"a"⟩} p := by
    intro p hp
    simp only [List.mem_cons, List.not_mem_nil, or_false] at hp
    rcases hp with rfl | rfl | rfl <;> simp [Proper, leftFirst, leftThen]
  have hsame : ∀ p, p ∈ [leftFirst, leftThen, leftFirst] ↔ p ∈ [leftThen, leftFirst] := by
    intro p
    simp only [List.mem_cons, List.not_mem_nil, or_false]
    tauto
  obtain ⟨⟨hindex, -, -⟩, hagain⟩ := departures_confluent RecordStore.inMemory_isRegister hreliable
    ⟨rfl, fun _ => rfl, fun _ => rfl⟩ twoClaims_steady hproper hsame
  refine ⟨hindex, ?_⟩
  obtain ⟨-, hspares⟩ := hagain [leftFirst, leftThen] leftFirst [] rfl (.head _)
  refine hspares.mono fun c' r hr => ?_
  obtain ⟨events, hok, htasks⟩ := hr
  exact ⟨events, hok, htasks.trans (by decide)⟩

end Departures

end ClusterKeeper
