import ClusterKeeper.Handler.Membership
import ClusterKeeper.Proofs.Resumption.Conduct
import ClusterKeeper.Proofs.Run

/-!
# `Proofs/Hosts/Handling.lean` — what arrivals and departures do to the record of hosts

Both handlers are run alone, on a cluster whose store and substrate do not fail (`Reliable`). An
arrival adds the hosts that came with it, which may be out of date by then; a departure takes the
departed member's host away unless somebody alive *now* is on it. The tasks that a departure is also
about do not come into it: whatever is done about them, none of it touches the store.

A store that does not fail answers like a register, whatever it is made of (`IsRegister`).
-/

set_option autoImplicit false

namespace ClusterKeeper

/-! ## 1. Stores that do not fail -/

/-- `Holding s r` says that the store `s` never fails and holds `r` now. -/
structure RecordStore.IsRegister (Holding : RecordStore → Option HostRecord → Prop) : Prop where
  get : ∀ {s r}, Holding s r → ∃ s', s.get = (s', .ok r) ∧ Holding s' r
  add : ∀ {s r} (x : HostRecord), Holding s r →
    ∃ s', RecordStore.add x s = (s', .ok ()) ∧ Holding s' (some x)
  update : ∀ {s r} (x : HostRecord), Holding s (some r) →
    ∃ s', RecordStore.update x s = (s', .ok ()) ∧ Holding s' (some x)

def RecordStore.InMemory (s : RecordStore) (r : Option HostRecord) : Prop :=
  ∃ m : MemoryStore, s = .memory m ∧ m.record = r ∧ m.writesFail = false

theorem RecordStore.inMemory_isRegister : RecordStore.IsRegister RecordStore.InMemory where
  get := by
    rintro s r ⟨m, rfl, rfl, hm⟩
    exact ⟨_, rfl, m.noting .get, rfl, rfl, hm⟩
  add := by
    rintro s r x ⟨m, rfl, rfl, hm⟩
    refine ⟨.memory { m.noting (.add x) with record := some x }, ?_, _, rfl, rfl, hm⟩
    simp [RecordStore.add, MemoryStore.add, MemoryStore.noting, hm]
  update := by
    rintro s r x ⟨m, rfl, hr, hm⟩
    refine ⟨.memory { m.noting (.update x) with record := some x }, ?_, _, rfl, rfl, hm⟩
    simp [RecordStore.update, MemoryStore.update, MemoryStore.noting, hm, hr]

def Recorded : Option HostRecord → Host → Prop
  | some r, h => h ∈ r.hosts
  | none, _ => False

/-- Records are known by their hosts, and by whether they are there. -/
theorem eq_of_recorded {r r' : Option HostRecord} (hnone : r = none ↔ r' = none)
    (h : ∀ x, Recorded r x ↔ Recorded r' x) : r = r' := by
  cases r with
  | none => exact (hnone.1 rfl).symm
  | some r =>
    cases r' with
    | none => cases hnone.2 rfl
    | some r' => exact congrArg (some ∘ HostRecord.mk) (OrderedSet.ext_mem h)

namespace Cluster

variable {Holding : RecordStore → Option HostRecord → Prop}

/-- Store and substrate answer, with this record and these members. -/
structure Reliable (Holding : RecordStore → Option HostRecord → Prop) (c : Cluster)
    (members : List Member) (record : Option HostRecord) : Prop where
  holds : Holding c.store record
  members : c.substrate.members = members
  online : c.substrate.offline = false
  asked : c.faults.reason? .members "" = none
  loaded : c.faults.reason? .loadRecord "" = none
  added : c.faults.reason? .addRecord "" = none
  updated : c.faults.reason? .updateRecord "" = none

variable {c : Cluster} {members : List Member} {record : Option HostRecord} {a : Actor}

theorem Reliable.answer (h : c.Reliable Holding members record) {r : Request}
    (hr : .store ∉ r.parts) : (c.answer a r).1.Reliable Holding members record where
  holds := by
    rw [answer_store hr]
    exact h.holds
  members := (answer_members c a r).trans h.members
  online := (answer_substrate_offline c a r).trans h.online
  asked := by
    rw [answer_faults]
    exact h.asked
  loaded := by
    rw [answer_faults]
    exact h.loaded
  added := by
    rw [answer_faults]
    exact h.added
  updated := by
    rw [answer_faults]
    exact h.updated

/-! ## 2. Requests -/

theorem Reliable.withStore (h : c.Reliable Holding members record) {s : RecordStore}
    {record' : Option HostRecord} (hs : Holding s record') :
    { c with store := s }.Reliable Holding members record' :=
  ⟨hs, h.members, h.online, h.asked, h.loaded, h.added, h.updated⟩

theorem Reliable.log (h : c.Reliable Holding members record) (level : LogLevel) (message : String)
    (fields : LogFields) : Yields a (Handler.log level message fields) c fun c' _ =>
      c'.Reliable Holding members record :=
  yields_request rfl (h.answer (a := a) (r := .log ⟨level, message, fields, []⟩)
    (by simp [Request.parts]))

theorem Reliable.askMembers (h : c.Reliable Holding members record) :
    Yields a Request.members.ask c fun c' r =>
      r = .ok members ∧ c'.Reliable Holding members record := by
  have hreply : (c.askMembers a.node).2 = .ok members := by
    rw [Cluster.askMembers, faulty_of_none h.asked]
    simp [onSubstrate, Substrate.askMembers, Substrate.noting, h.online, h.members]
  refine yields_request (d := (c.answer a .members).1) (x := .ok members) ?_
    ⟨rfl, h.answer (by simp [Request.parts])⟩
  rw [← hreply]
  rfl

theorem Reliable.loadRecord (hreg : RecordStore.IsRegister Holding)
    (h : c.Reliable Holding members record) :
    Yields a Request.loadRecord.ask c fun c' r =>
      r = .ok record ∧ c'.Reliable Holding members record := by
  obtain ⟨s, hs, hholds⟩ := hreg.get h.holds
  refine yields_request (d := { c with store := s }) (x := .ok record) ?_
    ⟨rfl, h.withStore hholds⟩
  rw [Cluster.answer, Cluster.loadRecord, faulty_of_none h.loaded, onStore, hs]
  rfl

theorem Reliable.addRecord (hreg : RecordStore.IsRegister Holding)
    (h : c.Reliable Holding members record) (x : HostRecord) :
    Yields a (Request.addRecord x).ask c fun c' r =>
      r = .ok () ∧ c'.Reliable Holding members (some x) := by
  obtain ⟨s, hs, hholds⟩ := hreg.add x h.holds
  refine yields_request (d := { c with store := s }) (x := .ok ()) ?_
    ⟨rfl, h.withStore hholds⟩
  rw [Cluster.answer, Cluster.addRecord, faulty_of_none h.added, onStore, hs]
  rfl

theorem Reliable.updateRecord (hreg : RecordStore.IsRegister Holding) {r : HostRecord}
    (h : c.Reliable Holding members (some r)) (x : HostRecord) :
    Yields a (Request.updateRecord x).ask c fun c' r =>
      r = .ok () ∧ c'.Reliable Holding members (some x) := by
  obtain ⟨s, hs, hholds⟩ := hreg.update x h.holds
  refine yields_request (d := { c with store := s }) (x := .ok ()) ?_
    ⟨rfl, h.withStore hholds⟩
  rw [Cluster.answer, Cluster.updateRecord, faulty_of_none h.updated, onStore, hs]
  rfl

/-! ## 3. Handlers -/

end Cluster

namespace Handler

/-- What is asked about an arrival. -/
def SeesToArrival : Request → Prop
  | .loadRecord | .addRecord _ | .log _ => True
  | _ => False

theorem memberJoined_asks (joined : Member) (alive : List Member) :
    (memberJoined joined alive).run.Asks SeesToArrival := by
  rw [memberJoined, run_lift_bind]
  refine .request trivial fun _ => ?_
  rw [run_orFail_bind]
  refine .request trivial fun stored => ?_
  cases stored with
  | error cause => trivial
  | ok stored =>
    dsimp only
    generalize (stored.getD .empty).absorb (hostsOf alive).toList = absorbed
    rw [run_orFail_bind]
    refine .request trivial fun written => ?_
    cases written with
    | error cause => trivial
    | ok _ =>
      dsimp only
      split
      · trivial
      · exact .request trivial fun _ => trivial

/-- What is asked about the host of a departed member. -/
def SeesToHost : Request → Prop
  | .members | .loadRecord | .updateRecord _ | .log _ => True
  | _ => False

theorem SeesToHost.not_index {r : Request} (h : SeesToHost r) : .index ∉ r.parts := by
  cases r <;> simp_all [SeesToHost, Request.parts]

theorem SeesToHost.not_runner {r : Request} (h : SeesToHost r) : .runner ∉ r.parts := by
  cases r <;> simp_all [SeesToHost, Request.parts]

/-- What is asked about the tasks of a departed node takes no time and leaves the store alone. -/
theorem resumeTasks_asks (here : NodeId) (departed : Member) :
    (resumeTasks here departed).run.Asks fun r => .clock ∉ r.parts ∧ .store ∉ r.parts := by
  refine (resumeTasks_follows here departed).asks Request.reply_nonempty ?_
  intro b r reply b' hr
  cases hr <;> simp [Request.parts]

theorem forgetHost_asks (departed : Member) : (forgetHost departed).run.Asks SeesToHost := by
  rw [forgetHost, run_orFail_bind]
  refine .request trivial fun members => ?_
  cases members with
  | error e => trivial
  | ok members =>
    dsimp only
    split
    · exact .request trivial fun _ => trivial
    · rw [run_orFail_bind]
      refine .request trivial fun stored => ?_
      cases stored with
      | error e => trivial
      | ok stored =>
        cases stored with
        | none => trivial
        | some stored =>
          dsimp only
          split
          · trivial
          · rw [run_orFail_bind]
            refine .request trivial fun written => ?_
            cases written with
            | error e => trivial
            | ok _ => exact .request trivial fun _ => trivial

end Handler

namespace Cluster

variable {Holding : RecordStore → Option HostRecord → Prop} {c : Cluster} {members : List Member}
  {record : Option HostRecord} {a : Actor}

/-- After an arrival the record has the hosts that came with it besides those it had. -/
theorem Reliable.memberJoined (hreg : RecordStore.IsRegister Holding)
    (h : c.Reliable Holding members record) (joined : Member) (alive : List Member) :
    Yields a (Handler.memberJoined joined alive).run c fun c' _ =>
      ∃ record', c'.Reliable Holding members (some record') ∧
        ∀ x, x ∈ record'.hosts ↔ (∃ m ∈ alive, m.host = x) ∨ Recorded record x := by
  rw [Handler.memberJoined, Handler.run_lift_bind]
  refine (h.log _ _ _).bind fun c₁ _ h₁ => Yields.orFail ?_
  refine (h₁.loadRecord hreg).mono fun c₂ r hr => ?_
  obtain ⟨rfl, h₂⟩ := hr
  refine ⟨record, rfl, ?_⟩
  have hmem : ∀ x, x ∈ ((record.getD .empty).absorb (hostsOf alive).toList).1.hosts ↔
      (∃ m ∈ alive, m.host = x) ∨ Recorded record x := by
    intro x
    rw [HostRecord.mem_absorb, ← OrderedSet.mem_def, mem_hostsOf]
    cases record with
    | none => exact or_congr_right ⟨fun h => absurd h OrderedSet.not_mem_empty, False.elim⟩
    | some r => rfl
  generalize (record.getD .empty).absorb (hostsOf alive).toList = absorbed at hmem
  obtain ⟨record', new⟩ := absorbed
  refine Yields.orFail ((h₂.addRecord hreg record').mono fun c₃ r hr => ?_)
  obtain ⟨rfl, h₃⟩ := hr
  refine ⟨(), rfl, ?_⟩
  split
  · exact yields_done ⟨record', h₃, hmem⟩
  · rw [Handler.run_lift_bind]
    exact (h₃.log _ _ _).bind fun c₄ _ h₄ => yields_done ⟨record', h₄, hmem⟩

/-- A departed member's host is kept only if somebody alive is on it. -/
def KeptHost (members : List Member) (departed : Member) (x : Host) : Prop :=
  x = departed.host → ∃ m ∈ members, m.id ≠ departed.id ∧ m.host = x

theorem Reliable.forgetHost (hreg : RecordStore.IsRegister Holding)
    (h : c.Reliable Holding members record) (departed : Member) :
    Yields a (Handler.forgetHost departed).run c fun c' _ =>
      ∃ record', c'.Reliable Holding members record' ∧ record'.isSome = record.isSome ∧
        ∀ x, Recorded record' x ↔ Recorded record x ∧ KeptHost members departed x := by
  rw [Handler.forgetHost]
  refine Yields.orFail (h.askMembers.mono fun c₁ r hr => ?_)
  obtain ⟨rfl, h₁⟩ := hr
  refine ⟨members, rfl, ?_⟩
  split
  · -- Somebody alive is on the host, and the record stays.
    next hl =>
    rw [Handler.run_lift_bind]
    refine (h₁.log _ _ _).bind fun c₂ _ h₂ => yields_done ⟨record, h₂, rfl, fun x => ?_⟩
    exact (and_iff_left fun hx => hx ▸ contains_hostsOf_others.1 hl).symm
  · -- Nobody is, so the host is the one that must go.
    next hl =>
    have hgone : ¬ KeptHost members departed departed.host := fun hk =>
      hl (contains_hostsOf_others.2 (hk rfl))
    have hkept : ∀ x, KeptHost members departed x ↔ ¬ x = departed.host := by
      intro x
      constructor
      · rintro hk rfl
        exact hgone hk
      · exact fun hx he => absurd he hx
    refine Yields.orFail ((h₁.loadRecord hreg).mono fun c₂ r hr => ?_)
    obtain ⟨rfl, h₂⟩ := hr
    refine ⟨record, rfl, ?_⟩
    cases record with
    | none => exact yields_done ⟨none, h₂, rfl, fun x => (and_iff_left_of_imp False.elim).symm⟩
    | some stored =>
      dsimp only [HostRecord.forget]
      split
      · next hk =>
        refine yields_done ⟨some stored, h₂, rfl, fun x => (and_iff_left_of_imp fun hx => ?_).symm⟩
        refine (hkept x).2 ?_
        rintro rfl
        rw [show stored.contains departed.host = true from HostRecord.contains_iff.2 hx] at hk
        cases hk
      · refine Yields.orFail ((h₂.updateRecord hreg _).mono fun c₃ r hr => ?_)
        obtain ⟨rfl, h₃⟩ := hr
        refine ⟨(), rfl, ?_⟩
        rw [Handler.run_lift_bind]
        refine (h₃.log _ _ _).bind fun c₄ _ h₄ => yields_done ⟨_, h₄, rfl, fun x => ?_⟩
        rw [hkept]
        exact OrderedSet.mem_erase.trans and_comm

/-- Whatever is done about a departed node's tasks, the store is left alone. -/
theorem Reliable.resumeTasks (h : c.Reliable Holding members record) (here : NodeId)
    (departed : Member) : Yields a (Handler.resumeTasks here departed).run c fun c' _ =>
      c'.Reliable Holding members record :=
  yields_of_asks (fun _ hr => hr.1) (fun _ _ hr hd => hd.answer hr.2)
    (Handler.resumeTasks_asks here departed) h

theorem Reliable.memberLeft (hreg : RecordStore.IsRegister Holding)
    (h : c.Reliable Holding members record) (here : NodeId) (departed : Member) :
    Yields a (Handler.memberLeft here departed).run c fun c' _ =>
      ∃ record', c'.Reliable Holding members record' ∧ record'.isSome = record.isSome ∧
        ∀ x, Recorded record' x ↔ Recorded record x ∧ KeptHost members departed x := by
  refine (h.log _ _ _).bind fun c₁ _ h₁ => ?_
  refine (h₁.resumeTasks here departed).bind fun c₂ resumed h₂ => ?_
  exact (h₂.forgetHost hreg departed).bind fun c₃ forgotten h₃ => yields_done h₃

end Cluster

end ClusterKeeper
