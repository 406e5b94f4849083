import ClusterKeeper.Proofs.Ledger
import ClusterKeeper.Proofs.Store.Calls

/-!
# `Proofs/Departure/Host.lean` — what is done about the host of a departed member

A node that is told of a departure asks who is a member now, asks for the record, and has it written
without the host of the departed member if that is due (`toWrite`). The substrate may be down, and the
write may fail. For either, `forgetHost_does` says what was asked of the store, what the store holds
afterwards, and what is returned.

It says so of a run from any cluster that is like a given one in all that the host depends on
(`HostsAlike`), since the host is seen to after the tasks are, and by then other things have changed.
-/

set_option autoImplicit false

namespace ClusterKeeper

/-! ## 1. Writes -/

/-- The write that the store was asked for. -/
def Exchange.write? : Exchange → Option StoreCall
  | ⟨.addRecord r, _⟩ => some (.add r)
  | ⟨.updateRecord r, _⟩ => some (.update r)
  | _ => none

theorem Exchange.write?_of_store {e : Exchange} (h : .store ∉ e.request.parts) :
    e.write? = none := by
  obtain ⟨r, reply⟩ := e
  cases r with
  | addRecord => exact absurd (.head _) h
  | updateRecord => exact absurd (.head _) h
  | _ => rfl

def writesIn (es : List Exchange) : List StoreCall := es.filterMap Exchange.write?

theorem writesIn_append {es es' : List Exchange} :
    writesIn (es ++ es') = writesIn es ++ writesIn es' := List.filterMap_append

theorem writesIn_of_store {es : List Exchange} (h : ∀ e ∈ es, .store ∉ e.request.parts) :
    writesIn es = [] :=
  List.filterMap_eq_nil_iff.2 fun e he => Exchange.write?_of_store (h e he)

namespace RecordStore

/-- What is on record once the write of `w` was answered. -/
def afterWrite (record : Option HostRecord) (w : HostRecord) :
    Except StoreError Unit → Option HostRecord
  | .ok () => some w
  | .error _ => record

/-- Reading a record has no bearing on whether another can be written. -/
theorem update_get (s : RecordStore) (w : HostRecord) :
    (RecordStore.update w s.get.1).2 = (RecordStore.update w s).2 := by
  cases s with
  | memory m =>
    obtain ⟨record, writesFail, calls⟩ := m
    cases writesFail with
    | true => rfl
    | false => cases record <;> rfl
  | file s files =>
    rw [RecordStore.get]
    simp only [FileStore.run_get]

end RecordStore

/-! ## 2. What is to be written -/

/-- Somebody else among these members is on the host of the departed one. -/
def HostShared (members : List Member) (departed : Member) : Prop :=
  ∃ m ∈ members, m.id ≠ departed.id ∧ m.host = departed.host

instance (members : List Member) (departed : Member) : Decidable (HostShared members departed) :=
  inferInstanceAs (Decidable (∃ m ∈ members, _))

namespace Cluster

variable {Holding : RecordStore → Option HostRecord → Prop} {a : Actor} {c d : Cluster}
  {record : Option HostRecord}

/-- Index and substrate are up or down as a whole, and the record can be asked for. Single writes of
it may fail, and single starts. -/
structure AllOrNothing (c : Cluster) : Prop where
  members : c.faults.reason? .members "" = none
  owners : ∀ key, c.faults.reason? .ownerOf key = none
  reads : ∀ key, c.faults.reason? .tasksOf key = none
  notes : ∀ key, c.faults.reason? .addTask key = none
  load : c.faults.reason? .loadRecord "" = none

/-- The record to be written about a departure: the one that is there without the host, if the host
is in it and nobody else is known to be on it. -/
def toWrite (c : Cluster) (departed : Member) : Option HostRecord → Option HostRecord
  | some r =>
    if c.substrate.offline = false ∧ departed.host ∈ r.hosts ∧
        ¬ HostShared c.substrate.members departed then
      some ⟨r.hosts.erase departed.host⟩
    else none
  | none => none

/-- The record after a departure. -/
def recordAfter (c : Cluster) (departed : Member) (record : Option HostRecord) :
    Option HostRecord :=
  match c.toWrite departed record with
  | none => record
  | some w => RecordStore.afterWrite record w (c.updateRecord w).2

/-- The record is changed in nothing but the host of the departed member. -/
theorem recorded_recordAfter (c : Cluster) {departed : Member} {x : Host}
    (hx : x ≠ departed.host) :
    Recorded (c.recordAfter departed record) x ↔ Recorded record x := by
  cases record with
  | none => rfl
  | some r =>
    rw [recordAfter, toWrite]
    split_ifs
    · dsimp only
      cases (c.updateRecord _).2 with
      | ok _ => exact OrderedSet.mem_erase.trans (and_iff_right hx)
      | error _ => rfl
    · rfl

/-! ## 3. Requests -/

/-- Alike in all that is asked about a host. -/
structure HostsAlike (c d : Cluster) : Prop where
  faults : d.faults = c.faults
  store : d.store = c.store
  members : d.substrate.members = c.substrate.members
  offline : d.substrate.offline = c.substrate.offline

theorem HostsAlike.refl (c : Cluster) : HostsAlike c c := ⟨rfl, rfl, rfl, rfl⟩

theorem HostsAlike.answer (h : HostsAlike c d) {r : Request} (hr : .store ∉ r.parts) :
    HostsAlike c (d.answer a r).1 where
  faults := (answer_faults d a r).trans h.faults
  store := (answer_store hr).trans h.store
  members := (answer_members d a r).trans h.members
  offline := (answer_substrate_offline d a r).trans h.offline

theorem HostsAlike.askMembers (hc : c.AllOrNothing) (h : HostsAlike c d) :
    ∃ d', HostsAlike c d' ∧ d.answer a .members = (d', some (if c.substrate.offline
      then .error (.unavailable Substrate.outage) else .ok c.substrate.members)) := by
  refine ⟨(d.answer a .members).1, h.answer (by simp [Request.parts]), ?_⟩
  have hfault : d.faults.reason? .members "" = none := by
    rw [h.faults]
    exact hc.members
  rw [Cluster.answer, Cluster.askMembers, faulty_of_none hfault, ← h.offline, ← h.members]
  rfl

theorem HostsAlike.loadRecord (hc : c.AllOrNothing) (h : HostsAlike c d) :
    ∃ d', d'.faults = c.faults ∧ d'.store = c.store.get.1 ∧
      d.answer a .loadRecord = (d', some c.store.get.2) := by
  have hfault : d.faults.reason? .loadRecord "" = none := by
    rw [h.faults]
    exact hc.load
  refine ⟨{ d with store := c.store.get.1 }, h.faults, rfl, ?_⟩
  rw [Cluster.answer, Cluster.loadRecord, faulty_of_none hfault, onStore, h.store]
  rfl

theorem updateRecord_reply (hf : d.faults = c.faults) (hs : d.store = c.store.get.1)
    (w : HostRecord) : (d.updateRecord w).2 = (c.updateRecord w).2 := by
  unfold updateRecord faulty
  rw [hf]
  split
  · rfl
  · show (RecordStore.update w d.store).2 = (RecordStore.update w c.store).2
    rw [hs, RecordStore.update_get]

/-- What the store holds once it was asked to write. -/
theorem holding_written {w : HostRecord} {write : RecordStore → RecordStore × Except StoreError Unit}
    {site : FaultSite} {reply : Except StoreError Unit} (hwrite : RecordStore.Writes Holding w write)
    (hrecord : Holding c.store record)
    (h : c.faulty site "" .unavailable (c.onStore write) = (d, reply)) :
    Holding d.store (RecordStore.afterWrite record w reply) := by
  obtain ⟨s, rfl, hs⟩ := store_of_written hwrite hrecord h
  cases reply <;> exact hs

theorem holding_updateRecord (hstore : RecordStore.IsStore Holding)
    (hrecord : Holding c.store record) {w : HostRecord} {reply : Except StoreError Unit}
    (h : c.updateRecord w = (d, reply)) :
    Holding d.store (RecordStore.afterWrite record w reply) :=
  holding_written (hstore.update w) hrecord h

theorem holding_addRecord (hstore : RecordStore.IsStore Holding)
    (hrecord : Holding c.store record) {w : HostRecord} {reply : Except StoreError Unit}
    (h : c.addRecord w = (d, reply)) : Holding d.store (RecordStore.afterWrite record w reply) :=
  holding_written (hstore.add w) hrecord h

end Cluster

/-! ## 4. The handler -/

namespace Handler

open Cluster

variable {Holding : RecordStore → Option HostRecord → Prop} {a : Actor} {c d : Cluster}
  {record : Option HostRecord} {departed : Member} {es : List Exchange}

/-- What is returned once the write without the host was answered. -/
def toldOfWrite (departed : Member) :
    Except StoreError Unit → Except HandlerError (List ClusterEvent)
  | .ok () => .ok [.hostRemoved departed.host]
  | .error cause => .error (.store cause)

/-- What is returned about the host of a departed member. -/
def forgotten (c : Cluster) (departed : Member) (record : Option HostRecord) :
    Except HandlerError (List ClusterEvent) :=
  if c.substrate.offline then .error (.substrate (.unavailable Substrate.outage))
  else match c.toWrite departed record with
    | none => .ok []
    | some w => toldOfWrite departed (c.updateRecord w).2

/-- What is asked of the store about a departure, what it holds afterwards, and what is returned. -/
structure HostSeenTo (Holding : RecordStore → Option HostRecord → Prop) (c : Cluster)
    (departed : Member) (record : Option HostRecord) (es : List Exchange) (d : Cluster)
    (r : Except HandlerError (List ClusterEvent)) : Prop where
  written : writesIn es = (c.toWrite departed record).toList.map .update
  holds : Holding d.store (c.recordAfter departed record)
  told : r = forgotten c departed record

/-- There is nothing to write. -/
theorem HostSeenTo.untouched (hnone : c.toWrite departed record = none)
    (honline : c.substrate.offline = false) (hes : writesIn es = [])
    (hrecord : Holding d.store record) :
    HostSeenTo Holding c departed record es d (.ok []) where
  written := by
    rw [hes, hnone]
    rfl
  holds := by
    rw [recordAfter, hnone]
    exact hrecord
  told := by
    rw [forgotten, honline, hnone]
    rfl

/-- The record was to be written without the host, and the store has answered. -/
theorem HostSeenTo.answered {w : HostRecord} {reply : Except StoreError Unit}
    (hsome : c.toWrite departed record = some w) (honline : c.substrate.offline = false)
    (hreply : reply = (c.updateRecord w).2) (hes : writesIn es = [.update w])
    (hrecord : Holding d.store (RecordStore.afterWrite record w reply)) :
    HostSeenTo Holding c departed record es d (toldOfWrite departed reply) where
  written := by
    rw [hes, hsome]
    rfl
  holds := by
    rw [recordAfter, hsome]
    dsimp only
    rw [← hreply]
    exact hrecord
  told := by
    rw [forgotten, honline, hsome, hreply]
    rfl

/-- The host is seen to from any cluster that is like `c` in what is asked about it. -/
theorem forgetHost_does (hstore : RecordStore.IsStore Holding) (hc : c.AllOrNothing)
    (hrecord : Holding c.store record) (hread : c.store.get.2 = .ok record) (h : HostsAlike c d)
    (departed : Member) :
    Does a (forgetHost departed).run d (HostSeenTo Holding c departed record) := by
  obtain ⟨d₁, h₁, hasked⟩ := h.askMembers (a := a) hc
  have hholds₁ : Holding d₁.store record := by
    rw [h₁.store]
    exact hrecord
  rw [forgetHost, run_orFail_bind]
  cases honline : c.substrate.offline with
  | true =>
    have hnone : c.toWrite departed record = none := by
      cases record <;> simp [toWrite, honline]
    rw [honline, if_pos rfl] at hasked
    refine does_ask hasked (does_done ⟨?_, ?_, ?_⟩)
    · rw [hnone]
      rfl
    · rw [recordAfter, hnone]
      exact hholds₁
    · rw [forgotten, honline]
      rfl
  | false =>
    have hlive : (hostsOf (c.substrate.members.filter (·.id ≠ departed.id))).contains
        departed.host = true ↔ HostShared c.substrate.members departed := contains_hostsOf_others
    rw [honline, if_neg Bool.false_ne_true] at hasked
    refine does_ask hasked ?_
    dsimp only
    split
    · next hl =>
      have hnone : c.toWrite departed record = none := by
        cases record <;> simp [toWrite, hlive.1 hl]
      rw [run_lift_bind]
      exact does_ask rfl (does_done (.untouched hnone honline rfl hholds₁))
    · next hl =>
      obtain ⟨d₂, hfaults₂, hstore₂, hloaded⟩ := h₁.loadRecord (a := a) hc
      have hholds₂ : Holding d₂.store record := by
        have hgot := hstore.get hrecord
        rw [show c.store.get = (c.store.get.1, .ok record) from Prod.ext rfl hread] at hgot
        rw [hstore₂]
        exact hgot.2
      rw [hread] at hloaded
      rw [run_orFail_bind]
      refine does_ask hloaded ?_
      cases record with
      | none => exact does_done (.untouched rfl honline rfl hholds₂)
      | some r =>
        have hknown : (r.forget departed.host).2 = true ↔ departed.host ∈ r.hosts :=
          HostRecord.contains_iff
        dsimp only
        by_cases hmem : departed.host ∈ r.hosts
        · have hsome : c.toWrite departed (some r) = some ⟨r.hosts.erase departed.host⟩ := by
            simp [toWrite, honline, hmem, mt hlive.2 hl]
          have hreply := updateRecord_reply hfaults₂ hstore₂ ⟨r.hosts.erase departed.host⟩
          rw [if_neg (by simp [hknown.2 hmem]), run_orFail_bind]
          cases hwrite : d₂.updateRecord ⟨r.hosts.erase departed.host⟩ with
          | mk d₃ reply =>
            have hholds₃ := holding_updateRecord hstore hholds₂ hwrite
            rw [hwrite] at hreply
            refine does_ask (congrArg replied hwrite) ?_
            cases reply with
            | error cause => exact does_done (.answered hsome honline hreply rfl hholds₃)
            | ok _ =>
              rw [run_lift_bind]
              exact does_ask rfl (does_done (.answered hsome honline hreply rfl hholds₃))
        · have hnone : c.toWrite departed (some r) = none := by simp [toWrite, hmem]
          rw [if_pos (by simpa using mt hknown.1 hmem)]
          exact does_done (.untouched hnone honline rfl hholds₂)

end Handler

end ClusterKeeper
