import ClusterKeeper.Proofs.Departure.Host

/-!
# `Proofs/Hosts/Merging.lean` — arrivals one after another

A node is told of arrivals, each with a list of the members alive, and merges their hosts into the
record. The store may fail to write, and it may fail whenever it likes. A call fails only with what
the store has answered, and then it has done nothing; the hosts that it had to report are still missing
on record, and the next call that brings them reports them.

So what is on record in the end is the union of what was there and of the lists that were written
(`merged`), which knows neither order nor repetition. And what was reported, over all calls, is the
difference between the record in the end and the record in the beginning, each host once: a call
reports what was not on record when it came, and from then on it is.
-/

set_option autoImplicit false

namespace ClusterKeeper

/-! ## 1. Unions -/

/-- In an ascending list of hosts all that are not on record are new when their turn comes. -/
theorem HostRecord.absorb_new (r : HostRecord) {hs : List Host} (h : hs.Nodup) :
    (r.absorb hs).2 = hs.filter fun x => ¬ x ∈ r.hosts := by
  induction hs generalizing r with
  | nil => rw [absorb_nil, List.filter_nil]
  | cons x hs ih =>
    obtain ⟨hx, hs'⟩ := List.nodup_cons.1 h
    by_cases hr : x ∈ r.hosts
    · rw [absorb_cons_of_mem hr, ih r hs', List.filter_cons_of_neg (by simpa using hr)]
    · rw [absorb_cons_of_not_mem hr, ih _ hs', List.filter_cons_of_pos (by simpa using hr)]
      refine congrArg (x :: ·) (List.filter_congr fun y hy => ?_)
      have hne : ¬ y = x := by
        rintro rfl
        exact hx hy
      simp [hne]

theorem mem_getD_empty {record : Option HostRecord} {x : Host} :
    x ∈ (record.getD .empty).hosts ↔ Recorded record x := by
  cases record with
  | none => exact iff_of_false OrderedSet.not_mem_empty id
  | some r => rfl

/-- The record that comes of these lists of members, merged into a record in any order. -/
def merged (record : Option HostRecord) (lists : List (List Member)) : Option HostRecord :=
  if lists.isEmpty then record
  else some ⟨(record.getD .empty).hosts.insertAll (lists.flatten.map (·.host))⟩

section
variable {record : Option HostRecord} {lists lists' : List (List Member)} {x : Host}

theorem recorded_merged : Recorded (merged record lists) x ↔
    Recorded record x ∨ ∃ ms ∈ lists, ∃ m ∈ ms, m.host = x := by
  cases lists with
  | nil => simp [merged]
  | cons ms lists =>
    show x ∈ OrderedSet.insertAll _ _ ↔ _
    rw [OrderedSet.mem_insertAll, mem_getD_empty, or_comm]
    simp only [List.mem_map, List.mem_flatten]
    refine or_congr_right ⟨?_, ?_⟩
    · rintro ⟨m, ⟨ms, hms, hm⟩, hx⟩
      exact ⟨ms, hms, m, hm, hx⟩
    · rintro ⟨ms, hms, m, hm, hx⟩
      exact ⟨m, ⟨ms, hms, hm⟩, hx⟩

theorem merged_eq_none_iff : merged record lists = none ↔ record = none ∧ lists = [] := by
  cases lists <;> simp [merged]

/-- Neither order nor repetition matters. -/
theorem merged_congr (h : ∀ ms, ms ∈ lists ↔ ms ∈ lists') :
    merged record lists = merged record lists' := by
  refine eq_of_recorded ?_ fun x => ?_
  · rw [merged_eq_none_iff, merged_eq_none_iff, List.eq_nil_iff_forall_not_mem,
      List.eq_nil_iff_forall_not_mem]
    simp only [h]
  · rw [recorded_merged, recorded_merged]
    simp only [h]

section
variable {ms : List Member} {w : HostRecord} {added : List Host}
  (h : (record.getD .empty).absorb (hostsOf ms).toList = (w, added))
include h

theorem recorded_absorbed : Recorded (some w) x ↔ x ∈ hostsOf ms ∨ Recorded record x := by
  obtain rfl : (HostRecord.absorb _ _).1 = w := congrArg Prod.fst h
  show x ∈ HostRecord.hosts _ ↔ _
  rw [HostRecord.mem_absorb, ← OrderedSet.mem_def, mem_getD_empty]

theorem mem_absorbed : x ∈ added ↔ x ∈ hostsOf ms ∧ ¬ Recorded record x := by
  obtain rfl : (HostRecord.absorb _ _).2 = added := congrArg Prod.snd h
  rw [HostRecord.absorb_new _ (OrderedSet.nodup_toList _), List.mem_filter, ← OrderedSet.mem_def,
    decide_eq_true_iff, mem_getD_empty]

theorem absorbed_ascending : added.Pairwise fun x y => compare x y = .lt := by
  obtain rfl : (HostRecord.absorb _ _).2 = added := congrArg Prod.snd h
  rw [HostRecord.absorb_new _ (OrderedSet.nodup_toList _)]
  exact (hostsOf ms).ascending.filter _

end

theorem merged_append (ms : List Member) : merged record (lists ++ [ms]) =
    some (((merged record lists).getD .empty).absorb (hostsOf ms).toList).1 := by
  refine eq_of_recorded ?_ fun x => ?_
  · rw [merged_eq_none_iff]
    simp
  · rw [recorded_merged, recorded_absorbed rfl, mem_hostsOf, recorded_merged]
    simp only [List.mem_append, List.mem_singleton]
    constructor
    · rintro (hx | ⟨_, hms | rfl, hx⟩)
      · exact .inr (.inl hx)
      · exact .inr (.inr ⟨_, hms, hx⟩)
      · exact .inl hx
    · rintro (hx | hx | ⟨_, hms, hx⟩)
      · exact .inr ⟨ms, .inr rfl, hx⟩
      · exact .inl hx
      · exact .inr ⟨_, .inl hms, hx⟩

end

/-! ## 2. One arrival -/

/-- The record that the store has taken. -/
def Exchange.taken? : Exchange → Option HostRecord
  | ⟨.addRecord r, .ok _⟩ => some r
  | ⟨.updateRecord r, .ok _⟩ => some r
  | _ => none

def takenIn (es : List Exchange) : List HostRecord := es.filterMap Exchange.taken?

/-- The failure that the store has answered with. -/
def Exchange.storeFailure? : Exchange → Option StoreError
  | ⟨.loadRecord, .error cause⟩ => some cause
  | ⟨.addRecord _, .error cause⟩ => some cause
  | _ => none

def storeFailuresIn (es : List Exchange) : List StoreError := es.filterMap Exchange.storeFailure?

namespace ClusterEvent

/-- The hosts that an event reports. -/
def added : ClusterEvent → List Host
  | hostsAdded hosts => hosts
  | _ => []

/-- What there is to tell of new hosts. -/
def ofAdded (hosts : List Host) : List ClusterEvent := if hosts.isEmpty then [] else [hostsAdded hosts]

theorem added_ofAdded (hosts : List Host) : (ofAdded hosts).flatMap added = hosts := by
  cases hosts <;> simp [ofAdded, added]

end ClusterEvent

namespace Cluster

variable {Holding : RecordStore → Option HostRecord → Prop} {a : Actor} {c c' d : Cluster}
  {record : Option HostRecord}

/-- All but store and log is as it was. -/
def OnlyRecord (c d : Cluster) : Prop := ∃ s l, d = { c with store := s, log := l }

theorem OnlyRecord.answer {r : Request} (hr : Handler.SeesToArrival r) (h : OnlyRecord c d) :
    OnlyRecord c (d.answer a r).1 := by
  obtain ⟨s, l, rfl⟩ := h
  have hsame : OnlyRecord c { c with store := s, log := l } := ⟨s, l, rfl⟩
  cases r with
  | loadRecord => exact faulty_fst hsame ⟨_, _, rfl⟩
  | addRecord w => exact faulty_fst hsame ⟨_, _, rfl⟩
  | log x => exact ⟨_, _, rfl⟩
  | _ => exact hr.elim

/-- What an arrival has brought about where `record` was held: no part of the store has failed, the
hosts are merged and what was new is told, or a part of it has, which is the result, and nothing has
changed. -/
def Arrived (Holding : RecordStore → Option HostRecord → Prop) (record : Option HostRecord)
    (alive : List Member) (es : List Exchange) (d : Cluster) :
    Except HandlerError (List ClusterEvent) → Prop
  | .ok events => ∃ w added, (record.getD .empty).absorb (hostsOf alive).toList = (w, added) ∧
      (takenIn es = [w] ∧ storeFailuresIn es = []) ∧ Holding d.store (some w) ∧
        events = ClusterEvent.ofAdded added
  | .error e => ∃ cause, e = .store cause ∧
      (takenIn es = [] ∧ storeFailuresIn es = [cause]) ∧ Holding d.store record

theorem memberJoined_does (hstore : RecordStore.IsStore Holding) (hrecord : Holding c.store record)
    (joined : Member) (alive : List Member) :
    Does a (Handler.memberJoined joined alive).run c (Arrived Holding record alive) := by
  rw [Handler.memberJoined, Handler.run_lift_bind]
  refine does_request (by simp [Request.parts]) fun c₁ _ h₁ => ?_
  have hrecord₁ : Holding c₁.store record := by
    rw [(kept_of_answered h₁).store (by simp [Request.parts])]
    exact hrecord
  rw [Handler.run_orFail_bind]
  refine does_request (by simp [Request.parts]) fun c₂ stored h₂ => ?_
  obtain ⟨s, rfl, hrecord₂, hstored⟩ := store_of_loaded hstore hrecord₁ (of_replied h₂)
  cases stored with
  | error cause => exact does_done ⟨cause, rfl, ⟨rfl, rfl⟩, hrecord₂⟩
  | ok stored =>
    obtain rfl := hstored stored rfl
    dsimp only
    cases habsorb : (stored.getD .empty).absorb (hostsOf alive).toList with
    | mk w added =>
      dsimp only
      rw [Handler.run_orFail_bind]
      refine does_request (by simp [Request.parts]) fun c₃ written h₃ => ?_
      have hrecord₃ := holding_addRecord hstore hrecord₂ (of_replied h₃)
      cases written with
      | error cause => exact does_done ⟨cause, rfl, ⟨rfl, rfl⟩, hrecord₃⟩
      | ok _ =>
        dsimp only
        split
        · next hnone =>
          exact does_done ⟨w, added, habsorb, ⟨rfl, rfl⟩, hrecord₃, (if_pos hnone).symm⟩
        · next hnew =>
          rw [Handler.run_lift_bind]
          refine does_request (by simp [Request.parts]) fun c₄ _ h₄ => does_done ?_
          refine ⟨w, added, habsorb, ⟨rfl, rfl⟩, ?_, (if_neg hnew).symm⟩
          rw [(kept_of_answered h₄).store (by simp [Request.parts])]
          exact hrecord₃

end Cluster

/-! ## 3. Arrivals one after another -/

/-- An arrival that a node was told of, with the members alive, and what came of it. -/
abbrev ArrivalCall : Type :=
  Cluster.Occasion (Member × List Member) (Except HandlerError (List ClusterEvent))

namespace ArrivalCall

/-- The members whose hosts were merged. If the call failed, none were. -/
def merged? (o : ArrivalCall) : Option (List Member) :=
  match o.result with
  | some (.ok _) => some o.about.2
  | _ => none

/-- The hosts that the call has reported. -/
def reported (o : ArrivalCall) : List Host := o.told.flatMap ClusterEvent.added

theorem merged?_of_ok {o : ArrivalCall} {events : List ClusterEvent}
    (h : o.result = some (.ok events)) : o.merged? = some o.about.2 := by
  rw [merged?, h]

theorem merged?_of_error {o : ArrivalCall} {e : HandlerError} (h : o.result = some (.error e)) :
    o.merged? = none := by
  rw [merged?, h]

theorem reported_of_ok {o : ArrivalCall} {events : List ClusterEvent}
    (h : o.result = some (.ok events)) : o.reported = events.flatMap ClusterEvent.added := by
  rw [reported, Cluster.Occasion.told, h]

theorem reported_of_error {o : ArrivalCall} {e : HandlerError} (h : o.result = some (.error e)) :
    o.reported = [] := by
  rw [reported, Cluster.Occasion.told, h]
  rfl

end ArrivalCall

/-- The lists of members that the calls have merged. -/
def mergedLists (os : List ArrivalCall) : List (List Member) := os.filterMap ArrivalCall.merged?

namespace Cluster

variable {Holding : RecordStore → Option HostRecord → Prop} {a : Actor} {c c' : Cluster}
  {record : Option HostRecord} {os : List ArrivalCall}

abbrev arrival (x : Member × List Member) : Handler (Except HandlerError (List ClusterEvent)) :=
  (Handler.memberJoined x.1 x.2).run

/-- Arrivals that a node is told of one after another. Between them anything may happen that leaves
the record as it is; in particular the store may begin to fail, or cease to. -/
abbrev ArrivalCourse (Holding : RecordStore → Option HostRecord → Prop) (a : Actor) :
    Cluster → List ArrivalCall → Cluster → Prop :=
  Course a arrival fun c c' => ∀ record, Holding c.store record → Holding c'.store record

/-- What is to be seen of arrivals that were told one after another, beginning with `record`. -/
structure ArrivalLaw (Holding : RecordStore → Option HostRecord → Prop) (a : Actor)
    (record : Option HostRecord) (os : List ArrivalCall) (c' : Cluster) : Prop where
  /-- A call ends well if the store has taken what it wrote and has not failed, and else with the
  failure that the store has answered with. -/
  ended : ∀ o ∈ os,
    (∃ events, o.result = some (.ok events) ∧
      takenIn (exchanges a (arrival o.about) o.before) ≠ [] ∧
      storeFailuresIn (exchanges a (arrival o.about) o.before) = []) ∨
    (∃ cause, o.result = some (.error (.store cause)) ∧
      takenIn (exchanges a (arrival o.about) o.before) = [] ∧
      storeFailuresIn (exchanges a (arrival o.about) o.before) = [cause])
  failed : ∀ o ∈ os, o.merged? = none → ∀ r, Holding o.before.store r → Holding o.after.store r
  /-- The record is what comes of the lists that were written, in any order and however often. -/
  union : ∀ lists, (∀ ms, ms ∈ lists ↔ ms ∈ mergedLists os) → Holding c'.store (merged record lists)
  hosts : ∀ x, Recorded (merged record (mergedLists os)) x ↔
    Recorded record x ∨ ∃ ms ∈ mergedLists os, ∃ m ∈ ms, m.host = x
  absent : merged record (mergedLists os) = none ↔ record = none ∧ mergedLists os = []
  told : ∀ o ∈ os, o.told = [] ∨ ∃ hosts, hosts ≠ [] ∧
    hosts.Pairwise (fun x y => compare x y = .lt) ∧ o.told = [.hostsAdded hosts]
  /-- No two calls report the same host. -/
  apart : os.Pairwise fun o o' => ∀ x ∈ o.reported, x ∉ o'.reported
  /-- What is reported is what has come to be on record. -/
  news : ∀ x, (∃ o ∈ os, x ∈ o.reported) ↔
    Recorded (merged record (mergedLists os)) x ∧ ¬ Recorded record x
  /-- Index, runner and substrate are neither changed nor asked. -/
  untouched : ∀ o ∈ os, OnlyRecord o.before o.after ∧
    ∀ e ∈ exchanges a (arrival o.about) o.before, Handler.SeesToArrival e.request

/-- A call that found this record. -/
def ArrivedFrom (Holding : RecordStore → Option HostRecord → Prop) (a : Actor) (o : ArrivalCall) : Prop :=
  ∀ record, Holding o.before.store record → ∃ r, o.result = some r ∧
    Arrived Holding record o.about.2 (exchanges a (arrival o.about) o.before) o.after r

theorem ArrivalCourse.arrived (hstore : RecordStore.IsStore Holding)
    (h : ArrivalCourse Holding a c os c') : ∀ o ∈ os, ArrivedFrom Holding a o := by
  intro o ho record hrecord
  obtain ⟨d, r, hrun, hr⟩ := memberJoined_does (a := a) hstore hrecord o.about.1 o.about.2
  rw [← h.called o ho, Occasion.of]
  dsimp only
  rw [hrun]
  exact ⟨r, rfl, hr⟩

/-- How far the calls so far have got. -/
structure Merging (Holding : RecordStore → Option HostRecord → Prop) (record : Option HostRecord)
    (os : List ArrivalCall) (c' : Cluster) : Prop where
  found : ∀ o ∈ os, ∃ r, Holding o.before.store r
  holds : Holding c'.store (merged record (mergedLists os))
  apart : os.Pairwise fun o o' => ∀ x ∈ o.reported, x ∉ o'.reported
  news : ∀ x, (∃ o ∈ os, x ∈ o.reported) ↔
    Recorded (merged record (mergedLists os)) x ∧ ¬ Recorded record x

theorem Merging.call {o : ArrivalCall} (ho : ArrivedFrom Holding a o)
    (h : Merging Holding record os o.before) : Merging Holding record (os ++ [o]) o.after := by
  obtain ⟨r, hresult, harrived⟩ := ho _ h.holds
  have hfound : ∀ o' ∈ os ++ [o], ∃ r, Holding o'.before.store r := by
    intro o' ho'
    rcases List.mem_append.1 ho' with ho' | ho'
    · exact h.found o' ho'
    · obtain rfl := List.mem_singleton.1 ho'
      exact ⟨_, h.holds⟩
  cases r with
  | error e =>
    -- The call has merged nothing and reported nothing, so all is as it was.
    obtain ⟨-, -, -, hholds⟩ := harrived
    have hlists : mergedLists (os ++ [o]) = mergedLists os := by
      simp [mergedLists, ArrivalCall.merged?_of_error hresult]
    have hnone := ArrivalCall.reported_of_error hresult
    constructor
    case found => exact hfound
    case holds =>
      rw [hlists]
      exact hholds
    case apart => simp [List.pairwise_append, h.apart, hnone]
    case news =>
      rw [hlists]
      simpa [or_and_right, exists_or, hnone] using h.news
  | ok events =>
    obtain ⟨w, added, habsorb, -, hholds, rfl⟩ := harrived
    have hlists : mergedLists (os ++ [o]) = mergedLists os ++ [o.about.2] := by
      simp [mergedLists, ArrivalCall.merged?_of_ok hresult]
    have hmerged : merged record (mergedLists (os ++ [o])) = some w := by
      rw [hlists, merged_append, habsorb]
    have hreported : ∀ x, x ∈ o.reported ↔
        x ∈ hostsOf o.about.2 ∧ ¬ Recorded (merged record (mergedLists os)) x := by
      intro x
      rw [ArrivalCall.reported_of_ok hresult, ClusterEvent.added_ofAdded, mem_absorbed habsorb]
    constructor
    case found => exact hfound
    case holds =>
      rw [hmerged]
      exact hholds
    case apart =>
      refine List.pairwise_append.2 ⟨h.apart, List.pairwise_singleton _ _, fun o₁ ho₁ o₂ ho₂ x hx => ?_⟩
      obtain rfl := List.mem_singleton.1 ho₂
      -- What was reported earlier was on record when the call came.
      exact fun hx' => ((hreported x).1 hx').2 ((h.news x).1 ⟨o₁, ho₁, hx⟩).1
    case news =>
      intro x
      have hfirst : Recorded record x → Recorded (merged record (mergedLists os)) x :=
        fun hx => recorded_merged.2 (.inl hx)
      have hsplit : (∃ o' ∈ os ++ [o], x ∈ o'.reported) ↔
          (∃ o' ∈ os, x ∈ o'.reported) ∨ x ∈ o.reported := by
        simp [or_and_right, exists_or]
      rw [hsplit, h.news, hreported, hmerged, recorded_absorbed habsorb]
      -- What was reported by now is on record, and what is reported now was not.
      by_cases hx : Recorded (merged record (mergedLists os)) x
      · simp [hx]
      · simp [hx, mt hfirst hx]

theorem ArrivalCourse.merging (hstore : RecordStore.IsStore Holding) (hrecord : Holding c.store record)
    (h : ArrivalCourse Holding a c os c') : Merging Holding record os c' := by
  refine h.keeps (P := Merging Holding record) (h.arrived hstore) ?_ (fun ho hp => hp.call ho)
    fun hsame hp => ⟨hp.found, hsame _ hp.holds, hp.apart, hp.news⟩
  refine ⟨fun o ho => absurd ho List.not_mem_nil, hrecord, .nil, fun x => ?_⟩
  exact iff_of_false (by simp) fun hx => hx.2 hx.1

theorem ArrivedFrom.told {o : ArrivalCall} (h : ArrivedFrom Holding a o)
    (hrecord : Holding o.before.store record) : o.told = [] ∨ ∃ hosts, hosts ≠ [] ∧
      hosts.Pairwise (fun x y => compare x y = .lt) ∧ o.told = [.hostsAdded hosts] := by
  obtain ⟨r, hresult, harrived⟩ := h _ hrecord
  rw [Occasion.told, hresult]
  cases r with
  | error e => exact .inl rfl
  | ok events =>
    obtain ⟨w, added, habsorb, -, -, rfl⟩ := harrived
    cases hadded : added with
    | nil => exact .inl rfl
    | cons x hosts =>
      rw [← hadded]
      refine .inr ⟨added, by simp [hadded], absorbed_ascending habsorb, ?_⟩
      simp [ClusterEvent.ofAdded, hadded]

/-- However writes fail, the record in the end is the union of what was there and of the lists that
were written, and every host that has come to be there was reported once. -/
theorem arrivals_merge (hstore : RecordStore.IsStore Holding) (hrecord : Holding c.store record)
    (h : ArrivalCourse Holding a c os c') : ArrivalLaw Holding a record os c' := by
  have hmerging := h.merging hstore hrecord
  have harrived := h.arrived hstore
  constructor
  case ended =>
    intro o ho
    obtain ⟨r, hr⟩ := hmerging.found o ho
    obtain ⟨result, hresult, h'⟩ := harrived o ho r hr
    cases result with
    | ok events =>
      obtain ⟨w, added, -, ⟨htaken, hfailures⟩, -, -⟩ := h'
      exact .inl ⟨events, hresult, by simp [htaken], hfailures⟩
    | error e =>
      obtain ⟨cause, rfl, hstore, -⟩ := h'
      exact .inr ⟨cause, hresult, hstore⟩
  case failed =>
    intro o ho hnone r hr
    obtain ⟨result, hresult, h'⟩ := harrived o ho r hr
    cases result with
    | ok events =>
      rw [ArrivalCall.merged?_of_ok hresult] at hnone
      cases hnone
    | error e =>
      obtain ⟨-, -, -, hholds⟩ := h'
      exact hholds
  case union =>
    intro lists hlists
    rw [merged_congr hlists]
    exact hmerging.holds
  case hosts => exact fun x => recorded_merged
  case absent => exact merged_eq_none_iff
  case told =>
    intro o ho
    obtain ⟨r, hr⟩ := hmerging.found o ho
    exact (harrived o ho).told hr
  case apart => exact hmerging.apart
  case news => exact hmerging.news
  case untouched =>
    intro o ho
    have hasks := Handler.memberJoined_asks o.about.1 o.about.2
    refine ⟨?_, exchanges_of_asks hasks _⟩
    rw [← h.called o ho]
    exact run_keeps (P := OnlyRecord o.before) (fun _ _ hr hd => hd.answer hr) hasks ⟨_, _, rfl⟩

/-- The store begins to fail, or ceases to. -/
def setWritesFail (fails : Bool) (c : Cluster) : Cluster :=
  { c with store := c.store.setWritesFail fails }

theorem remembers_setWritesFail (fails : Bool) (c : Cluster) (r : Option HostRecord)
    (h : RecordStore.Remembers c.store r) :
    RecordStore.Remembers (c.setWritesFail fails).store r := by
  obtain ⟨m, hstore, rfl⟩ := h
  rw [setWritesFail, hstore]
  exact ⟨_, rfl, rfl⟩

/-- An arrival cannot be written and is told once more, and then one more member has joined. -/
theorem arrivals_merge_after_failure : ∃ (os : List ArrivalCall) (c' : Cluster),
    ArrivalCourse RecordStore.Remembers ⟨⟨"a"⟩, 0, 0⟩
      (.empty default "node-tasks" (.memory ⟨none, true, ∅⟩)) os c' ∧
    os.map (·.reported) = [[], [⟨"h1"⟩], [⟨"h2"⟩]] ∧
    ArrivalLaw RecordStore.Remembers ⟨⟨"a"⟩, 0, 0⟩ none os c' := by
  have hfailing : ArrivalCourse RecordStore.Remembers ⟨⟨"a"⟩, 0, 0⟩
      (.empty default "node-tasks" (.memory ⟨none, true, ∅⟩)) _ _ :=
    .call (⟨⟨"a"⟩, ⟨"h1"⟩⟩, [⟨⟨"a"⟩, ⟨"h1"⟩⟩]) .nil
  have hagain : ArrivalCourse RecordStore.Remembers ⟨⟨"a"⟩, 0, 0⟩
      (.empty default "node-tasks" (.memory ⟨none, true, ∅⟩)) _ _ :=
    .call (⟨⟨"a"⟩, ⟨"h1"⟩⟩, [⟨⟨"a"⟩, ⟨"h1"⟩⟩])
      (hfailing.elsewhere (remembers_setWritesFail false _))
  have hmore : ArrivalCourse RecordStore.Remembers ⟨⟨"a"⟩, 0, 0⟩
      (.empty default "node-tasks" (.memory ⟨none, true, ∅⟩)) _ _ :=
    .call (⟨⟨"b"⟩, ⟨"h2"⟩⟩, [⟨⟨"b"⟩, ⟨"h2"⟩⟩, ⟨⟨"a"⟩, ⟨"h1"⟩⟩]) hagain
  exact ⟨_, _, hmore, by decide, arrivals_merge RecordStore.remembers_isStore ⟨_, rfl, rfl⟩ hmore⟩

end Cluster

end ClusterKeeper
