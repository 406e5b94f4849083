import ClusterKeeper.Proofs.Departure.Tasks

/-!
# `Proofs/Departure/Outcome.lean` — what comes of a departure, whatever fails

A node that is told of a departure needs the index, the substrate, the runner and the store, and each
of them may fail on its own. `memberLeft_seesOut` says of every combination what was asked of the
runner and of the store, what the index and the store come to hold, and what is returned.

Index and substrate are up or down as a whole (`AllOrNothing`). Single starts and single writes may
fail as they like. The host is seen to whatever has become of the tasks, and of two failures that of
the index is returned.
-/

set_option autoImplicit false

namespace ClusterKeeper

namespace TaskIndex

variable {i : TaskIndex} {here id : NodeId}

theorem get?_addAll_of_ne (h : id ≠ here) (new : List TaskId) :
    (i.addAll here new).entries.get? id = i.entries.get? id := by
  induction new generalizing i with
  | nil => rfl
  | cons task new ih =>
    rw [addAll_cons, ih, addTask]
    split
    · rfl
    · rw [OrderedMap.get?_put, if_neg h]

end TaskIndex

namespace Handler

open Cluster

variable {Holding : RecordStore → Option HostRecord → Prop} {a : Actor} {c : Cluster}
  {record : Option HostRecord}

/-- What a node has done about a departure, and what it returns: `es` are its exchanges, from the
cluster `c` to the cluster `c'`. -/
structure SeenOut (Holding : RecordStore → Option HostRecord → Prop) (here : NodeId)
    (departed : Member) (record : Option HostRecord) (c : Cluster) (es : List Exchange)
    (c' : Cluster) (result : Except HandlerError (List ClusterEvent)) : Prop where
  /-- The runner is asked for the tasks that are owned here and not recorded here. -/
  tried : triedIn es = if c.index.offline || c.substrate.offline then []
    else attemptsOf c.substrate.owners.get? here departed c
  ascending : (triedIn es).Pairwise fun s t => compare s t = .lt
  started : startedIn es = (triedIn es).filter (c.starts here)
  running : (c'.node here).runner.started.toList =
    (c.node here).runner.started.toList ++ startedIn es
  recorded : ∀ task, task ∈ c'.index.tasks here ↔
    task ∈ c.index.tasks here ∨ task ∈ startedIn es
  untouched : ∀ id, id ≠ here → c'.index.entries.get? id = c.index.entries.get? id
  /-- The store is asked to write once at most, and never anything but this. -/
  written : writesIn es = (c.toWrite departed record).toList.map .update
  holds : Holding c'.store (c.recordAfter departed record)
  hosts : ∀ x, x ≠ departed.host →
    (Recorded (c.recordAfter departed record) x ↔ Recorded record x)
  /-- Of two failures that of the index is returned. -/
  told : result = if c.index.offline then .error (.index c.index.outage)
    else do return (triedIn es).map (c.attempted here) ++ (← forgotten c departed record)

theorem SeesToHost.not_clock {r : Request} (h : SeesToHost r) : .clock ∉ r.parts := by
  cases r <;> simp_all [SeesToHost, Request.parts]

theorem does_log {α : Type} {level : LogLevel} {message : String} {fields : LogFields}
    {f : Unit → Handler α} {R : List Exchange → Cluster → α → Prop}
    (hf : ∀ x : LogRecord, Does a (f ()) { c with log := c.log.add x } fun es =>
      R (⟨.log x, ()⟩ :: es)) : Does a (log level message fields >>= f) c R :=
  does_ask rfl (hf _)

/-- The tasks first, and then the host, whatever became of the tasks. -/
theorem memberLeft_does (hstore : RecordStore.IsStore Holding) (hc : c.AllOrNothing)
    (hrecord : Holding c.store record) (hread : c.store.get.2 = .ok record) (departed : Member) :
    Does a (memberLeft a.node departed).run c fun es c' result =>
      triedIn es = (if c.index.offline || c.substrate.offline then []
        else attemptsOf c.substrate.owners.get? a.node departed c) ∧
      c'.index = c.index.addAll a.node (startedIn es) ∧
      writesIn es = (c.toWrite departed record).toList.map .update ∧
      Holding c'.store (c.recordAfter departed record) ∧
      result = if c.index.offline then .error (.index c.index.outage)
        else do return (triedIn es).map (c.attempted a.node) ++ (← forgotten c departed record) := by
  refine does_log fun x => ?_
  have halike : c.AnswersAlike { c with log := c.log.add x } :=
    .of_answered (a := a) (r := .log x) (show _ = (_, some ()) from rfl)
  have hc₁ : AllOrNothing { c with log := c.log.add x } :=
    ⟨hc.members, hc.owners, hc.reads, hc.notes, hc.load⟩
  refine (resumeTasks_does hc₁ departed).bind fun es₁ c₂ resumed h₁ => ?_
  have hhosts : HostsAlike c c₂ :=
    ⟨h₁.hosts.faults, h₁.hosts.store, h₁.hosts.members, h₁.hosts.offline⟩
  have hindex : Yields a (forgetHost departed).run c₂ fun c' _ => c'.index = c₂.index :=
    yields_of_asks (fun r hr => hr.not_clock)
      (fun d r hr hd => (answer_index hr.not_index).trans hd) (forgetHost_asks departed) rfl
  have hforget := (forgetHost_does hstore hc hrecord hread hhosts departed).and hindex
  refine (hforget.and_asks (forgetHost_asks departed)).bind fun es₂ c₃ forgot h₂ => does_done ?_
  obtain ⟨⟨hseen, hsame⟩, hasked⟩ := h₂
  have htried₂ : triedIn es₂ = [] := triedIn_of_runner fun e he => (hasked e he).not_runner
  have htried : triedIn (⟨.log x, ()⟩ :: (es₁ ++ (es₂ ++ []))) = triedIn es₁ := by
    show triedIn (es₁ ++ (es₂ ++ [])) = _
    rw [List.append_nil, triedIn_append, htried₂, List.append_nil]
  have hstarted : startedIn (⟨.log x, ()⟩ :: (es₁ ++ (es₂ ++ []))) = startedIn es₁ := by
    show (es₁ ++ (es₂ ++ [])).filterMap _ = _
    rw [List.append_nil, List.filterMap_append, ← startedIn, ← startedIn,
      startedIn_of_triedIn htried₂, List.append_nil]
  have hwritten : writesIn (⟨.log x, ()⟩ :: (es₁ ++ (es₂ ++ []))) = writesIn es₂ := by
    show writesIn (es₁ ++ (es₂ ++ [])) = _
    rw [List.append_nil, writesIn_append, h₁.unwritten, List.nil_append]
  rw [htried, hstarted, hwritten]
  refine ⟨h₁.tried, hsame.trans h₁.index, hseen.written, hseen.holds, ?_⟩
  have htold := h₁.told
  rw [halike.attempted_eq] at htold
  rw [hseen.told]
  cases hi : c.index.offline with
  | true =>
    have hresumed : resumed = .error (.index c.index.outage) := by rwa [if_pos hi] at htold
    rw [hresumed]
    rfl
  | false =>
    rw [if_neg (by simp [hi])] at htold
    cases hs : c.substrate.offline with
    | true =>
      rw [if_pos hs] at htold
      obtain ⟨events, rfl⟩ := htold
      rw [forgotten, hs]
      rfl
    | false =>
      rw [if_neg (by simp [hs])] at htold
      rw [htold]
      rfl

/-- Whatever of index, substrate, runner and store fails, this is what comes of a departure. -/
theorem memberLeft_seesOut (hstore : RecordStore.IsStore Holding) (hc : c.AllOrNothing)
    (hrecord : Holding c.store record) (hread : c.store.get.2 = .ok record) (departed : Member) :
    ∃ c' result, run a (memberLeft a.node departed).run c = (c', some result) ∧
      SeenOut Holding a.node departed record c
        (exchanges a (memberLeft a.node departed).run c) c' result := by
  have hstarted := startedIn_exchanges (a := a) (memberLeft a.node departed).run c
  have hrunning := started_exchanges (a := a) (memberLeft a.node departed).run c
  obtain ⟨c', result, hrun, htried, hindex, hwritten, hholds, htold⟩ :=
    memberLeft_does (a := a) hstore hc hrecord hread departed
  rw [hrun] at hrunning
  refine ⟨c', result, hrun, ?_⟩
  generalize exchanges a (memberLeft a.node departed).run c = es at *
  exact
    { tried := htried
      ascending := by
        rw [htried]
        split
        · exact .nil
        · exact (c.index.tasks departed.id).ascending.filter _
      started := hstarted
      running := hrunning
      recorded := by
        intro task
        cases hoffline : c.index.offline with
        | true =>
          have hnone : triedIn es = [] := by rw [htried, hoffline, Bool.true_or, if_pos rfl]
          rw [hindex, startedIn_of_triedIn hnone]
          simp [TaskIndex.addAll]
        | false => simp [hindex, TaskIndex.mem_addAll hoffline]
      untouched := fun id hid => by rw [hindex, TaskIndex.get?_addAll_of_ne hid]
      written := hwritten
      holds := hholds
      hosts := fun x hx => recorded_recordAfter c hx
      told := htold }

/-- A runner fails one of two tasks that are due, and the store takes no record. -/
def halfFailing : Cluster :=
  { Cluster.empty default "node-tasks"
      (.memory ⟨some (.ofHosts [⟨"10.0.0.1"⟩, ⟨"10.0.0.2"⟩]), true, ∅⟩) with
    substrate :=
      ((Substrate.empty.join ⟨⟨"a"⟩, ⟨"10.0.0.1"⟩⟩).setOwner ⟨"t-1"⟩ ⟨"a"⟩).setOwner ⟨"t-2"⟩ ⟨"a"⟩
    index := (TaskIndex.named "node-tasks").assign ⟨"b"⟩ [⟨"t-1"⟩, ⟨"t-2"⟩, ⟨"t-3"⟩]
    nodes := (∅ : OrderedMap NodeId Node).put ⟨"a"⟩
      { Node.fresh ⟨⟨"a"⟩, ⟨"10.0.0.1"⟩⟩ .active with runner := TaskRunner.idle.fail ⟨"t-1"⟩ } }

/-- The other task is started and recorded, and the write that failed is what is returned. -/
theorem halfFailing_seesOut : ∃ (es : List Exchange) (c' : Cluster),
    run ⟨⟨"a"⟩, 0, 0⟩ (memberLeft ⟨"a"⟩ ⟨⟨"b"⟩, ⟨"10.0.0.2"⟩⟩).run halfFailing =
      (c', some (.error (.store (.unavailable MemoryStore.writeFailure)))) ∧
    triedIn es = [⟨"t-1"⟩, ⟨"t-2"⟩] ∧ startedIn es = [⟨"t-2"⟩] ∧
    writesIn es = [.update (.ofHosts [⟨"10.0.0.1"⟩])] ∧ (⟨"t-2"⟩ : TaskId) ∈ c'.index.tasks ⟨"a"⟩ := by
  have hrecord : RecordStore.Remembers halfFailing.store
      (some (.ofHosts [⟨"10.0.0.1"⟩, ⟨"10.0.0.2"⟩])) := ⟨_, rfl, rfl⟩
  obtain ⟨c', result, hrun, h⟩ :=
    memberLeft_seesOut (a := ⟨⟨"a"⟩, 0, 0⟩) RecordStore.remembers_isStore
      ⟨rfl, fun _ => rfl, fun _ => rfl, fun _ => rfl, rfl⟩ hrecord rfl ⟨⟨"b"⟩, ⟨"10.0.0.2"⟩⟩
  have htried : triedIn _ = [⟨"t-1"⟩, ⟨"t-2"⟩] := h.tried.trans (by decide)
  have hstarted : startedIn _ = [⟨"t-2"⟩] := h.started.trans (by rw [htried]; decide)
  obtain rfl : result = .error (.store (.unavailable MemoryStore.writeFailure)) := h.told
  refine ⟨_, c', hrun, htried, hstarted, h.written, (h.recorded _).2 (.inr ?_)⟩
  rw [hstarted]
  exact .head _

end Handler

end ClusterKeeper
