import ClusterKeeper.Proofs.Hosts.Handling
import ClusterKeeper.Proofs.Interleaving

/-!
# `Proofs/Hosts/Overlap.lean` — handlings that share one record

Arrivals and departures are handled side by side, on any nodes, over one store. Each of them reads
the record and may then write it back changed, and nothing keeps the two together: who writes in
between is undone. That is tolerated, and what is true in spite of it is this. The record is always
what *some* of the handlings leave behind, done one after another; and a handling that is not among
them was overwritten, by one that had read the record before it and wrote it after.

* An `Errand` is a handling, seen from the store: when it is settled, and what it makes of a record.
* `Stand` says how far it has come, `Stand.Conduct` is the rule that its handler keeps to.
* `Errands.Inv` compares the record with an order of those errands that are in effect, and what an
  errand has read with an earlier such order.

An errand that writes nothing takes its place in the order where that is settled: where it learns
that the host is still in use, or reads that there is nothing to do.
-/

set_option autoImplicit false

namespace ClusterKeeper

/-! ## 1. Errands -/

/-- A handling that is about the record of hosts. -/
inductive Errand
  | arrival (joined : Member) (alive : List Member)
  | departure (departed : Member)

namespace Errand

def handler (here : NodeId) : Errand → Handler (Except HandlerError (List ClusterEvent))
  | arrival joined alive => (Handler.memberJoined joined alive).run
  | departure departed => (Handler.memberLeft here departed).run

/-- A departure leaves the record alone if somebody alive is on the host. -/
def spares (members : List Member) : Errand → Bool
  | arrival _ _ => false
  | departure departed => (hostsOf (members.filter (·.id ≠ departed.id))).contains departed.host

/-- What an errand writes after it has read this, if it writes. -/
def written? : Errand → Option HostRecord → Option HostRecord
  | arrival _ alive, record => some ((record.getD .empty).absorb (hostsOf alive).toList).1
  | departure departed, record => record.bind fun r =>
    if r.contains departed.host then some (r.forget departed.host).1 else none

/-- What an errand makes of a record, with these members, if nobody else is about it. -/
def apply (members : List Member) (e : Errand) (record : Option HostRecord) : Option HostRecord :=
  if e.spares members then record else (e.written? record).or record

/-- By this exchange an errand has done all that it will do to the record. -/
def Settles (e : Errand) : Exchange → Prop
  | ⟨.members, .ok members⟩ => e.spares members = true
  | ⟨.loadRecord, .ok record⟩ => e.written? record = none
  | ⟨.addRecord _, .ok ()⟩ => True
  | ⟨.updateRecord _, .ok ()⟩ => True
  | _ => False

end Errand

def Exchange.load (record : Option HostRecord) : Exchange := ⟨.loadRecord, .ok record⟩

def Exchange.IsWrite : Exchange → Prop
  | ⟨.addRecord _, .ok ()⟩ => True
  | ⟨.updateRecord _, .ok ()⟩ => True
  | _ => False

/-! ## 2. How errands are done -/

/-- How far an errand has come. -/
inductive Stand
  /-- It is still to be found out whether it has to do with the record. -/
  | waiting
  | needed
  /-- It has read this, and will write. -/
  | loaded (record : Option HostRecord)
  | settled

def Errand.first : Errand → Stand
  | arrival _ _ => .needed
  | departure _ => .waiting

namespace Stand

/-- The exchanges of an errand. -/
inductive Conduct (e : Errand) : Rule Request.Reply Stand
  | beside {s : Stand} {r : Request} {reply : r.Reply} (hstore : .store ∉ r.parts)
      (hclock : .clock ∉ r.parts) : Conduct e s r reply s
  | unasked {cause : SubstrateError} : Conduct e .waiting .members (.error cause) .settled
  | spare {members : List Member} (h : e.spares members = true) :
      Conduct e .waiting .members (.ok members) .settled
  | need {members : List Member} (h : e.spares members = false) :
      Conduct e .waiting .members (.ok members) .needed
  | unread {cause : StoreError} : Conduct e .needed .loadRecord (.error cause) .settled
  | pass {record : Option HostRecord} (h : e.written? record = none) :
      Conduct e .needed .loadRecord (.ok record) .settled
  | load {record : Option HostRecord} {x : HostRecord} (h : e.written? record = some x) :
      Conduct e .needed .loadRecord (.ok record) (.loaded record)
  | add {record : Option HostRecord} {x : HostRecord} {result : Except StoreError Unit}
      (h : e.written? record = some x) : Conduct e (.loaded record) (.addRecord x) result .settled
  | update {record : HostRecord} {x : HostRecord} {result : Except StoreError Unit}
      (h : e.written? (some record) = some x) :
      Conduct e (.loaded (some record)) (.updateRecord x) result .settled

def Ending {α : Type} (s : Stand) (_ : α) : Prop := s = .settled

theorem Conduct.timeless {e : Errand} {s s' : Stand} {r : Request} {reply : r.Reply}
    (h : Conduct e s r reply s') : .clock ∉ r.parts := by
  cases h with
  | beside hstore hclock => exact hclock
  | _ => simp [Request.parts]

end Stand

namespace Handler

open Stand

variable {e : Errand}

theorem follows_log_errand {α : Type} {last : Stand → α → Prop} {s : Stand}
    {level : LogLevel} {message : String} {fields : LogFields} {f : Unit → Handler α}
    (h : (f ()).Follows (Conduct e) last s) :
    (log level message fields >>= f).Follows (Conduct e) last s :=
  Program.Follows.request fun _ =>
    ⟨s, .beside (by simp [Request.parts]) (by simp [Request.parts]), h⟩

theorem memberJoined_follows (joined : Member) (alive : List Member) :
    (memberJoined joined alive).run.Follows (Conduct (.arrival joined alive)) Ending .needed := by
  rw [memberJoined, run_lift_bind]
  refine follows_log_errand ?_
  rw [run_orFail_bind]
  refine Program.Follows.request fun stored => ?_
  cases stored with
  | error cause => exact ⟨_, .unread, rfl⟩
  | ok record =>
    refine ⟨_, .load rfl, ?_⟩
    have hwrite : (Errand.arrival joined alive).written? record =
        some ((record.getD .empty).absorb (hostsOf alive).toList).1 := rfl
    dsimp only
    generalize (record.getD .empty).absorb (hostsOf alive).toList = absorbed at hwrite
    obtain ⟨record', new⟩ := absorbed
    rw [run_orFail_bind]
    refine Program.Follows.request fun written => ⟨_, .add hwrite, ?_⟩
    cases written with
    | error cause => rfl
    | ok _ =>
      dsimp only
      split
      · rfl
      · exact follows_log_errand rfl

theorem forgetHost_follows_errand (departed : Member) :
    (forgetHost departed).run.Follows (Conduct (.departure departed)) Ending .waiting := by
  rw [forgetHost, run_orFail_bind]
  refine Program.Follows.request fun members => ?_
  cases members with
  | error cause => exact ⟨_, .unasked, rfl⟩
  | ok members =>
    dsimp only
    split
    · next hl => exact ⟨_, .spare hl, follows_log_errand rfl⟩
    · next hl =>
      refine ⟨_, .need (Bool.eq_false_iff.2 hl), ?_⟩
      rw [run_orFail_bind]
      refine Program.Follows.request fun stored => ?_
      cases stored with
      | error cause => exact ⟨_, .unread, rfl⟩
      | ok stored =>
        cases stored with
        | none => exact ⟨_, .pass rfl, rfl⟩
        | some record =>
          dsimp only
          split
          · next hk =>
            rw [Bool.not_eq_true'] at hk
            have hunknown : record.contains departed.host = false := hk
            exact ⟨_, .pass (if_neg (Bool.eq_false_iff.1 hunknown)), rfl⟩
          · next hk =>
            rw [Bool.not_eq_true', Bool.not_eq_false] at hk
            have hknown : record.contains departed.host = true := hk
            have hwrite : (Errand.departure departed).written? (some record) =
                some (record.forget departed.host).1 := if_pos hknown
            refine ⟨_, .load hwrite, ?_⟩
            rw [run_orFail_bind]
            refine Program.Follows.request fun written => ⟨_, .update hwrite, ?_⟩
            cases written with
            | error cause => rfl
            | ok _ => exact follows_log_errand rfl

theorem memberLeft_follows_errand (here : NodeId) (departed : Member) :
    (memberLeft here departed).run.Follows (Conduct (.departure departed)) Ending .waiting := by
  refine follows_log_errand ?_
  have hasks : (resumeTasks here departed).run.Asks fun r =>
      .store ∉ r.parts ∧ .clock ∉ r.parts := by
    refine (resumeTasks_follows here departed).asks Request.reply_nonempty ?_
    intro b r reply b' hr
    cases hr <;> simp [Request.parts]
  have hresume : (resumeTasks here departed).run.Follows (Conduct (.departure departed))
      (fun s _ => s = .waiting) .waiting := by
    refine hasks.follows ?_ rfl
    intro s r reply hs hr
    exact ⟨s, .beside hr.1 hr.2, hs⟩
  refine hresume.bind fun s resumed hs => ?_
  subst hs
  exact (forgetHost_follows_errand departed).bind fun s forgotten hs => hs

theorem errand_follows (here : NodeId) (e : Errand) :
    (e.handler here).Follows (Conduct e) Ending e.first := by
  cases e with
  | arrival joined alive => exact memberJoined_follows joined alive
  | departure departed => exact memberLeft_follows_errand here departed

end Handler

/-! ## 3. On a store that does not fail -/

/-- What an exchange of an errand does, with these members and this record. -/
inductive Stand.Outcome (e : Errand) (members : List Member) (record : Option HostRecord) :
    Stand → Exchange → Stand → Option HostRecord → Prop
  | beside {s : Stand} {x : Exchange} : Outcome e members record s x s record
  | need {x : Exchange} (h : e.spares members = false) :
      Outcome e members record .waiting x .needed record
  | load {y : HostRecord} (h : e.written? record = some y) :
      Outcome e members record .needed (.load record) (.loaded record) record
  | spare {x : Exchange} (h : e.spares members = true) (hx : e.Settles x) :
      Outcome e members record .waiting x .settled record
  | pass {x : Exchange} (h : e.written? record = none) (hx : e.Settles x) :
      Outcome e members record .needed x .settled record
  | write {read : Option HostRecord} {y : HostRecord} {x : Exchange}
      (h : e.written? read = some y) (hx : e.Settles x) (hwrite : x.IsWrite) :
      Outcome e members record (.loaded read) x .settled (some y)

namespace Cluster

theorem Yields.of_answered {c c' : Cluster} {a : Actor} {r : Request} {reply : r.Reply}
    {Q : Cluster → r.Reply → Prop} (h : Yields a r.ask c Q)
    (answered : c.answer a r = (c', some reply)) : Q c' reply := by
  obtain ⟨d, x, hrun, hq⟩ := h
  have hrun' : run a r.ask c = (c', some reply) := run_ask_some answered
  rw [hrun'] at hrun
  cases hrun
  exact hq

variable {Holding : RecordStore → Option HostRecord → Prop} {c c' : Cluster}
  {members : List Member} {record : Option HostRecord} {a : Actor} {e : Errand} {s s' : Stand}
  {r : Request} {reply : r.Reply}

/-- A record that an errand has read is still there when it writes, if not as it was. -/
theorem Reliable.exchange (hreg : RecordStore.IsRegister Holding)
    (hc : c.Reliable Holding members record) (h : Stand.Conduct e s r reply s')
    (hthere : ∀ read, s = .loaded (some read) → record ≠ none)
    (answered : c.answer a r = (c', some reply)) :
    ∃ record', c'.Reliable Holding members record' ∧
      Stand.Outcome e members record s ⟨r, reply⟩ s' record' := by
  cases h with
  | beside hstore hclock =>
    have hc' := hc.answer (a := a) hstore
    rw [answered] at hc'
    exact ⟨record, hc', .beside⟩
  | unasked =>
    obtain ⟨hreply, -⟩ := hc.askMembers.of_answered answered
    cases hreply
  | spare h =>
    obtain ⟨hreply, hc'⟩ := hc.askMembers.of_answered answered
    cases hreply
    exact ⟨record, hc', .spare h h⟩
  | need h =>
    obtain ⟨hreply, hc'⟩ := hc.askMembers.of_answered answered
    cases hreply
    exact ⟨record, hc', .need h⟩
  | unread =>
    obtain ⟨hreply, -⟩ := (hc.loadRecord hreg).of_answered answered
    cases hreply
  | pass h =>
    obtain ⟨hreply, hc'⟩ := (hc.loadRecord hreg).of_answered answered
    cases hreply
    exact ⟨record, hc', .pass h h⟩
  | load h =>
    obtain ⟨hreply, hc'⟩ := (hc.loadRecord hreg).of_answered answered
    cases hreply
    exact ⟨record, hc', .load h⟩
  | @add read x result h =>
    obtain ⟨hreply, hc'⟩ := (hc.addRecord hreg x).of_answered answered
    cases hreply
    exact ⟨some x, hc', .write h trivial trivial⟩
  | @update read x result h =>
    obtain ⟨there, rfl⟩ := Option.ne_none_iff_exists'.1 (hthere read rfl)
    obtain ⟨hreply, hc'⟩ := (hc.updateRecord hreg x).of_answered answered
    cases hreply
    exact ⟨some x, hc', .write h trivial trivial⟩

end Cluster

namespace Errand

variable {members : List Member} {e : Errand} {record : Option HostRecord}

theorem apply_of_spares (h : e.spares members = true) : e.apply members record = record := by
  rw [apply, if_pos h]

theorem apply_of_written (h : e.spares members = false) {x : HostRecord}
    (hx : e.written? record = some x) : e.apply members record = some x := by
  rw [apply, h, hx]
  rfl

theorem apply_of_silent (h : e.spares members = false) (hx : e.written? record = none) :
    e.apply members record = record := by
  rw [apply, h, hx]
  rfl

end Errand

/-! ## 4. One after another -/

namespace Cluster

variable {Holding : RecordStore → Option HostRecord → Prop} {c : Cluster}
  {members : List Member} {record : Option HostRecord} {a : Actor}

/-- An errand under way alone. -/
def Alone (Holding : RecordStore → Option HostRecord → Prop) (members : List Member) (e : Errand)
    (record : Option HostRecord) (c : Cluster) : Stand → Prop
  | .waiting => c.Reliable Holding members record
  | .needed => c.Reliable Holding members record ∧ e.spares members = false
  | .loaded read => c.Reliable Holding members record ∧ e.spares members = false ∧ read = record
  | .settled => c.Reliable Holding members (e.apply members record)

theorem Alone.exchange (hreg : RecordStore.IsRegister Holding) {e : Errand} {s s' : Stand}
    {r : Request} {reply : r.Reply} {d d' : Cluster} (hd : Alone Holding members e record d s)
    (hr : Stand.Conduct e s r reply s') (answered : d.answer a r = (d', some reply)) :
    Alone Holding members e record d' s' := by
  cases s with
  | waiting =>
    obtain ⟨record', hd', hout⟩ := Reliable.exchange hreg hd hr (by simp) answered
    cases hout with
    | beside => exact hd'
    | need h => exact ⟨hd', h⟩
    | spare h =>
      show d'.Reliable Holding members (e.apply members record)
      rw [Errand.apply_of_spares h]
      exact hd'
  | needed =>
    obtain ⟨hd, hneeded⟩ := hd
    obtain ⟨record', hd', hout⟩ := hd.exchange hreg hr (by simp) answered
    cases hout with
    | beside => exact ⟨hd', hneeded⟩
    | load h => exact ⟨hd', hneeded, rfl⟩
    | pass h =>
      show d'.Reliable Holding members (e.apply members record)
      rw [Errand.apply_of_silent hneeded h]
      exact hd'
  | loaded read =>
    obtain ⟨hd, hneeded, rfl⟩ := hd
    have hthere : ∀ x, Stand.loaded read = .loaded (some x) → read ≠ none := by
      rintro x ⟨⟩
      exact Option.some_ne_none x
    obtain ⟨record', hd', hout⟩ := hd.exchange hreg hr hthere answered
    cases hout with
    | beside => exact ⟨hd', hneeded, rfl⟩
    | write h =>
      show d'.Reliable Holding members (e.apply members read)
      rw [Errand.apply_of_written hneeded h]
      exact hd'
  | settled =>
    obtain ⟨record', hd', hout⟩ := Reliable.exchange hreg hd hr (by simp) answered
    cases hout with
    | beside => exact hd'

/-- Alone, an errand makes of the record what it should. -/
theorem Reliable.errand (hreg : RecordStore.IsRegister Holding)
    (hc : c.Reliable Holding members record) (here : NodeId) (e : Errand) :
    (run a (e.handler here) c).1.Reliable Holding members (e.apply members record) := by
  have hfollows := Handler.errand_follows here e
  have hasks : (e.handler here).Asks fun r => .clock ∉ r.parts :=
    hfollows.asks Request.reply_nonempty fun hr => hr.timeless
  obtain ⟨x, hx⟩ := run_result (a := a) hasks c
  have hrun : run a (e.handler here) c = ((run a (e.handler here) c).1, some x) := Prod.ext rfl hx
  have hstart : Alone Holding members e record c e.first := by
    cases e with
    | arrival joined alive => exact ⟨hc, rfl⟩
    | departure departed => exact hc
  obtain ⟨s, hs, hend⟩ := run_follows (P := fun s d => Alone Holding members e record d s)
    (fun hr hd answered => hd.exchange hreg hr answered) hfollows hstart hrun
  cases hs
  exact hend

end Cluster

/-- Errands, each on some node. -/
structure Errands (n : Nat) where
  node : Fin n → NodeId
  errand : Fin n → Errand

namespace Errands

variable {n : Nat} (d : Errands n)

def actor (i : Fin n) : Actor := ⟨d.node i, 0, i⟩

def handling (i : Fin n) : Handler (Except HandlerError (List ClusterEvent)) :=
  (d.errand i).handler (d.node i)

/-- Handles these, in this order, each after the one before it. -/
def oneByOne (order : List (Fin n)) (c : Cluster) : Cluster :=
  order.foldl (fun c i => (Cluster.run (d.actor i) (d.handling i) c).1) c

/-- What these make of a record, in this order. -/
def replay (members : List Member) (record : Option HostRecord) (order : List (Fin n)) :
    Option HostRecord :=
  order.foldl (fun r i => (d.errand i).apply members r) record

variable {d} {Holding : RecordStore → Option HostRecord → Prop} {members : List Member}
  {record : Option HostRecord} {c : Cluster}

theorem replay_append (order : List (Fin n)) (i : Fin n) :
    d.replay members record (order ++ [i]) =
      (d.errand i).apply members (d.replay members record order) := by
  rw [replay, List.foldl_append, replay]
  rfl

theorem oneByOne_reliable (hreg : RecordStore.IsRegister Holding)
    (hc : c.Reliable Holding members record) (order : List (Fin n)) :
    (d.oneByOne order c).Reliable Holding members (d.replay members record order) := by
  induction order generalizing c record with
  | nil => exact hc
  | cons i order ih => exact ih (hc.errand hreg (d.node i) (d.errand i))

/-! ## 5. Side by side -/

/-- What may happen beside the errands: nobody else writes the record, members stay, and neither
store nor substrate begins to fail. -/
def Undisturbed (Holding : RecordStore → Option HostRecord → Prop) (members : List Member)
    (c c' : Cluster) : Prop :=
  ∀ record, c.Reliable Holding members record → c'.Reliable Holding members record

variable (d) in
/-- Another errand had read the record before this one was settled, and wrote it after. -/
def Overwritten (trace : List (Fin n × Exchange)) (k : Fin n) : Prop :=
  ∃ m, m ≠ k ∧ ∃ read x w, [(m, Exchange.load read), (k, x), (m, w)].Sublist trace ∧
    (d.errand k).Settles x ∧ w.IsWrite

variable (d) in
/-- What an errand has read is what is left by those that it has taken notice of. Others that are
settled were overwritten before, or were settled after it had read. -/
structure Knows (record : Option HostRecord) (members : List Member)
    (trace : List (Fin n × Exchange)) (g : Fin n → Stand) (i : Fin n) (read : Option HostRecord)
    (noticed : List (Fin n)) : Prop where
  nodup : noticed.Nodup
  settled : ∀ j ∈ noticed, g j = .settled
  read_eq : read = d.replay members record noticed
  loaded : (i, Exchange.load read) ∈ trace
  others : ∀ k, g k = .settled → k ∈ noticed ∨ d.Overwritten trace k ∨
    ∃ x, (d.errand k).Settles x ∧ [(i, Exchange.load read), (k, x)].Sublist trace

variable (d) in
/-- The record is what the errands in `order` leave behind; others that are settled were
overwritten. -/
structure Inv (Holding : RecordStore → Option HostRecord → Prop) (members : List Member)
    (record : Option HostRecord) (c : Cluster) (trace : List (Fin n × Exchange)) (g : Fin n → Stand)
    (order : List (Fin n)) : Prop where
  nodup : order.Nodup
  settled : ∀ j ∈ order, g j = .settled
  reliable : c.Reliable Holding members (d.replay members record order)
  needed : ∀ i, g i = .needed ∨ (∃ read, g i = .loaded read) → (d.errand i).spares members = false
  there : ∀ i x, g i = .loaded (some x) → d.replay members record order ≠ none
  knows : ∀ i read, g i = .loaded read → ∃ noticed, d.Knows record members trace g i read noticed
  missing : ∀ k, g k = .settled → k ∈ order ∨ d.Overwritten trace k

variable {c' : Cluster} {trace : List (Fin n × Exchange)} {g : Fin n → Stand}
  {order : List (Fin n)} {i : Fin n} {x : Exchange}

theorem Overwritten.append {k : Fin n} (h : d.Overwritten trace k) (e : Fin n × Exchange) :
    d.Overwritten (trace ++ [e]) k := by
  obtain ⟨m, hm, read, x, w, hsub, hx, hw⟩ := h
  exact ⟨m, hm, read, x, w, hsub.trans (List.sublist_append_left _ _), hx, hw⟩

/-- What an errand knows stays so while others go on, and when they are settled. -/
theorem Knows.append {read : Option HostRecord} {noticed : List (Fin n)}
    (h : d.Knows record members trace g i read noticed) {j : Fin n} {s : Stand}
    (hj : g j = .settled → s = .settled) (hx : s = .settled → g j ≠ .settled → (d.errand j).Settles x) :
    d.Knows record members (trace ++ [(j, x)]) (Function.update g j s) i read noticed where
  nodup := h.nodup
  settled k hk := by
    by_cases hkj : k = j
    · subst hkj
      rw [Function.update_self]
      exact hj (h.settled k hk)
    · rw [Function.update_of_ne hkj]
      exact h.settled k hk
  read_eq := h.read_eq
  loaded := List.mem_append_left _ h.loaded
  others k hk := by
    by_cases hold : g k = .settled
    · rcases h.others k hold with hk | hk | ⟨x', hx', hsub⟩
      · exact .inl hk
      · exact .inr (.inl (hk.append _))
      · exact .inr (.inr ⟨x', hx', hsub.trans (List.sublist_append_left _ _)⟩)
    · -- It is settled just now, and that is after the reading.
      have hkj : k = j := by
        refine Classical.byContradiction fun hne => hold ?_
        rwa [Function.update_of_ne hne] at hk
      subst hkj
      rw [Function.update_self] at hk
      refine .inr (.inr ⟨x, hx hk hold, ?_⟩)
      exact List.Sublist.append (List.singleton_sublist.2 h.loaded) (List.Sublist.refl [(k, x)])

/-- An errand that takes its place in an order is settled like the others. -/
theorem settled_append (hold : ∀ j ∈ order, g j = .settled) :
    ∀ j ∈ order ++ [i], Function.update g i .settled j = .settled := by
  intro j hj
  by_cases hji : j = i
  · rw [hji, Function.update_self]
  · rw [Function.update_of_ne hji]
    refine hold j ((List.mem_append.1 hj).resolve_right fun hj => hji ?_)
    exact List.mem_singleton.1 hj

theorem nodup_append (hnodup : order.Nodup) (hold : ∀ j ∈ order, g j = .settled)
    (hi : g i ≠ .settled) : (order ++ [i]).Nodup := by
  refine List.nodup_append.2 ⟨hnodup, List.nodup_singleton i, fun j hj k hk hjk => hi ?_⟩
  rw [List.mem_singleton.1 hk] at hjk
  rw [← hjk]
  exact hold j hj

/-- An exchange of the errand `i`, after which these are the ones in effect. -/
theorem Inv.next (h : d.Inv Holding members record c trace g order) {s : Stand}
    {order' : List (Fin n)} (hnodup : order'.Nodup)
    (hsettled : ∀ j ∈ order', Function.update g i s j = .settled)
    (hreliable : c'.Reliable Holding members (d.replay members record order'))
    (hkept : d.replay members record order ≠ none → d.replay members record order' ≠ none)
    (hneeded : s = .needed ∨ (∃ read, s = .loaded read) → (d.errand i).spares members = false)
    (hknows : ∀ read, s = .loaded read →
      (read ≠ none → d.replay members record order' ≠ none) ∧
      ∃ noticed, d.Knows record members (trace ++ [(i, x)]) (Function.update g i s) i read noticed)
    (hstay : g i = .settled → s = .settled)
    (hsettles : s = .settled → g i ≠ .settled → (d.errand i).Settles x)
    (hmissing : ∀ k, Function.update g i s k = .settled →
      k ∈ order' ∨ d.Overwritten (trace ++ [(i, x)]) k) :
    d.Inv Holding members record c' (trace ++ [(i, x)]) (Function.update g i s) order' := by
  constructor
  case nodup => exact hnodup
  case settled => exact hsettled
  case reliable => exact hreliable
  case needed =>
    exact (Function.forall_update_iff g fun j s => s = .needed ∨ (∃ read, s = .loaded read) →
      (d.errand j).spares members = false).2 ⟨hneeded, fun j _ => h.needed j⟩
  case there =>
    refine (Function.forall_update_iff g fun _ s => ∀ y, s = .loaded (some y) →
      d.replay members record order' ≠ none).2 ⟨fun y hs => ?_, fun j _ y hj => hkept (h.there j y hj)⟩
    exact (hknows _ hs).1 (Option.some_ne_none y)
  case knows =>
    refine (Function.forall_update_iff g fun j s' => ∀ read, s' = .loaded read → ∃ noticed,
      d.Knows record members (trace ++ [(i, x)]) (Function.update g i s) j read noticed).2
        ⟨fun read hs => (hknows read hs).2, fun j _ read hj => ?_⟩
    obtain ⟨noticed, hnoticed⟩ := h.knows j read hj
    exact ⟨noticed, hnoticed.append hstay hsettles⟩
  case missing => exact hmissing

section
variable (h : d.Inv Holding members record c trace g order)
include h

/-- An exchange that has nothing to do with the record. -/
theorem Inv.idles (hc' : c'.Reliable Holding members (d.replay members record order)) :
    d.Inv Holding members record c' (trace ++ [(i, x)]) (Function.update g i (g i)) order := by
  have hsame : Function.update g i (g i) = g := Function.update_eq_self i g
  refine h.next h.nodup (fun j hj => ?_) hc' id (h.needed i) (fun read hr => ⟨fun hread => ?_, ?_⟩)
    id (fun hset hne => absurd hset hne) fun k hk => ?_
  · rw [hsame]
    exact h.settled j hj
  · obtain ⟨y, rfl⟩ := Option.ne_none_iff_exists'.1 hread
    exact h.there i y hr
  · obtain ⟨noticed, hnoticed⟩ := h.knows i read hr
    exact ⟨noticed, hnoticed.append id fun hset hne => absurd hset hne⟩
  · rw [hsame] at hk
    exact (h.missing k hk).imp_right (Overwritten.append · _)

theorem Inv.learns (hc' : c'.Reliable Holding members (d.replay members record order))
    (hi : g i ≠ .settled) (hneeded : (d.errand i).spares members = false) :
    d.Inv Holding members record c' (trace ++ [(i, x)]) (Function.update g i .needed) order := by
  refine h.next h.nodup (fun j hj => ?_) hc' id (fun _ => hneeded) (fun read hr => by cases hr)
    (fun hg => absurd hg hi) (fun hset => by cases hset) fun k hk => ?_
  · rw [Function.update_of_ne]
    · exact h.settled j hj
    · rintro rfl
      exact hi (h.settled j hj)
  · by_cases hki : k = i
    · subst hki
      rw [Function.update_self] at hk
      cases hk
    · rw [Function.update_of_ne hki] at hk
      exact (h.missing k hk).imp_right (Overwritten.append · _)

/-- What is read is what those in effect have left. -/
theorem Inv.loads (hc' : c'.Reliable Holding members (d.replay members record order))
    (hi : g i = .needed) :
    d.Inv Holding members record c'
      (trace ++ [(i, Exchange.load (d.replay members record order))])
      (Function.update g i (.loaded (d.replay members record order))) order := by
  have hne : ∀ k, g k = .settled → k ≠ i := by
    rintro k hk rfl
    rw [hi] at hk
    cases hk
  have hold : ∀ {k}, Function.update g i (.loaded (d.replay members record order)) k = .settled →
      g k = .settled := by
    intro k hk
    by_cases hki : k = i
    · subst hki
      rw [Function.update_self] at hk
      cases hk
    · rwa [Function.update_of_ne hki] at hk
  have hsettled : ∀ j ∈ order,
      Function.update g i (.loaded (d.replay members record order)) j = .settled := by
    intro j hj
    rw [Function.update_of_ne (hne j (h.settled j hj))]
    exact h.settled j hj
  have hmissing : ∀ k, g k = .settled → k ∈ order ∨ d.Overwritten
      (trace ++ [(i, Exchange.load (d.replay members record order))]) k :=
    fun k hk => (h.missing k hk).imp_right (Overwritten.append · _)
  refine h.next h.nodup hsettled hc' id (fun _ => h.needed i (.inl hi)) ?_
    (fun hg => absurd (hi.symm.trans hg) (by simp)) (fun hset => by cases hset)
    fun k hk => hmissing k (hold hk)
  rintro _ ⟨⟩
  refine ⟨id, order, h.nodup, hsettled, rfl, List.mem_append_right _ (.head _), fun k hk => ?_⟩
  exact (hmissing k (hold hk)).imp_right .inl

/-- An errand that has nothing to write takes its place at once. -/
theorem Inv.settlesSilently (hc' : c'.Reliable Holding members (d.replay members record order))
    (hi : g i ≠ .settled) (hx : (d.errand i).Settles x)
    (hsame : (d.errand i).apply members (d.replay members record order) =
      d.replay members record order) :
    d.Inv Holding members record c' (trace ++ [(i, x)]) (Function.update g i .settled)
      (order ++ [i]) := by
  have hreplay : d.replay members record (order ++ [i]) = d.replay members record order :=
    (replay_append order i).trans hsame
  have hkept : d.replay members record order ≠ none →
      d.replay members record (order ++ [i]) ≠ none := by
    rw [hreplay]
    exact id
  refine h.next (nodup_append h.nodup h.settled hi) (settled_append h.settled) (hreplay ▸ hc') hkept
    (by simp) (fun read hr => by cases hr) (fun _ => rfl) (fun _ _ => hx) fun k hk => ?_
  by_cases hki : k = i
  · exact .inl (List.mem_append_right _ (List.mem_singleton.2 hki))
  · rw [Function.update_of_ne hki] at hk
    exact (h.missing k hk).imp (List.mem_append_left _) (Overwritten.append · _)

/-- An errand that writes undoes what it has not taken notice of. -/
theorem Inv.writes {read : Option HostRecord} {y : HostRecord}
    (hc' : c'.Reliable Holding members (some y)) (hi : g i = .loaded read)
    (hy : (d.errand i).written? read = some y) (hx : (d.errand i).Settles x) (hw : x.IsWrite) :
    ∃ order', d.Inv Holding members record c' (trace ++ [(i, x)]) (Function.update g i .settled)
      order' := by
  obtain ⟨noticed, hnoticed⟩ := h.knows i read hi
  have hneeded := h.needed i (.inr ⟨read, hi⟩)
  have hreplay : d.replay members record (noticed ++ [i]) = some y := by
    rw [replay_append, ← hnoticed.read_eq]
    exact Errand.apply_of_written hneeded hy
  have hthere : d.replay members record (noticed ++ [i]) ≠ none := by
    rw [hreplay]
    exact Option.some_ne_none y
  have hnodup : (noticed ++ [i]).Nodup := nodup_append hnoticed.nodup hnoticed.settled (by simp [hi])
  refine ⟨noticed ++ [i], h.next hnodup (settled_append hnoticed.settled) (hreplay ▸ hc')
    (fun _ => hthere) (by simp) (fun read hr => by cases hr) (fun _ => rfl) (fun _ _ => hx)
    fun k hk => ?_⟩
  by_cases hki : k = i
  · exact .inl (List.mem_append_right _ (List.mem_singleton.2 hki))
  · rw [Function.update_of_ne hki] at hk
    rcases hnoticed.others k hk with hk | hk | ⟨x', hx', hsub⟩
    · exact .inl (List.mem_append_left _ hk)
    · exact .inr (hk.append _)
    · -- It was settled after the reading, and this is the writing.
      refine .inr ⟨i, Ne.symm hki, read, x', x, ?_, hx', hw⟩
      exact hsub.append (List.Sublist.refl [(i, x)])

theorem Inv.exchange {s : Stand} {record' : Option HostRecord}
    (hc' : c'.Reliable Holding members record')
    (hout : Stand.Outcome (d.errand i) members (d.replay members record order) (g i) x s record') :
    ∃ order', d.Inv Holding members record c' (trace ++ [(i, x)]) (Function.update g i s) order' := by
  generalize hg : g i = s₀ at hout
  cases hout with
  | beside =>
    rw [← hg]
    exact ⟨order, h.idles hc'⟩
  | need hneed => exact ⟨order, h.learns hc' (by simp [hg]) hneed⟩
  | load hy => exact ⟨order, h.loads hc' hg⟩
  | spare hspares hx =>
    exact ⟨_, h.settlesSilently hc' (by simp [hg]) hx (Errand.apply_of_spares hspares)⟩
  | pass hy hx =>
    have hneeded := h.needed i (.inl hg)
    exact ⟨_, h.settlesSilently hc' (by simp [hg]) hx (Errand.apply_of_silent hneeded hy)⟩
  | write hy hx hw => exact h.writes hc' hg hy hx hw

end

/-! ## 6. Wherever the errands get -/

abbrev Handlings (n : Nat) : Type := Team (Fin n) (Except HandlerError (List ClusterEvent))

variable {t t' : Handlings n} {g' : Fin n → Stand}

variable (d) in
def conduct (i : Fin n) : Rule Request.Reply Stand := Stand.Conduct (d.errand i)

theorem Inv.start (hc : c.Reliable Holding members record) :
    d.Inv Holding members record c [] (fun i => (d.errand i).first) [] := by
  have hfirst : ∀ i, (d.errand i).first = .needed ∨ (d.errand i).first = .waiting := by
    intro i
    cases d.errand i with
    | arrival => exact .inl rfl
    | departure => exact .inr rfl
  constructor
  case nodup => exact List.nodup_nil
  case settled => exact fun j hj => absurd hj List.not_mem_nil
  case reliable => exact hc
  case needed =>
    intro i hi
    cases he : d.errand i with
    | arrival => rfl
    | departure =>
      rw [he] at hi
      rcases hi with hi | ⟨read, hi⟩ <;> cases hi
  all_goals
    intro i
    intros
    rcases hfirst i with h | h <;> simp_all

theorem Inv.move (hreg : RecordStore.IsRegister Holding)
    (h : d.Inv Holding members record t.cluster t.trace g order)
    (hm : Team.Move d.actor (Undisturbed Holding members) d.conduct t g t' g') :
    ∃ order', d.Inv Holding members record t'.cluster t'.trace g' order' := by
  cases hm with
  | @exchange i r next c' reply s turn answered admitted follows =>
    have hthere : ∀ read, g i = .loaded (some read) → d.replay members record order ≠ none :=
      fun read => h.there i read
    obtain ⟨record', hc', hout⟩ := h.reliable.exchange hreg follows hthere answered
    exact h.exchange hc' hout
  | @wait i r next c' reply s turn answered refused follows =>
    obtain ⟨name, rfl, rfl⟩ := Cluster.of_refused answered refused
    have hc' := h.reliable.answer (a := d.actor i) (r := .acquire name) (by simp [Request.parts])
    exact ⟨order, { h with reliable := hc' }⟩
  | stop turn answered follows =>
    exact absurd answered (Team.not_stopped follows Stand.Conduct.timeless)
  | elsewhere happened => exact ⟨order, { h with reliable := happened _ h.reliable }⟩

/-- Errands side by side leave behind what some of them leave behind one after another, and those
others that are over were overwritten. -/
theorem serialized_unless_overwritten (hreg : RecordStore.IsRegister Holding) (d : Errands n)
    (hc : c.Reliable Holding members record)
    (h : Team.Reaches d.actor (Undisturbed Holding members) (.start c d.handling) t)
    (hover : t.Finished) :
    ∃ order : List (Fin n), order.Nodup ∧
      t.cluster.store.get.2 = (d.oneByOne order c).store.get.2 ∧
      ∀ k, k ∉ order → d.Overwritten t.trace k := by
  have hfollowing : Team.Following d.conduct (fun _ => Stand.Ending) (.start c d.handling)
      fun i => (d.errand i).first := by
    rintro i p hp
    cases hp
    exact Handler.errand_follows _ _
  obtain ⟨g, ⟨⟨order, hinv⟩, hgoing⟩, hf⟩ := h.keeps_following
    (P := fun t g => (∃ order, d.Inv Holding members record t.cluster t.trace g order) ∧
      ∀ i, t.stage i ≠ .stopped)
    ⟨⟨[], .start hc⟩, fun i hi => by cases hi⟩ hfollowing
    fun hp _ hm => ⟨hp.1.elim fun order hp => hp.move hreg hm, hm.going Stand.Conduct.timeless hp.2⟩
  have hsettled : ∀ k, g k = .settled := by
    intro k
    obtain ⟨result, hk⟩ := hover k
    cases result with
    | none => exact absurd hk (hgoing k)
    | some result => exact hf k _ hk
  refine ⟨order, hinv.nodup, ?_, fun k hk => (hinv.missing k (hsettled k)).resolve_left hk⟩
  obtain ⟨s, hs, -⟩ := hreg.get hinv.reliable.holds
  obtain ⟨s', hs', -⟩ := hreg.get (oneByOne_reliable hreg hc order).holds
  rw [hs, hs']

/-- Two hosts arrive, each told to a node of its own. -/
def twoArrivals : Errands 2 where
  node i := ⟨if i.val = 0 then "a" else "b"⟩
  errand i :=
    if i.val = 0 then .arrival ⟨⟨"a"⟩, ⟨"h-1"⟩⟩ [⟨⟨"a"⟩, ⟨"h-1"⟩⟩]
    else .arrival ⟨⟨"b"⟩, ⟨"h-2"⟩⟩ [⟨⟨"b"⟩, ⟨"h-2"⟩⟩]

def noHosts : Cluster := .empty default "node-tasks" (.memory (.holding none))

theorem noHosts_reliable : noHosts.Reliable RecordStore.InMemory [] none :=
  ⟨⟨_, rfl, rfl, rfl⟩, rfl, rfl, rfl, rfl, rfl, rfl⟩

/-- Both read the record before either of them writes it. -/
theorem twoArrivals_overlap : ∃ t : Handlings 2,
    Team.Reaches twoArrivals.actor Team.nothing (.start noHosts twoArrivals.handling) t ∧
    t.Finished ∧ t.cluster.store.get.2 = .ok (some (.ofHosts [⟨"h-1"⟩])) := by
  have hstart : Team.Reaches twoArrivals.actor Team.nothing (.start noHosts twoArrivals.handling)
      (.start noHosts twoArrivals.handling) := .refl
  have hread := ((((hstart.tail
    (.exchange (i := 0) rfl rfl trivial)).tail
    (.exchange (i := 0) rfl rfl trivial)).tail
    (.exchange (i := 1) rfl rfl trivial)).tail
    (.exchange (i := 1) rfl rfl trivial))
  have hreach := (((hread.tail
    (.exchange (i := 1) rfl rfl trivial)).tail
    (.exchange (i := 1) rfl rfl trivial)).tail
    (.exchange (i := 0) rfl rfl trivial)).tail
    (.exchange (i := 0) rfl rfl trivial)
  exact ⟨_, hreach, Fin.forall_fin_two.2 ⟨⟨some _, rfl⟩, ⟨some _, rfl⟩⟩, rfl⟩

theorem twoArrivals_oneByOne : ∀ x y : Fin 2, x ≠ y →
    (twoArrivals.oneByOne [x, y] noHosts).store.get.2 = .ok (some (.ofHosts [⟨"h-1"⟩, ⟨"h-2"⟩])) := by
  decide

/-- One host is lost: in whatever order the two are handled one after another, both are kept. -/
theorem twoArrivals_not_serialized :
    ¬ ∀ t : Handlings 2, Team.Reaches twoArrivals.actor (Undisturbed RecordStore.InMemory [])
        (.start noHosts twoArrivals.handling) t → t.Finished →
      ∃ order : List (Fin 2), order.Perm [0, 1] ∧
        t.cluster.store.get.2 = (twoArrivals.oneByOne order noHosts).store.get.2 := by
  intro h
  obtain ⟨t, hreach, hover, hstored⟩ := twoArrivals_overlap
  obtain ⟨order, horder, hsame⟩ := h t (hreach.mono fun _ _ => False.elim) hover
  match order, horder.length_eq with
  | [x, y], _ =>
    have hne : x ≠ y := by
      have hnodup : [x, y].Nodup := horder.nodup_iff.2 (by decide)
      simpa using hnodup
    rw [hstored, twoArrivals_oneByOne x y hne] at hsame
    exact absurd hsame (by decide)

/-- The host that is lost was overwritten by the other. -/
theorem twoArrivals_overwritten : ∃ t : Handlings 2,
    Team.Reaches twoArrivals.actor (Undisturbed RecordStore.InMemory [])
      (.start noHosts twoArrivals.handling) t ∧ t.Finished ∧
    ∃ order : List (Fin 2), order.Nodup ∧
      t.cluster.store.get.2 = (twoArrivals.oneByOne order noHosts).store.get.2 ∧
      ∀ k, k ∉ order → twoArrivals.Overwritten t.trace k := by
  obtain ⟨t, hreach, hover, -⟩ := twoArrivals_overlap
  have hreach : Team.Reaches _ (Undisturbed RecordStore.InMemory []) _ t :=
    hreach.mono fun _ _ => False.elim
  exact ⟨t, hreach, hover, serialized_unless_overwritten RecordStore.inMemory_isRegister twoArrivals
    noHosts_reliable hreach hover⟩

end Errands

end ClusterKeeper
