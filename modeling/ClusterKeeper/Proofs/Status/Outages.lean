import ClusterKeeper.Proofs.Status.Handling

/-!
# `Proofs/Status/Outages.lean` — statuses through outages of the substrate

One status machine is given any values of the status attribute, one after another, while the
substrate comes and goes. What it writes and what it publishes go apart when the substrate is down,
and come together again with the next status that it can publish. The law of such a course says
both by the values alone, the one by the last that was a status, the other by the last of them that
found the substrate up (`StatusLaw`).

A call drains if it is told of maintenance and has not got there. A call that could not publish
has got there all the same, so telling it once more publishes without a second drain.

That calls come to their end is a matter of the clock: it has to have room for all the looks of a
drain and the sleeps between them (`HasRoom`).
-/

set_option autoImplicit false

namespace ClusterKeeper

open ClusterEvent (changes)

namespace Cluster

/-! ## 1. Room on the clock -/

/-- The clock of a node can move through so many sleeps, with a look before each and after all. -/
def HasRoom (c : Cluster) (id : NodeId) (interval : Duration) (sleeps : Nat) : Prop :=
  (c.node id).clock.now.nanos + sleeps * interval.nanos +
    (sleeps + 1) * (c.node id).countDelay.nanos < signedLimit * nanosPerSecond

instance (c : Cluster) (id : NodeId) (interval : Duration) (sleeps : Nat) :
    Decidable (c.HasRoom id interval sleeps) := inferInstanceAs (Decidable (_ < _))

variable {a : Actor} {c c' : Cluster}

theorem Kept.hasRoom {parts : List Part} (h : Kept a parts c c') (hp : .clock ∉ parts)
    {interval : Duration} {sleeps : Nat} (hroom : c.HasRoom a.node interval sleeps) :
    c'.HasRoom a.node interval sleeps := by
  rw [HasRoom, h.node.clock hp, h.node.countDelay]
  exact hroom

/-- A clock that has room for a look moves by its delay, and the runner is asked. -/
theorem answer_look (h : (c.node a.node).clock.now.nanos + (c.node a.node).countDelay.nanos <
      signedLimit * nanosPerSecond) :
    c.answer a .runningCount =
      (c.setNode a.node { c.node a.node with
          clock := { (c.node a.node).clock with now := ⟨_, h⟩ },
          runner := (c.node a.node).runner.count.1 },
        some (c.node a.node).runner.count.2) := by
  have hmove : (c.node a.node).clock.now.after? (c.node a.node).countDelay = some ⟨_, h⟩ :=
    Instant.after?_eq_some_iff.2 rfl
  have hadvance : (c.node a.node).clock.advance? (c.node a.node).countDelay =
      some { (c.node a.node).clock with now := ⟨_, h⟩ } := by
    rw [Clock.advance?, hmove]
    rfl
  rw [answer, askCount]
  simp only [hadvance]

theorem answer_sleep {d : Duration}
    (h : (c.node a.node).clock.now.nanos + d.nanos < signedLimit * nanosPerSecond) :
    c.answer a (.sleep d) =
      (c.setNode a.node { c.node a.node with
          clock := ⟨⟨_, h⟩, (c.node a.node).clock.sleeps.add d⟩ }, some ()) := by
  have hmove : (c.node a.node).clock.now.after? d = some ⟨_, h⟩ :=
    Instant.after?_eq_some_iff.2 rfl
  have hsleep : (c.node a.node).clock.sleep d =
      (⟨⟨_, h⟩, (c.node a.node).clock.sleeps.add d⟩, true) := by
    rw [Clock.sleep, Clock.advance?, hmove]
    rfl
  rw [answer, Cluster.sleep, hsleep]
  rfl

theorem look_of_room (h : (c.node a.node).clock.now.nanos + (c.node a.node).countDelay.nanos <
      signedLimit * nanosPerSecond) :
    ∃ c' count, c.answer a .runningCount = (c', some count) ∧
      (c'.node a.node).clock.now.nanos =
        (c.node a.node).clock.now.nanos + (c.node a.node).countDelay.nanos ∧
      (c'.node a.node).countDelay = (c.node a.node).countDelay := by
  refine ⟨_, _, answer_look h, ?_, ?_⟩
  · rw [node_setNode, if_pos rfl]
  · rw [node_setNode, if_pos rfl]

theorem sleep_of_room {d : Duration}
    (h : (c.node a.node).clock.now.nanos + d.nanos < signedLimit * nanosPerSecond) :
    ∃ c', c.answer a (.sleep d) = (c', some ()) ∧
      (c'.node a.node).clock.now.nanos = (c.node a.node).clock.now.nanos + d.nanos ∧
      (c'.node a.node).countDelay = (c.node a.node).countDelay := by
  refine ⟨_, answer_sleep h, ?_, ?_⟩
  · rw [node_setNode, if_pos rfl]
  · rw [node_setNode, if_pos rfl]

end Cluster

namespace Handler

open Cluster

variable {a : Actor} {c : Cluster}

/-- A wait with room comes to its end. -/
theorem poll_comes_to_end (wait : BoundedWait) (satisfies : Nat → Bool) (deadline : Option Instant)
    {remaining : Nat} (polls : Nat) (h : c.HasRoom a.node wait.interval remaining) :
    Ends a (wait.poll drainSurroundings satisfies deadline remaining polls) c
      fun _ r => r ≠ none := by
  induction remaining generalizing c polls with
  | zero =>
    rw [HasRoom] at h
    obtain ⟨c₁, count, ha, -, -⟩ := look_of_room (a := a) (c := c) (by omega)
    refine ends_of_answered ha ?_
    split
    · exact ends_done (Option.some_ne_none _)
    · exact ends_request (by simp [Request.parts]) fun _ _ _ => ends_done (Option.some_ne_none _)
  | succ remaining ih =>
    rw [HasRoom, Nat.succ_mul, Nat.succ_mul (remaining + 1)] at h
    obtain ⟨c₁, count, ha, hnow, hdelay⟩ := look_of_room (a := a) (c := c) (by omega)
    refine ends_of_answered ha ?_
    split
    · exact ends_done (Option.some_ne_none _)
    · refine ends_request (by simp [Request.parts]) fun c₂ now h₂ => ?_
      cases h₂
      split
      · exact ends_done (Option.some_ne_none _)
      · obtain ⟨c₃, h₃, hnow₃, hdelay₃⟩ := sleep_of_room (a := a) (c := c₁) (d := wait.interval)
          (by rw [hnow]; omega)
        refine ends_of_answered h₃ (ih (polls + 1) ?_)
        rw [HasRoom, hnow₃, hnow, hdelay₃, hdelay]
        omega

theorem ends_answered {α : Type} {p : Handler α} (hp : p.Asks fun r => .clock ∉ r.parts) :
    Ends a p c fun _ r => r ≠ none := by
  obtain ⟨x, hx⟩ := run_result (a := a) hp c
  rw [Ends, hx]
  exact Option.some_ne_none _

theorem drain_comes_to_end (settings : Settings)
    (h : c.HasRoom a.node settings.pollInterval settings.maxPolls) :
    Ends a (drain settings) c fun _ r => r ≠ none := by
  refine ends_request (by simp [Request.parts]) fun c₁ _ h₁ => ?_
  refine ends_request (by simp [Request.parts]) fun c₂ start h₂ => ?_
  have h := (kept_of_answered h₁).hasRoom (by simp [Request.parts]) h
  have h := (kept_of_answered h₂).hasRoom (by simp [Request.parts]) h
  have hawait : Ends a ((drainWait settings).await drainSurroundings
      fun count => decide (count ≤ settings.drainThreshold)) c₂ fun _ r => r ≠ none := by
    refine ends_request (by simp [Request.parts]) fun c₃ now h₃ => ?_
    exact poll_comes_to_end _ _ _ _ ((kept_of_answered h₃).hasRoom (by simp [Request.parts]) h)
  refine hawait.bind (fun c₃ seen _ => ?_) fun _ hr => absurd rfl hr
  refine ends_answered (.request (by simp [Request.parts]) fun finish => ?_)
  split
  · exact .request (by simp [Request.parts]) fun _ => trivial
  · exact .request (by simp [Request.parts]) fun _ => trivial

theorem setLocal_asks (s : Status) : (setLocal s).Asks fun r => .clock ∉ r.parts := by
  refine .request (by simp [Request.parts]) fun previous => ?_
  split
  · trivial
  · exact .request (by simp [Request.parts]) fun _ => trivial

theorem publish_asks {α : Type} (settings : Settings) (s : Status) (x : α) :
    (publish settings s >>= fun _ => (pure x : Attempt α)).run.Asks fun r => .clock ∉ r.parts := by
  rw [publish, run_orFail_bind]
  refine .request (by simp [Request.parts]) fun result => ?_
  cases result <;> trivial

theorem enterMaintenance_comes_to_end (settings : Settings)
    (h : c.HasRoom a.node settings.pollInterval settings.maxPolls) :
    Ends a (enterMaintenance settings).run c fun _ r => r ≠ none := by
  rw [enterMaintenance, run_lift_bind]
  refine (setLocal_yields .pause).bind_ends fun c₁ paused h₁ => ?_
  rw [run_lift_bind]
  refine (drain_comes_to_end settings (h₁.1.hasRoom (by simp) h)).bind (fun c₂ drained _ => ?_)
    fun _ hr => absurd rfl hr
  rw [run_lift_bind]
  exact ends_answered ((setLocal_asks .maintenance).bind fun entered => publish_asks _ _ _)

/-- A call whose clock has room has a result. -/
theorem statusPublished_comes_to_end (settings : Settings) (value : String)
    (h : c.HasRoom a.node settings.pollInterval settings.maxPolls) :
    Ends a (statusPublished settings value).run c fun _ r => r ≠ none := by
  rw [run_statusPublished]
  split
  · exact ends_done (Option.some_ne_none _)
  · next target _ =>
    refine ends_request (by simp [Request.parts]) fun c₁ _ h₁ => ?_
    have h := (kept_of_answered h₁).hasRoom (by simp [Request.parts]) h
    have htake : Ends a (takeOn settings target).run c₁ fun _ r => r ≠ none := by
      rw [takeOn, run_lift_bind]
      refine ends_request (by simp [Request.parts]) fun c₂ current h₂ => ?_
      have h := (kept_of_answered h₂).hasRoom (by simp [Request.parts]) h
      split
      · exact enterMaintenance_comes_to_end settings h
      · rw [run_lift_bind]
        exact ends_answered ((setLocal_asks target).bind fun events => publish_asks _ _ _)
    refine htake.bind (fun c₂ x _ => ?_) fun _ hr => absurd rfl hr
    exact ends_request (by simp [Request.parts]) fun _ _ _ => ends_done (Option.some_ne_none _)

end Handler

/-! ## 2. Values one after another -/

/-- One call of a status machine: the value that it was given, and what came of it. -/
abbrev StatusCall : Type := Cluster.Occasion String (Except HandlerError (List ClusterEvent))

namespace StatusCall

/-- What was published, if the call came to that. -/
def published? (o : StatusCall) : Option String :=
  if (Status.ofText? o.about).isSome ∧ o.before.canPublish o.about = true then some o.about else none

/-- The substrate was in the way of the call. -/
def Failed (o : StatusCall) : Prop := ∃ e, o.result = some (.error (.substrate e))

/-- The call was told of maintenance, and found that it was not there. -/
def Drains (o : StatusCall) (id : NodeId) : Prop :=
  o.about = Status.maintenance.text ∧ o.before.statusOf id ≠ .maintenance

end StatusCall

/-- The status that comes of values that are handled one after another. -/
def lastStatus (s : Status) (values : List String) : Status :=
  ((values.filterMap Status.ofText?).getLast?).getD s

/-- The value that comes to be published by the calls: that of the last one that could publish. -/
def lastPublished (first : Option String) (os : List StatusCall) : Option String :=
  ((os.filterMap StatusCall.published?).getLast?).or first

theorem lastStatus_append (s : Status) (values : List String) (value : String) :
    lastStatus s (values ++ [value]) = (Status.ofText? value).getD (lastStatus s values) := by
  rw [lastStatus, List.filterMap_append, lastStatus]
  cases h : Status.ofText? value <;> simp [h]

/-- Values that are no statuses make no difference. -/
theorem lastStatus_append_of_none (s : Status) (values : List String) {more : List String}
    (h : ∀ v ∈ more, Status.ofText? v = none) : lastStatus s (values ++ more) = lastStatus s values := by
  rw [lastStatus, List.filterMap_append, List.filterMap_eq_nil_iff.2 h, List.append_nil, lastStatus]

theorem lastPublished_append (first : Option String) (os : List StatusCall) (o : StatusCall) :
    lastPublished first (os ++ [o]) = o.published?.or (lastPublished first os) := by
  rw [lastPublished, List.filterMap_append, lastPublished]
  cases h : o.published? <;> simp [h]

namespace Cluster

/-- What may happen between the calls of a status machine: anything, as long as nobody else writes
the status of its node or publishes one for it. -/
structure Unsteered (a : Actor) (key : String) (c c' : Cluster) : Prop where
  status : c'.statusOf a.node = c.statusOf a.node
  published : c'.substrate.attribute? a.node key = c.substrate.attribute? a.node key

/-- Values given to the status machine of a node one after another. -/
abbrev StatusCourse (a : Actor) (settings : Settings) : Cluster → List StatusCall → Cluster → Prop :=
  Course a (fun value => (Handler.statusPublished settings value).run)
    (Unsteered a settings.statusAttribute)

/-- What is to be seen of calls that all had results, and of the node before and after them. -/
structure StatusLaw (a : Actor) (settings : Settings) (c : Cluster) (os : List StatusCall)
    (c' : Cluster) : Prop where
  status : c'.statusOf a.node = lastStatus (c.statusOf a.node) (os.map (·.about))
  published : c'.substrate.attribute? a.node settings.statusAttribute =
    lastPublished (c.substrate.attribute? a.node settings.statusAttribute) os
  /-- Every call finds the status that the values before it have left. -/
  found : ∀ first o rest, os = first ++ o :: rest →
    o.before.statusOf a.node = lastStatus (c.statusOf a.node) (first.map (·.about))
  failed : ∀ o ∈ os, o.Failed ↔
    (Status.ofText? o.about).isSome ∧ o.before.canPublish o.about = false
  drained : ∀ o ∈ os, o.before.countQueries a.node < o.after.countQueries a.node ↔ o.Drains a.node
  quiet : ∀ o ∈ os, ¬ o.Drains a.node →
    (o.after.node a.node).runner = (o.before.node a.node).runner ∧
    (o.after.node a.node).clock = (o.before.node a.node).clock
  /-- Maintenance told again, with no other status between, is published without a second drain. -/
  redelivered : ∀ first o between o' rest, os = first ++ o :: (between ++ o' :: rest) →
    o.about = Status.maintenance.text → (∀ x ∈ between, Status.ofText? x.about = none) →
    o'.about = Status.maintenance.text →
    (o'.after.node a.node).runner = (o'.before.node a.node).runner ∧
    (o'.before.canPublish o'.about = true →
      o'.after.substrate.attribute? a.node settings.statusAttribute = some o'.about)
  refused : ∀ o ∈ os, Status.ofText? o.about = none →
    o.result = some (.error (.unknownStatus o.about)) ∧ o.after = o.before
  /-- If nothing was in the way of publishing, the events tell every change, and no other. -/
  told : (∀ o ∈ os, ¬ o.Failed) →
    (c.statusOf a.node).Path (changes (os.flatMap Occasion.told)) (c'.statusOf a.node) ∧
    ∀ o ∈ os, (∃ x ∈ o.told, x.endsDrain = true) ↔ o.Drains a.node

variable {a : Actor} {settings : Settings} {c c' : Cluster} {os : List StatusCall}

/-! ### One call -/

/-- A call is about a status, or is refused without a trace. -/
def Answered (a : Actor) (settings : Settings) (value : String) (d d' : Cluster)
    (r : Option (Except HandlerError (List ClusterEvent))) : Prop :=
  match Status.ofText? value with
  | some target => Handled a settings.statusAttribute target d d' r
  | none => r = some (.error (.unknownStatus value)) ∧ d' = d

theorem statusPublished_answered (value : String) (d : Cluster) :
    Ends a (Handler.statusPublished settings value).run d (Answered a settings value d) := by
  cases hvalue : Status.ofText? value with
  | some target =>
    refine (statusPublished_handled settings hvalue).mono fun d' r h => ?_
    rw [Answered, hvalue]
    exact h
  | none =>
    rw [Handler.run_statusPublished, hvalue]
    refine ends_done ?_
    rw [Answered, hvalue]
    exact ⟨rfl, rfl⟩

section
variable {o : StatusCall}

theorem drains_iff {target : Status} (hvalue : Status.ofText? o.about = some target) :
    o.before.Drains a.node target ↔ o.Drains a.node := by
  rw [Drains, StatusCall.Drains, Status.ofText?_eq_some_iff.1 hvalue]
  refine and_congr_left fun _ => ⟨congrArg Status.text, Status.text_injective⟩

theorem not_drains (hvalue : Status.ofText? o.about = none) : ¬ o.Drains a.node := by
  rintro ⟨habout, -⟩
  rw [habout, Status.ofText?_text] at hvalue
  cases hvalue

theorem published?_of_some {target : Status} (hvalue : Status.ofText? o.about = some target) :
    o.published? = if o.before.canPublish target.text then some target.text else none := by
  rw [StatusCall.published?, hvalue, ← Status.ofText?_eq_some_iff.1 hvalue]
  simp

theorem published?_of_none (hvalue : Status.ofText? o.about = none) : o.published? = none := by
  rw [StatusCall.published?, hvalue]
  simp

variable (h : Answered a settings o.about o.before o.after o.result) (hr : o.result ≠ none)
include h

theorem answered_cases :
    (∃ target, Status.ofText? o.about = some target ∧
      Handled a settings.statusAttribute target o.before o.after o.result) ∨
    (Status.ofText? o.about = none ∧
      o.result = some (.error (.unknownStatus o.about)) ∧ o.after = o.before) := by
  unfold Answered at h
  split at h
  · next target hvalue => exact .inl ⟨target, hvalue, h⟩
  · next hvalue => exact .inr ⟨hvalue, h⟩

theorem quiet_of_answered (hd : ¬ o.Drains a.node) :
    (o.after.node a.node).runner = (o.before.node a.node).runner ∧
    (o.after.node a.node).clock = (o.before.node a.node).clock := by
  rcases answered_cases h with ⟨target, hvalue, hh⟩ | ⟨hvalue, -, hsame⟩
  · exact (hh.quiet (mt (drains_iff hvalue).1 hd)).2
  · rw [hsame]
    exact ⟨rfl, rfl⟩

include hr

theorem status_of_answered : o.after.statusOf a.node =
    (Status.ofText? o.about).getD (o.before.statusOf a.node) := by
  rcases answered_cases h with ⟨target, hvalue, hh⟩ | ⟨hvalue, -, hsame⟩
  · rw [hvalue, Option.getD_some]
    exact hh.status hr
  · rw [hvalue, hsame, Option.getD_none]

theorem published_of_answered : o.after.substrate.attribute? a.node settings.statusAttribute =
    o.published?.or (o.before.substrate.attribute? a.node settings.statusAttribute) := by
  rcases answered_cases h with ⟨target, hvalue, hh⟩ | ⟨hvalue, -, hsame⟩
  · rw [hh.published hr, published?_of_some hvalue]
    split <;> rfl
  · rw [published?_of_none hvalue, hsame, Option.none_or]

theorem failed_of_answered : o.Failed ↔
    (Status.ofText? o.about).isSome ∧ o.before.canPublish o.about = false := by
  rcases answered_cases h with ⟨target, hvalue, hh⟩ | ⟨hvalue, hres, -⟩
  · have hresult := hh.result hr
    rw [hvalue, Status.ofText?_eq_some_iff.1 hvalue, StatusCall.Failed]
    split at hresult
    · next hup =>
      obtain ⟨events, he⟩ := hresult
      simp [he, hup]
    · next hdown =>
      obtain ⟨e, he⟩ := hresult
      simp [he, hdown]
  · simp [StatusCall.Failed, hres, hvalue]

theorem drained_of_answered :
    o.before.countQueries a.node < o.after.countQueries a.node ↔ o.Drains a.node := by
  constructor
  · intro hlt
    refine Classical.byContradiction fun hd => ?_
    obtain ⟨hrunner, -⟩ := quiet_of_answered h hd
    rw [countQueries, countQueries, hrunner] at hlt
    exact lt_irrefl _ hlt
  · intro hd
    rcases answered_cases h with ⟨target, hvalue, hh⟩ | ⟨hvalue, -, -⟩
    · exact hh.drained ((drains_iff hvalue).2 hd) hr
    · exact absurd hd (not_drains hvalue)

/-- A call that nothing is in the way of tells how the status has changed. -/
theorem told_of_answered (hf : ¬ o.Failed) :
    (o.before.statusOf a.node).Path (changes o.told) (o.after.statusOf a.node) ∧
    ((∃ x ∈ o.told, x.endsDrain = true) ↔ o.Drains a.node) := by
  rcases answered_cases h with ⟨target, hvalue, hh⟩ | ⟨hvalue, hres, hsame⟩
  · obtain ⟨events, hpath, -, hends, htold⟩ := hh.told
    have hresult := hh.result hr
    split at hresult
    · obtain ⟨x, hx⟩ := hresult
      have hsaid : o.told = events := by
        rw [Occasion.told, hx]
        exact htold x hx
      rw [hsaid]
      exact ⟨hpath, (hends hr).trans (drains_iff hvalue)⟩
    · exact absurd hresult hf
  · have hsaid : o.told = [] := by rw [Occasion.told, hres]
    rw [hsaid, hsame]
    refine ⟨rfl, ⟨fun hx => ?_, fun hd => absurd hd (not_drains hvalue)⟩⟩
    obtain ⟨x, hx, -⟩ := hx
    exact absurd hx List.not_mem_nil

end

/-! ### All calls -/

theorem StatusCourse.answered (h : StatusCourse a settings c os c')
    (hr : ∀ o ∈ os, o.result ≠ none) :
    ∀ o ∈ os, Answered a settings o.about o.before o.after o.result ∧ o.result ≠ none :=
  fun o ho => ⟨h.each statusPublished_answered o ho, hr o ho⟩

/-- Every call has found the status left by the values before it, and the node has that of all. -/
def Heard (id : NodeId) (s : Status) (os : List StatusCall) (c' : Cluster) : Prop :=
  c'.statusOf id = lastStatus s (os.map (·.about)) ∧ ∀ first o rest, os = first ++ o :: rest →
    o.before.statusOf id = lastStatus s (first.map (·.about))

theorem StatusCourse.heard (h : StatusCourse a settings c os c')
    (hr : ∀ o ∈ os, o.result ≠ none) : Heard a.node (c.statusOf a.node) os c' := by
  refine h.keeps (P := Heard a.node (c.statusOf a.node)) (h.answered hr) ?_
    (fun {os o} ho hp => ?_) fun hs hp => ?_
  · exact ⟨rfl, fun first o rest h => absurd h (by simp)⟩
  · refine ⟨?_, fun first x rest hsplit => ?_⟩
    · rw [List.map_append, List.map_singleton, lastStatus_append, ← hp.1]
      exact status_of_answered ho.1 ho.2
    · rcases split_append hsplit with ⟨rfl, rfl, -⟩ | ⟨rest, -, hos⟩
      · exact hp.1
      · exact hp.2 first x rest hos
  · exact ⟨hs.status.trans hp.1, hp.2⟩

theorem StatusCourse.published_eq (h : StatusCourse a settings c os c')
    (hr : ∀ o ∈ os, o.result ≠ none) :
    c'.substrate.attribute? a.node settings.statusAttribute =
      lastPublished (c.substrate.attribute? a.node settings.statusAttribute) os := by
  refine h.keeps (P := fun os c' => c'.substrate.attribute? a.node settings.statusAttribute =
    lastPublished _ os) (h.answered hr) rfl (fun {os o} ho hp => ?_) fun hs hp => ?_
  · rw [lastPublished_append, ← hp]
    exact published_of_answered ho.1 ho.2
  · exact hs.published.trans hp

theorem StatusCourse.path (h : StatusCourse a settings c os c')
    (hr : ∀ o ∈ os, o.result ≠ none) (hf : ∀ o ∈ os, ¬ o.Failed) :
    (c.statusOf a.node).Path (changes (os.flatMap Occasion.told)) (c'.statusOf a.node) := by
  refine h.keeps
    (Q := fun o : StatusCall => (Answered a settings o.about o.before o.after o.result ∧ o.result ≠ none) ∧
      ¬ o.Failed)
    (P := fun os c' =>
      (c.statusOf a.node).Path (changes (os.flatMap Occasion.told)) (c'.statusOf a.node))
    (fun o ho => ⟨h.answered hr o ho, hf o ho⟩) rfl (fun {os o} ho hp => ?_) fun hs hp => ?_
  · rw [List.flatMap_append, ClusterEvent.changes_append, List.flatMap_singleton]
    exact hp.append (told_of_answered ho.1.1 ho.1.2 ho.2).1
  · rw [hs.status]
    exact hp

/-- Maintenance told again finds the node there. -/
theorem StatusCourse.redelivered (h : StatusCourse a settings c os c')
    (hr : ∀ o ∈ os, o.result ≠ none) {first between rest : List StatusCall} {o o' : StatusCall}
    (hos : os = first ++ o :: (between ++ o' :: rest)) (ho : o.about = Status.maintenance.text)
    (hbetween : ∀ x ∈ between, Status.ofText? x.about = none) : ¬ o'.Drains a.node := by
  rintro ⟨-, hne⟩
  refine hne (((h.heard hr).2 (first ++ o :: between) o' rest ?_).trans ?_)
  · rw [hos, List.append_assoc, List.cons_append]
  · have hvalues : (first ++ o :: between).map (·.about) =
        (first.map (·.about) ++ [Status.maintenance.text]) ++ between.map (·.about) := by
      simp [ho]
    rw [hvalues, lastStatus_append_of_none, lastStatus_append, Status.ofText?_text,
      Option.getD_some]
    intro v hv
    obtain ⟨x, hx, rfl⟩ := List.mem_map.1 hv
    exact hbetween x hx

theorem StatusCourse.law (h : StatusCourse a settings c os c') (hr : ∀ o ∈ os, o.result ≠ none) :
    StatusLaw a settings c os c' := by
  have hanswered := h.answered hr
  constructor
  case status => exact (h.heard hr).1
  case published => exact h.published_eq hr
  case found => exact (h.heard hr).2
  case failed =>
    intro o ho
    exact failed_of_answered (hanswered o ho).1 (hr o ho)
  case drained =>
    intro o ho
    exact drained_of_answered (hanswered o ho).1 (hr o ho)
  case quiet =>
    intro o ho
    exact quiet_of_answered (hanswered o ho).1
  case redelivered =>
    intro first o between o' rest hos ho hbetween ho'
    have hmem : o' ∈ os := by
      rw [hos]
      simp
    have hagain := (hanswered o' hmem).1
    refine ⟨(quiet_of_answered hagain (h.redelivered hr hos ho hbetween)).1, fun hup => ?_⟩
    have hvalue : (Status.ofText? o'.about).isSome = true := by
      rw [ho', Status.ofText?_text]
      rfl
    rw [published_of_answered hagain (hr o' hmem), StatusCall.published?, if_pos ⟨hvalue, hup⟩]
    rfl
  case refused =>
    intro o ho hvalue
    rcases answered_cases (hanswered o ho).1 with ⟨target, hsome, -⟩ | ⟨-, hrefused⟩
    · rw [hvalue] at hsome
      cases hsome
    · exact hrefused
  case told =>
    intro hf
    refine ⟨h.path hr hf, fun o ho => ?_⟩
    exact (told_of_answered (hanswered o ho).1 (hr o ho) (hf o ho)).2

/-- However the substrate comes and goes between the calls, a call whose clock has room has a
result, and calls that have results keep to the law. -/
theorem statuses_through_outages (h : StatusCourse a settings c os c') :
    (∀ o ∈ os, o.before.HasRoom a.node settings.pollInterval settings.maxPolls → o.result ≠ none) ∧
    ((∀ o ∈ os, o.result ≠ none) → StatusLaw a settings c os c') := by
  refine ⟨?_, h.law⟩
  exact h.each (Q := fun _ d _ r => d.HasRoom a.node settings.pollInterval settings.maxPolls → r ≠ none)
    fun value d hroom => Handler.statusPublished_comes_to_end settings value hroom

theorem unsteered_setOffline {key : String} (offline : Bool) (c : Cluster) :
    Unsteered a key c (c.setOffline offline) := ⟨rfl, rfl⟩

/-- A node is told of maintenance during an outage, and once more after it. -/
theorem maintenance_through_outage : ∃ (os : List StatusCall) (c' : Cluster),
    StatusCourse ⟨⟨"a"⟩, 0, 0⟩ default (.empty default "node-tasks" default) os c' ∧
    os.map (·.about) = ["PAUSE", "MAINTENANCE_MODE", "MAINTENANCE_MODE"] ∧
    (∀ o ∈ os, o.result ≠ none) ∧
    StatusLaw ⟨⟨"a"⟩, 0, 0⟩ default (.empty default "node-tasks" default) os c' := by
  have hup : StatusCourse ⟨⟨"a"⟩, 0, 0⟩ default (.empty default "node-tasks" default) _ _ :=
    .call "PAUSE" .nil
  have hdown : StatusCourse ⟨⟨"a"⟩, 0, 0⟩ default (.empty default "node-tasks" default) _ _ :=
    .call "MAINTENANCE_MODE" (hup.elsewhere (unsteered_setOffline true _))
  have hagain : StatusCourse ⟨⟨"a"⟩, 0, 0⟩ default (.empty default "node-tasks" default) _ _ :=
    .call "MAINTENANCE_MODE" (hdown.elsewhere (unsteered_setOffline false _))
  obtain ⟨hroom, hlaw⟩ := statuses_through_outages hagain
  refine ⟨_, _, hagain, rfl, ?_⟩
  have hr := fun o ho => hroom o ho ?_
  · exact ⟨hr, hlaw hr⟩
  · simp only [List.nil_append, List.cons_append, List.mem_cons, List.not_mem_nil, or_false] at ho
    rcases ho with rfl | rfl | rfl <;> decide

end Cluster

end ClusterKeeper
