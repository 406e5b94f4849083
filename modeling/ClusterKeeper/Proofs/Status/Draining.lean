import ClusterKeeper.Proofs.Settings.Budget
import ClusterKeeper.Proofs.Status.Outages
import ClusterKeeper.Proofs.Waiting

/-!
# `Proofs/Status/Draining.lean` — into maintenance by way of a drain

The settings say how long a drain may take and how often it looks; what the wait is given is a number
of polls, the greatest that fits (`Settings.isGreatest_maxPolls`). So the time of a drain can be used up only
together with its polls, and a drain ends at the first look that sees few enough tasks or, if none
does, at the last one that it has (`Settings.lastLook`). Which look that is can be read off the
counts that the runner tells, as long as the clock is moved by the drain alone.

The runner is asked by nothing else on the way into maintenance, and whenever it is, the node is
paused: that is a matter of the rule that the handler follows, not of how long it waits.
-/

set_option autoImplicit false

namespace ClusterKeeper

/-! ## 1. The last look of a drain -/

namespace Settings

variable (s : Settings)

theorem mul_le_of_le_maxPolls {n : Nat} (hn : n ≤ s.maxPolls) :
    n * s.pollInterval.nanos ≤ s.maxDrainWait.nanos :=
  (Nat.mul_le_mul_right _ hn).trans s.maxPolls_mul_le

/-- The time of a drain is used up when its polls are, and not before. -/
theorem due_iff {n : Nat} :
    s.maxPolls * s.pollInterval.nanos ≤ n * s.pollInterval.nanos ↔ s.maxPolls ≤ n := by
  refine ⟨fun h => ?_, fun h => Nat.mul_le_mul_right _ h⟩
  rcases Nat.eq_zero_or_pos s.pollInterval.nanos with hzero | hpos
  · have hnone : s.maxPolls = 0 := by rw [maxPolls, if_pos (by simp [Duration.isZero, hzero])]
    rw [hnone]
    exact Nat.zero_le n
  · exact Nat.le_of_mul_le_mul_right h hpos

/-- The look with which a drain ends that sees these counts. -/
def lastLook (counts : Nat → Nat) : Nat :=
  ((List.range (s.maxPolls + 1)).find? fun n => counts n ≤ s.drainThreshold).getD s.maxPolls

theorem isLeast_lastLook (counts : Nat → Nat) :
    IsLeast {n | counts n ≤ s.drainThreshold ∨ s.maxPolls ≤ n} (s.lastLook counts) := by
  rw [lastLook]
  cases h : (List.range (s.maxPolls + 1)).find? fun n => counts n ≤ s.drainThreshold with
  | some k =>
    obtain ⟨hfew, hmem, hbefore⟩ := List.find?_range_eq_some.1 h
    have hk : k ≤ s.maxPolls := Nat.le_of_lt_succ (List.mem_range.1 hmem)
    refine ⟨.inl (of_decide_eq_true hfew), fun n hn => ?_⟩
    rcases hn with hn | hn
    · by_contra hlt
      simpa [hn] using hbefore n (Nat.lt_of_not_le hlt)
    · exact hk.trans hn
  | none =>
    have hmany := List.find?_range_eq_none.1 h
    refine ⟨.inr le_rfl, fun n hn => ?_⟩
    rcases hn with hn | hn
    · by_contra hlt
      simpa [hn] using hmany n (Nat.lt_succ_of_lt (Nat.lt_of_not_le hlt))
    · exact hn

theorem lastLook_le (counts : Nat → Nat) : s.lastLook counts ≤ s.maxPolls :=
  (s.isLeast_lastLook counts).2 (.inr le_rfl)

end Settings

namespace Handler

theorem drainWait_due? (settings : Settings) {start : Nat}
    (h : start + settings.maxDrainWait.nanos < signedLimit * nanosPerSecond) :
    (drainWait settings).due? start =
      some (start + settings.maxPolls * settings.pollInterval.nanos) := by
  have hle := settings.maxPolls_mul_le
  rw [BoundedWait.due?, ← BoundedWait.budget_nanos, settings.drainWait_budget_nanos]
  exact if_pos (by omega)

/-- What a drain comes upon that has the clock to itself. -/
def drainOutlook (settings : Settings) (counts : Nat → Nat) (start : Nat) : Outlook Nat where
  seen := counts
  cancelled _ := false
  now n := start + n * settings.pollInterval.nanos

theorem drain_endsAt (settings : Settings) (counts : Nat → Nat) {start : Nat}
    (h : start + settings.maxDrainWait.nanos < signedLimit * nanosPerSecond) :
    (drainOutlook settings counts start).EndsAt (fun count => count ≤ settings.drainThreshold)
      settings.maxPolls ((drainWait settings).due? start) (settings.lastLook counts) := by
  have hstops : ∀ n, (drainOutlook settings counts start).Stops
      (fun count => count ≤ settings.drainThreshold) settings.maxPolls
      ((drainWait settings).due? start) n ↔
      counts n ≤ settings.drainThreshold ∨ settings.maxPolls ≤ n := by
    intro n
    rw [drainWait_due? settings h]
    simp only [Outlook.Stops, drainOutlook, Bool.false_eq_true, false_or,
      Option.mem_some_iff, exists_eq_left', Nat.add_le_add_iff_left, settings.due_iff, or_self]
    exact or_congr_left decide_eq_true_iff
  have hset : {n | (drainOutlook settings counts start).Stops
      (fun count => count ≤ settings.drainThreshold) settings.maxPolls
      ((drainWait settings).due? start) n} = _ := Set.ext hstops
  rw [Outlook.EndsAt, hset]
  exact settings.isLeast_lastLook counts

end Handler

/-! ## 2. Counts and sleeps -/

namespace TaskRunner

/-- What the runner tells when it has been asked so many times from now. -/
def told (r : TaskRunner) (n : Nat) : Nat := r.scripted[n]?.getD r.running

theorem count_tells (r : TaskRunner) : r.count.2 = r.told 0 := by
  rw [count, told]
  split
  · next h => rw [show r.scripted = _ from h]; rfl
  · next h => rw [show r.scripted = _ from h]; rfl

theorem count_told (r : TaskRunner) (n : Nat) : r.count.1.told n = r.told (n + 1) := by
  rw [count, told, told]
  split
  · next h => rw [show r.scripted = _ from h]; rfl
  · next h => rw [show r.scripted = _ from h]; rfl

/-- Any counts are told by some runner, as far as it may be asked. -/
theorem exists_told (counts : Nat → Nat) (last : Nat) :
    ∃ r : TaskRunner, ∀ n ≤ last, r.told n = counts n := by
  refine ⟨idle.script ((List.range (last + 1)).map counts), fun n hn => ?_⟩
  simp [told, script, idle, Nat.lt_succ_of_le hn]

end TaskRunner

namespace Cluster

variable {a : Actor} {c c' c'' : Cluster} {interval : Duration} {polls looks : Nat}

/-- Where a node is that has been asked for its count so many times and has slept so many times,
and whose clock is moved by nothing else. -/
structure Polled (a : Actor) (c : Cluster) (interval : Duration) (polls looks : Nat) (c' : Cluster) :
    Prop where
  still : (c'.node a.node).countDelay = .zero
  told : ∀ n, (c'.node a.node).runner.told n = (c.node a.node).runner.told (looks + n)
  calls : (c'.node a.node).runner.calls.toList =
    (c.node a.node).runner.calls.toList ++ List.replicate looks .count
  now : (c'.node a.node).clock.now.nanos =
    (c.node a.node).clock.now.nanos + polls * interval.nanos
  sleeps : (c'.node a.node).clock.sleeps.toList =
    (c.node a.node).clock.sleeps.toList ++ List.replicate polls interval

theorem polled_refl (h : (c.node a.node).countDelay = .zero) : Polled a c interval 0 0 c := by
  constructor
  case still => exact h
  all_goals simp

theorem Polled.kept (h : Polled a c interval polls looks c') {parts : List Part}
    (hkept : Kept a parts c' c'') (hrunner : .runner ∉ parts) (hclock : .clock ∉ parts) :
    Polled a c interval polls looks c'' := by
  have hr := hkept.node.runner hrunner
  have hc := hkept.node.clock hclock
  constructor
  case still => exact hkept.node.countDelay.trans h.still
  case told =>
    rw [hr]
    exact h.told
  case calls =>
    rw [hr]
    exact h.calls
  case now =>
    rw [hc]
    exact h.now
  case sleeps =>
    rw [hc]
    exact h.sleeps

theorem Polled.look (h : Polled a c interval polls looks c') :
    Yields a Request.runningCount.ask c' fun c'' count =>
      count = (c.node a.node).runner.told looks ∧ Polled a c interval polls (looks + 1) c'' := by
  have hnow : (c'.node a.node).clock.now.nanos + (c'.node a.node).countDelay.nanos =
      (c'.node a.node).clock.now.nanos := by
    rw [h.still]
    rfl
  have hroom : (c'.node a.node).clock.now.nanos + (c'.node a.node).countDelay.nanos <
      signedLimit * nanosPerSecond := by
    rw [hnow]
    exact (c'.node a.node).clock.now.nanos_lt
  refine yields_request (answer_look hroom) ⟨?_, ?_⟩
  · rw [TaskRunner.count_tells, h.told, Nat.add_zero]
  · constructor <;> rw [node_setNode, if_pos rfl]
    case still => exact h.still
    case told =>
      intro n
      show (c'.node a.node).runner.count.1.told n = _
      rw [TaskRunner.count_told, h.told, Nat.add_right_comm, Nat.add_assoc]
    case calls =>
      show (c'.node a.node).runner.count.1.calls.toList = _
      rw [TaskRunner.count_calls, History.toList_add, h.calls, List.append_assoc,
        List.replicate_succ']
    case now => exact hnow.trans h.now
    case sleeps => exact h.sleeps

theorem Polled.sleep (h : Polled a c interval polls looks c')
    (hroom : (c.node a.node).clock.now.nanos + (polls + 1) * interval.nanos <
      signedLimit * nanosPerSecond) :
    Yields a (Request.sleep interval).ask c' fun c'' _ =>
      Polled a c interval (polls + 1) looks c'' := by
  have hnow : (c'.node a.node).clock.now.nanos + interval.nanos =
      (c.node a.node).clock.now.nanos + (polls + 1) * interval.nanos := by
    rw [h.now, Nat.succ_mul, Nat.add_assoc]
  refine yields_request (answer_sleep (hnow ▸ hroom)) ?_
  constructor <;> rw [node_setNode, if_pos rfl]
  case still => exact h.still
  case told => exact h.told
  case calls => exact h.calls
  case now => exact hnow
  case sleeps =>
    show ((c'.node a.node).clock.sleeps.add interval).toList = _
    rw [History.toList_add, h.sleeps, List.append_assoc, List.replicate_succ']

/-- What an activity that has the cluster to itself comes to. -/
def contracts (a : Actor) : Contracts Handler Cluster where
  Yields := Yields a
  done := yields_done
  bind := Yields.bind

end Cluster

namespace Handler

open Cluster

variable {a : Actor} {c c' : Cluster} (settings : Settings) {counts : Nat → Nat}

/-- A drain comes upon what the runner tells, as far as the clock has room. -/
theorem drain_foresees
    (hroom : (c.node a.node).clock.now.nanos + settings.maxDrainWait.nanos <
      signedLimit * nanosPerSecond)
    (hcounts : ∀ n ≤ settings.maxPolls, (c.node a.node).runner.told n = counts n) :
    BoundedWait.Foresees (contracts a) drainSurroundings settings.pollInterval
      (drainOutlook settings counts (c.node a.node).clock.now.nanos) (settings.lastLook counts)
      (fun n => Polled a c settings.pollInterval n n)
      (fun n => Polled a c settings.pollInterval n (n + 1)) := by
  have hlast := settings.lastLook_le counts
  constructor
  case look =>
    intro n t hn h
    refine h.look.mono fun t' count h' => ⟨?_, h'.2⟩
    rw [h'.1]
    exact hcounts n (hn.trans hlast)
  case isCancelled => exact fun _ h => yields_done ⟨rfl, h⟩
  case now =>
    intro n t hn h
    exact yields_request (r := .now) rfl ⟨h.now, h⟩
  case sleep =>
    intro n t hn h
    have hle := settings.mul_le_of_le_maxPolls (Nat.le_trans hn hlast)
    exact h.sleep (by rw [← Nat.succ_eq_add_one]; omega)

section
variable
  (hroom : (c.node a.node).clock.now.nanos + settings.maxDrainWait.nanos <
    signedLimit * nanosPerSecond)
  (hcounts : ∀ n ≤ settings.maxPolls, (c.node a.node).runner.told n = counts n)
include hroom hcounts

theorem await_polled (h : Polled a c settings.pollInterval 0 0 c') :
    Yields a ((drainWait settings).await drainSurroundings
        fun count => count ≤ settings.drainThreshold) c' fun c'' r =>
      r = ((drainOutlook settings counts (c.node a.node).clock.now.nanos).outcome
          (fun count => count ≤ settings.drainThreshold) (settings.lastLook counts),
        counts (settings.lastLook counts)) ∧
      Polled a c settings.pollInterval (settings.lastLook counts) (settings.lastLook counts + 1) c'' := by
  have hstart : (c'.node a.node).clock.now.nanos = (c.node a.node).clock.now.nanos := by
    rw [h.now, Nat.zero_mul, Nat.add_zero]
  have hlast := drain_endsAt settings counts hroom
  -- The deadline is set when the wait begins, and nothing has moved the clock by then.
  rw [← hstart, ← BoundedWait.deadline?_nanos, hstart] at hlast
  have hnow : Yields a Request.now.ask c' fun t x =>
      x = (c'.node a.node).clock.now ∧ Polled a c settings.pollInterval 0 0 t :=
    yields_request rfl ⟨rfl, h⟩
  exact BoundedWait.await_yields (w := drainWait settings) (drain_foresees settings hroom hcounts) hlast hnow

/-- A drain with the clock to itself: as many sleeps as there are looks before the last. -/
theorem drain_polled (h : Polled a c settings.pollInterval 0 0 c') :
    Yields a (drain settings) c' fun c'' event =>
      (∃ waited, waited.nanos = settings.lastLook counts * settings.pollInterval.nanos ∧
        event = .drainFinished (settings.lastLook counts) (counts (settings.lastLook counts)) waited
          (settings.drainThreshold < counts (settings.lastLook counts))) ∧
      Polled a c settings.pollInterval (settings.lastLook counts) (settings.lastLook counts + 1)
        c'' := by
  refine yields_ask (by simp [Request.parts]) fun c₁ _ h₁ => ?_
  have hpolled₁ := h.kept (kept_of_answered h₁) (by simp [Request.parts]) (by simp [Request.parts])
  refine yields_ask (by simp [Request.parts]) fun c₂ start h₂ => ?_
  cases h₂
  refine (await_polled settings hroom hcounts hpolled₁).bind fun c₃ r h₃ => ?_
  obtain ⟨rfl, hpolled₃⟩ := h₃
  refine yields_ask (by simp [Request.parts]) fun c₄ finish h₄ => ?_
  cases h₄
  -- Whether it has timed out decides only what is logged.
  have hend : ∀ (level : LogLevel) (message : String) (fields : LogFields) (event : ClusterEvent),
      Yields a (log level message fields >>= fun _ => pure event) c₃ fun c' x =>
        x = event ∧ Polled a c settings.pollInterval (settings.lastLook counts)
          (settings.lastLook counts + 1) c' := by
    intro level message fields event
    refine yields_ask (by simp [Request.parts]) fun c₅ _ h₅ => yields_done ⟨rfl, ?_⟩
    exact hpolled₃.kept (kept_of_answered h₅) (by simp [Request.parts]) (by simp [Request.parts])
  have hwaited : ((c₃.node a.node).clock.now.since (c₁.node a.node).clock.now).nanos =
      settings.lastLook counts * settings.pollInterval.nanos := by
    show (c₃.node a.node).clock.now.nanos - (c₁.node a.node).clock.now.nanos = _
    rw [hpolled₃.now, hpolled₁.now]
    omega
  have htimedOut : (!decide (counts (settings.lastLook counts) ≤ settings.drainThreshold)) =
      decide (settings.drainThreshold < counts (settings.lastLook counts)) := by
    rw [← decide_not]
    exact decide_eq_decide.2 Nat.not_le
  split
  · refine (hend _ _ _ _).mono fun c' x hx => ⟨⟨_, hwaited, ?_⟩, hx.2⟩
    rw [hx.1, ← htimedOut]
    rfl
  · refine (hend _ _ _ _).mono fun c' x hx => ⟨⟨_, hwaited, ?_⟩, hx.2⟩
    rw [hx.1, ← htimedOut]
    rfl

end

end Handler

/-! ## 3. The way into maintenance -/

namespace Cluster

open Handler

variable {a : Actor} {c : Cluster} (settings : Settings) {counts : Nat → Nat}

/-- While it drains, a node is paused. -/
def Paused (id : NodeId) (g : Transition) (c : Cluster) : Prop :=
  g = .draining → c.statusOf id = .pause

/-- On the way into maintenance the runner is asked only while the node is paused. -/
theorem paused_while_asked {es : List Exchange} {next : Nat → Handler _} {c' : Cluster}
    (h : Leads a (statusPublished settings Status.maintenance.text).run c es
      (.ask .runningCount next) c') : c'.statusOf a.node = .pause := by
  have hkeeps : ∀ {g r reply g' d d'},
      Transition.Conduct settings.statusAttribute .maintenance g r reply g' →
      Paused a.node g d → d.answer a r = (d', some reply) → Paused a.node g' d' := by
    intro g r reply g' d d' hrule hd answered hg'
    have hkept := kept_of_answered answered
    cases hrule with
    | pause => exact status_of_writeStatus (of_replied answered)
    | poll hr =>
      -- A drain looks, sleeps and asks for the time; none of these writes a status.
      rw [hkept.statusOf (by cases r <;> simp_all [Request.parts, Transition.Polls])]
      exact hd rfl
    | log =>
      rw [hkept.statusOf (by simp [Request.parts])]
      exact hd hg'
    | _ => cases hg'
  have hstart : Paused a.node .outside c := by
    intro h
    cases h
  obtain ⟨g, hfollows, hpaused⟩ :=
    h.follows (P := Paused a.node) hkeeps
      (statusPublished_follows settings (Status.ofText?_text .maintenance)) hstart
  obtain ⟨g', hrule, -⟩ := hfollows.ask (0 : Nat)
  cases hrule
  exact hpaused rfl

/-- What has become of a node that was told of maintenance and had to drain: `k` is its last look,
and `c` the cluster before. -/
structure EnteredByDrain (a : Actor) (settings : Settings) (counts : Nat → Nat) (c : Cluster) (k : Nat)
    (c' : Cluster) (events : List ClusterEvent) : Prop where
  told : ∃ waited : Duration, waited.nanos = k * settings.pollInterval.nanos ∧
    waited.nanos ≤ settings.maxDrainWait.nanos ∧
    events = ClusterEvent.ofChange (c.statusOf a.node) .pause ++
      [.drainFinished k (counts k) waited (settings.drainThreshold < counts k)] ++
      [.statusChanged .pause .maintenance]
  polled : Polled a c settings.pollInterval k (k + 1) c'
  status : c'.statusOf a.node = .maintenance
  published : c'.substrate.attribute? a.node settings.statusAttribute =
    some Status.maintenance.text

section
variable {c' : Cluster}
  (hroom : (c.node a.node).clock.now.nanos + settings.maxDrainWait.nanos <
    signedLimit * nanosPerSecond)
  (hcounts : ∀ n ≤ settings.maxPolls, (c.node a.node).runner.told n = counts n)
  (hup : c.canPublish Status.maintenance.text = true)
include hroom hcounts hup

/-- With the lock held, all of it. -/
theorem enterMaintenance_drains (hkept : Kept a [.locks] c c')
    (h : Polled a c settings.pollInterval 0 0 c') :
    Yields a (enterMaintenance settings).run c' fun c'' r => ∃ events, r = .ok events ∧
      EnteredByDrain a settings counts c (settings.lastLook counts) c'' events := by
  rw [enterMaintenance, run_lift_bind]
  refine (setLocal_tells .pause).bind fun c₁ paused h₁ => ?_
  obtain ⟨hkept₁, hpaused, rfl⟩ := h₁
  have hpolled₁ := h.kept hkept₁ (by simp) (by simp)
  rw [run_lift_bind]
  have hdrain := (drain_polled settings hroom hcounts hpolled₁).and_ends (drain_ends settings)
  refine hdrain.bind fun c₂ event h₂ => ?_
  obtain ⟨⟨⟨waited, hwaited, rfl⟩, hpolled₂⟩, hkept₂, -⟩ := h₂
  rw [run_lift_bind]
  refine (setLocal_tells .maintenance).bind fun c₃ entered h₃ => ?_
  obtain ⟨hkept₃, hentered, rfl⟩ := h₃
  have hpolled₃ := hpolled₂.kept hkept₃ (by simp) (by simp)
  have hcan : c₃.canPublish Status.maintenance.text = true := by
    rw [hkept₃.canPublish, hkept₂.canPublish, hkept₁.canPublish, hkept.canPublish, hup]
  rw [(hkept₂.statusOf (by simp)).trans hpaused, hkept.statusOf (by simp)]
  refine Ends.yields ((publish_ends settings .maintenance _).mono fun c₄ r h₄ => ?_)
  rw [if_pos hcan] at h₄
  obtain ⟨hkept₄, rfl, hpublished⟩ := h₄
  refine ⟨_, rfl, _, rfl, ?_⟩
  constructor
  case told =>
    refine ⟨waited, hwaited, ?_, rfl⟩
    rw [hwaited]
    exact settings.mul_le_of_le_maxPolls (settings.lastLook_le counts)
  case polled => exact hpolled₃.kept hkept₄ (by simp) (by simp)
  case status => exact (hkept₄.statusOf (by simp)).trans hentered
  case published => exact hpublished

end

/-- Into maintenance, on a cluster that is up and a clock that nothing else moves: the node is
paused, drained up to the first look that sees few enough tasks, or the last one that fits the
budget, and then in maintenance, in that order. -/
theorem maintenance_by_drain (settings : Settings) (counts : Nat → Nat)
    (hstatus : c.statusOf a.node ≠ .maintenance)
    (hup : c.canPublish Status.maintenance.text = true)
    (hstill : (c.node a.node).countDelay = .zero)
    (hroom : (c.node a.node).clock.now.nanos + settings.maxDrainWait.nanos <
      signedLimit * nanosPerSecond)
    (hcounts : ∀ n ≤ settings.maxPolls, (c.node a.node).runner.told n = counts n) :
    (∃ c' events, run a (statusPublished settings Status.maintenance.text).run c =
        (c', some (.ok events)) ∧
      EnteredByDrain a settings counts c (settings.lastLook counts) c' events) ∧
    ∀ es next d, Leads a (statusPublished settings Status.maintenance.text).run c es
      (.ask .runningCount next) d → d.statusOf a.node = .pause := by
  refine ⟨?_, fun es next d h => paused_while_asked settings h⟩
  have hcall : Yields a (statusPublished settings Status.maintenance.text).run c fun c' r =>
      ∃ events, r = .ok events ∧
        EnteredByDrain a settings counts c (settings.lastLook counts) c' events := by
    rw [run_statusPublished, Status.ofText?_text]
    refine yields_ask (by simp [Request.parts]) fun c₁ _ h₁ => ?_
    have hkept₁ : Kept a [.locks] c c₁ := kept_of_answered h₁
    have hpolled₁ : Polled a c settings.pollInterval 0 0 c₁ :=
      (polled_refl hstill).kept hkept₁ (by simp) (by simp)
    have hold : c₁.statusOf a.node ≠ .maintenance := by
      rwa [hkept₁.statusOf (by simp)]
    have htake : Yields a (takeOn settings .maintenance).run c₁ fun c' r => ∃ events,
        r = .ok events ∧ EnteredByDrain a settings counts c (settings.lastLook counts) c' events := by
      rw [takeOn, run_lift_bind]
      refine yields_ask (by simp [Request.parts]) fun c₂ current h₂ => ?_
      cases h₂
      rw [if_pos ⟨rfl, hold⟩]
      exact enterMaintenance_drains settings hroom hcounts hup hkept₁ hpolled₁
    refine htake.bind fun c₂ r h₂ => ?_
    obtain ⟨events, rfl, hentered⟩ := h₂
    refine yields_ask (by simp [Request.parts]) fun c₃ _ h₃ => yields_done ⟨events, rfl, ?_⟩
    have hkept₃ : Kept a [.locks] c₂ c₃ := kept_of_answered h₃
    refine ⟨hentered.told, hentered.polled.kept hkept₃ (by simp) (by simp), ?_, ?_⟩
    · exact (hkept₃.statusOf (by simp)).trans hentered.status
    · rw [hkept₃.substrate (by simp)]
      exact hentered.published
  obtain ⟨c', r, hrun, events, rfl, hentered⟩ := hcall
  exact ⟨c', events, hrun, hentered⟩

/-- Five tasks are running, then three, then one: two sleeps. -/
theorem maintenance_by_drain_scripted :
    ∃ c' events,
      run ⟨⟨"a"⟩, 0, 0⟩ (statusPublished default Status.maintenance.text).run
          ((empty default "node-tasks" default).setNode ⟨"a"⟩
            { Node.fresh default .active with runner := .script .idle [5, 3, 1] }) =
        (c', some (.ok events)) ∧
      EnteredByDrain ⟨⟨"a"⟩, 0, 0⟩ default (TaskRunner.script .idle [5, 3, 1]).told
        ((empty default "node-tasks" default).setNode ⟨"a"⟩
          { Node.fresh default .active with runner := .script .idle [5, 3, 1] }) 2 c' events :=
  (maintenance_by_drain (a := ⟨⟨"a"⟩, 0, 0⟩) default (TaskRunner.script .idle [5, 3, 1]).told
    (by decide) (by decide) (by decide) (by decide) fun _ _ => rfl).1

end Cluster

end ClusterKeeper
