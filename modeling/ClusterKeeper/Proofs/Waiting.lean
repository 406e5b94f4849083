import ClusterKeeper.Wait
import Mathlib.Algebra.GroupWithZero.Nat
import Mathlib.Data.Nat.Find
import Mathlib.Order.Bounds.Basic
import Mathlib.Order.Monotone.Basic

/-!
# `Proofs/Waiting.lean` — when a wait ends, and with what

A wait goes by what it comes upon: what it sees at each look, whether it has been cancelled by then,
and what time it is (`Outlook`). It ends at the first look at which it sees enough, or is cancelled,
or has made all its polls, or is past its deadline, and from there its outcome can be read off
(`BoundedWait.await_yields`).

That is said once, of a wait in any surroundings. All that is asked of them is a way of speaking about
where activities lead that goes through sequences (`Contracts`), and that the wait does come upon what
is foreseen up to the look at which it ends (`Foresees`). Of a wait alone on a clock everything can be
foreseen from the checks, since only they and its own sleeps move the clock.
-/

set_option autoImplicit false

namespace ClusterKeeper

/-! ## 1. Waits in any surroundings -/

/-- A way of saying that an activity, begun in a state, comes to a result, and of which results and
states. -/
structure Contracts (m : Type → Type) [Monad m] (σ : Type) where
  Yields : {α : Type} → m α → σ → (σ → α → Prop) → Prop
  done : ∀ {α : Type} {x : α} {s : σ} {Q : σ → α → Prop}, Q s x → Yields (pure x) s Q
  bind : ∀ {α β : Type} {p : m α} {f : α → m β} {s : σ} {Q : σ → α → Prop} {R : σ → β → Prop},
    Yields p s Q → (∀ s' x, Q s' x → Yields (f x) s' R) → Yields (p >>= f) s R

/-- What a wait comes upon at each look: what there is to see, whether it has been cancelled by then,
and the time in nanoseconds. -/
structure Outlook (β : Type) where
  seen : Nat → β
  cancelled : Nat → Bool
  now : Nat → Nat

namespace Outlook

variable {β : Type}

/-- There is no further poll behind this look. -/
def Stops (o : Outlook β) (satisfies : β → Bool) (maxPolls : Nat) (deadline : Option Nat) (n : Nat) :
    Prop :=
  satisfies (o.seen n) = true ∨ o.cancelled n = true ∨ maxPolls ≤ n ∨ ∃ d ∈ deadline, d ≤ o.now n

instance (o : Outlook β) (satisfies : β → Bool) (maxPolls : Nat) (deadline : Option Nat) (n : Nat) :
    Decidable (o.Stops satisfies maxPolls deadline n) := inferInstanceAs (Decidable (_ ∨ _))

/-- The outcome of a wait that ends at this look. To be satisfied goes before being cancelled. -/
def outcome (o : Outlook β) (satisfies : β → Bool) (n : Nat) : WaitOutcome :=
  ⟨n, satisfies (o.seen n), !satisfies (o.seen n) && o.cancelled n⟩

/-- The first look behind which there is no poll. -/
def EndsAt (o : Outlook β) (satisfies : β → Bool) (maxPolls : Nat) (deadline : Option Nat) (n : Nat) :
    Prop :=
  IsLeast {m | o.Stops satisfies maxPolls deadline m} n

variable {o : Outlook β} {satisfies : β → Bool} {maxPolls n m : Nat} {deadline : Option Nat}

/-- Where the polls are used up, if not before, a wait has its last look. -/
theorem exists_endsAt (o : Outlook β) (satisfies : β → Bool) (maxPolls : Nat)
    (deadline : Option Nat) : ∃ n, o.EndsAt satisfies maxPolls deadline n := by
  have hlast : ∃ n, o.Stops satisfies maxPolls deadline n := ⟨maxPolls, .inr (.inr (.inl le_rfl))⟩
  exact ⟨Nat.find hlast, Nat.find_spec hlast, fun m hm => Nat.find_min' hlast hm⟩

theorem EndsAt.le_maxPolls (h : o.EndsAt satisfies maxPolls deadline n) : n ≤ maxPolls :=
  h.2 (.inr (.inr (.inl le_rfl)))

/-- A look that is not behind the last one and stops the wait is the last one. -/
theorem EndsAt.eq_of_stops (h : o.EndsAt satisfies maxPolls deadline n) (hm : m ≤ n)
    (hstops : o.Stops satisfies maxPolls deadline m) : m = n :=
  Nat.le_antisymm hm (h.2 hstops)

/-- A wait ends in exactly one of three ways. -/
theorem outcome_ends_one_way (o : Outlook β) (satisfies : β → Bool) (n : Nat) :
    [(o.outcome satisfies n).satisfied, (o.outcome satisfies n).cancelled,
      (o.outcome satisfies n).timedOut].count true = 1 := by
  rw [outcome, WaitOutcome.timedOut]
  cases satisfies (o.seen n) <;> cases o.cancelled n <;> rfl

end Outlook

namespace BoundedWait

section
variable {m : Type → Type} [Monad m] {σ β : Type}

/-- The wait comes upon what is foreseen, up to its last look. Of a state, `before n` says that there
have been `n` polls, and `after n` that there has been one more look. -/
structure Foresees (C : Contracts m σ) (s : Surroundings m β) (interval : Duration) (o : Outlook β)
    (last : Nat) (before after : Nat → σ → Prop) : Prop where
  look : ∀ {n t}, n ≤ last → before n t → C.Yields s.look t fun t' x => x = o.seen n ∧ after n t'
  isCancelled : ∀ {n t}, n ≤ last → after n t →
    C.Yields s.isCancelled t fun t' x => x = o.cancelled n ∧ after n t'
  now : ∀ {n t}, n ≤ last → after n t →
    C.Yields s.now t fun t' x => x.nanos = o.now n ∧ after n t'
  sleep : ∀ {n t}, n < last → after n t → C.Yields (s.sleep interval) t fun t' _ => before (n + 1) t'

variable {C : Contracts m σ} {w : BoundedWait} {s : Surroundings m β} {o : Outlook β} {last : Nat}
  {before after : Nat → σ → Prop} {satisfies : β → Bool} {deadline : Option Instant}

theorem isPast_iff {now : Instant} :
    isPast deadline now = true ↔ ∃ d ∈ deadline.map (·.nanos), d ≤ now.nanos := by
  cases deadline with
  | none => simp [isPast]
  | some d => simp [isPast]

/-- A look that satisfies the wait, or finds it cancelled, ends it. -/
theorem look_yields (hs : Foresees C s w.interval o last before after)
    (hlast : o.EndsAt satisfies w.maxPolls (deadline.map (·.nanos)) last) {n : Nat} {t : σ}
    (hn : n ≤ last) (ht : before n t) {rest : β → Instant → m (WaitOutcome × β)}
    (hrest : ∀ t' now, satisfies (o.seen n) = false → o.cancelled n = false → now.nanos = o.now n →
      after n t' → C.Yields (rest (o.seen n) now) t' fun t' r =>
        r = (o.outcome satisfies last, o.seen last) ∧ after last t') :
    C.Yields (do
      let seen ← s.look
      if satisfies seen then return (⟨n, true, false⟩, seen)
      if ← s.isCancelled then return (⟨n, false, true⟩, seen)
      let now ← s.now
      rest seen now) t fun t' r => r = (o.outcome satisfies last, o.seen last) ∧ after last t' := by
  refine C.bind (hs.look hn ht) fun t₁ seen h₁ => ?_
  obtain ⟨rfl, hafter₁⟩ := h₁
  split
  · next hsat =>
    obtain rfl : n = last := hlast.eq_of_stops hn (.inl hsat)
    exact C.done ⟨by rw [Outlook.outcome, hsat]; rfl, hafter₁⟩
  · next hsat =>
    have hsat : satisfies (o.seen n) = false := Bool.eq_false_iff.2 hsat
    refine C.bind (hs.isCancelled hn hafter₁) fun t₂ cancelled h₂ => ?_
    obtain ⟨rfl, hafter₂⟩ := h₂
    split
    · next hc =>
      obtain rfl : n = last := hlast.eq_of_stops hn (.inr (.inl hc))
      exact C.done ⟨by rw [Outlook.outcome, hsat, hc]; rfl, hafter₂⟩
    · next hc =>
      refine C.bind (hs.now hn hafter₂) fun t₃ now h₃ => ?_
      exact hrest t₃ now hsat (Bool.eq_false_iff.2 hc) h₃.1 h₃.2

/-- The induction is on the polls that are left: a look that does not stop the wait is not the last
one, and there is a sleep to the next. -/
theorem poll_yields (hs : Foresees C s w.interval o last before after)
    (hlast : o.EndsAt satisfies w.maxPolls (deadline.map (·.nanos)) last) {remaining n : Nat} {t : σ}
    (hpolls : n + remaining = w.maxPolls) (hn : n ≤ last) (ht : before n t) :
    C.Yields (w.poll s satisfies deadline remaining n) t fun t' r =>
      r = (o.outcome satisfies last, o.seen last) ∧ after last t' := by
  induction remaining generalizing n t with
  | zero =>
    refine look_yields hs hlast hn ht fun t' now hsat hc _ hafter => ?_
    -- The polls are used up, whatever the deadline says.
    obtain rfl : n = last := hlast.eq_of_stops hn (.inr (.inr (.inl hpolls.ge)))
    exact C.done ⟨by rw [Outlook.outcome, hsat, hc]; rfl, hafter⟩
  | succ remaining ih =>
    refine look_yields hs hlast hn ht fun t' now hsat hc hnow hafter => ?_
    have hpast : isPast deadline now = true ↔
        ∃ d ∈ deadline.map (·.nanos), d ≤ o.now n := by rw [isPast_iff, hnow]
    split
    · next h =>
      obtain rfl : n = last := hlast.eq_of_stops hn (.inr (.inr (.inr (hpast.1 h))))
      exact C.done ⟨by rw [Outlook.outcome, hsat, hc]; rfl, hafter⟩
    · next h =>
      -- None of the four holds, so there is a look to come.
      have hgoes : ¬ o.Stops satisfies w.maxPolls (deadline.map (·.nanos)) n := by
        rintro (hstop | hstop | hstop | hstop)
        · rw [hsat] at hstop
          cases hstop
        · rw [hc] at hstop
          cases hstop
        · omega
        · exact h (hpast.2 hstop)
      have hlt : n < last := lt_of_le_of_ne hn fun heq => hgoes (heq ▸ hlast.1)
      exact C.bind (hs.sleep hlt hafter) fun t'' _ hbefore => ih (by omega) hlt hbefore

/-- A wait ends at the first look behind which there is no poll. -/
theorem await_yields {start : Instant} {t : σ}
    (hs : Foresees C s w.interval o last before after)
    (hlast : o.EndsAt satisfies w.maxPolls ((w.deadline? start).map (·.nanos)) last)
    (hstart : C.Yields s.now t fun t' x => x = start ∧ before 0 t') :
    C.Yields (w.await s satisfies) t fun t' r =>
      r = (o.outcome satisfies last, o.seen last) ∧ after last t' := by
  refine C.bind hstart fun t₁ now h₁ => ?_
  obtain ⟨rfl, hbefore⟩ := h₁
  exact poll_yields hs hlast (Nat.zero_add _) (Nat.zero_le _) hbefore

end

/-! ## 2. A wait alone -/

/-- The time, in nanoseconds, at which a wait that starts at `start` has used up its budget, which is
never more than the longest duration. There is none outside the clock's range. -/
def due? (w : BoundedWait) (start : Nat) : Option Nat :=
  let due := start + min (w.interval.nanos * w.maxPolls) Duration.longest.nanos
  if due < signedLimit * nanosPerSecond then some due else none

theorem budget_nanos (w : BoundedWait) :
    w.budget.nanos = min (w.interval.nanos * w.maxPolls) Duration.longest.nanos := by
  rw [budget, Duration.times?]
  cases h : Duration.ofNanos? (w.interval.nanos * w.maxPolls) with
  | none =>
    rw [Duration.ofNanos?_eq_none_iff] at h
    exact (min_eq_right (Nat.le_trans (Nat.sub_le _ _) h)).symm
  | some d =>
    rw [Duration.ofNanos?_eq_some_iff] at h
    rw [h]
    exact (min_eq_left (Nat.le_sub_one_of_lt d.nanos_lt)).symm

theorem deadline?_nanos (w : BoundedWait) (start : Instant) :
    (w.deadline? start).map (·.nanos) = w.due? start.nanos := by
  rw [deadline?, Instant.after?, due?, ← budget_nanos]
  split <;> rfl

section
variable (w : BoundedWait) (check : Nat → Check) (clock : Clock) (cancelled : Bool)

/-- The time at the end of a look: the clock has been moved by the checks so far and by a sleep
between each two. -/
def momentOf (n : Nat) : Nat :=
  clock.now.nanos + ((List.range (n + 1)).map fun i => (check i).advance.nanos).sum +
    n * w.interval.nanos

/-- The wait was cancelled before it began, or at a look so far. -/
def cancelledBy (n : Nat) : Bool :=
  cancelled || (List.range (n + 1)).any fun i => (check i).cancel

/-- What a wait alone on a clock comes upon. -/
def outlook : Outlook Bool where
  seen n := (check n).holds
  cancelled := cancelledBy check cancelled
  now := w.momentOf check clock

theorem momentOf_mono : Monotone (w.momentOf check clock) := by
  refine monotone_nat_of_le_succ fun n => ?_
  rw [momentOf, momentOf, List.range_succ (n := n + 1), List.map_append, List.sum_append,
    Nat.succ_mul]
  omega

/-- Where a wait alone is after so many polls, and so many looks. -/
structure Reached (polls looks : Nat) (s : WaitState) : Prop where
  checks : s.checks = looks
  cancelled : s.cancelled = (cancelled || (List.range looks).any fun i => (check i).cancel)
  now : s.clock.now.nanos = clock.now.nanos +
    ((List.range looks).map fun i => (check i).advance.nanos).sum + polls * w.interval.nanos
  sleeps : s.clock.sleeps.toList = clock.sleeps.toList ++ List.replicate polls w.interval

end

end BoundedWait

namespace WaitRun

open BoundedWait

/-- What a wait alone comes to. -/
def contracts : Contracts WaitRun WaitState where
  Yields p s Q := ∃ x s', p.run s = (some x, s') ∧ Q s' x
  done h := ⟨_, _, rfl, h⟩
  bind := by
    intro α β p f s Q R hp hf
    obtain ⟨x, s', hrun, hx⟩ := hp
    obtain ⟨y, s'', hrun', hy⟩ := hf s' x hx
    refine ⟨y, s'', ?_, hy⟩
    rw [OptionT.run_bind, Option.elimM]
    exact (congrArg (fun r : Option α × WaitState =>
      (Option.elim r.1 (pure none) fun a => (f a).run : StateM WaitState (Option β)) r.2) hrun).trans
        hrun'

theorem get_yields (s : WaitState) : contracts.Yields get s fun s' x => s = x ∧ s = s' :=
  ⟨s, s, rfl, rfl, rfl⟩

theorem set_yields (s t : WaitState) : contracts.Yields (set t) s fun s' _ => s' = t :=
  ⟨(), t, rfl, rfl⟩

variable {w : BoundedWait} {check : Nat → Check} {clock : Clock} {cancelled : Bool} {n last : Nat}
  {s : WaitState}

theorem look_yields (h : Reached w check clock cancelled n n s)
    (hroom : w.momentOf check clock n < signedLimit * nanosPerSecond) :
    contracts.Yields (look check) s fun s' x =>
      x = (check n).holds ∧ Reached w check clock cancelled n (n + 1) s' := by
  have hnow : s.clock.now.nanos + (check n).advance.nanos = w.momentOf check clock n := by
    rw [h.now, momentOf, List.range_succ, List.map_append, List.sum_append, List.map_singleton,
      List.sum_singleton]
    omega
  have hmove : s.clock.now.after? (check n).advance = some ⟨_, hroom⟩ :=
    Instant.after?_eq_some_iff.2 hnow
  have hcancelled : (s.cancelled || (check n).cancel) = cancelledBy check cancelled n := by
    rw [h.cancelled, cancelledBy, List.range_succ, List.any_append, Bool.or_assoc]
    simp
  refine contracts.bind (get_yields s) fun s₁ x h₁ => ?_
  obtain ⟨rfl, rfl⟩ := h₁
  obtain rfl : s.checks = n := h.checks
  simp only [Clock.advance?, hmove, Option.map_some]
  refine contracts.bind (set_yields _ _) fun s₂ _ h₂ => ?_
  subst h₂
  exact contracts.done ⟨rfl, rfl, hcancelled, rfl, h.sleeps⟩

theorem sleep_yields (h : Reached w check clock cancelled n (n + 1) s)
    (hroom : w.momentOf check clock (n + 1) < signedLimit * nanosPerSecond) :
    contracts.Yields (sleep w.interval) s fun s' _ =>
      Reached w check clock cancelled (n + 1) (n + 1) s' := by
  have hnow : s.clock.now.nanos + w.interval.nanos ≤ w.momentOf check clock (n + 1) := by
    rw [h.now, momentOf, List.range_succ (n := n + 1), List.map_append, List.sum_append,
      Nat.succ_mul]
    omega
  have hmove : s.clock.now.after? w.interval = some ⟨_, Nat.lt_of_le_of_lt hnow hroom⟩ :=
    Instant.after?_eq_some_iff.2 rfl
  refine contracts.bind (get_yields s) fun s₁ x h₁ => ?_
  obtain ⟨rfl, rfl⟩ := h₁
  simp only [Clock.sleep, Clock.advance?, hmove, Option.map_some, if_true]
  refine contracts.bind (set_yields _ _) fun s₂ _ h₂ => ?_
  subst h₂
  refine contracts.done ⟨h.checks, h.cancelled, ?_, ?_⟩
  · show s.clock.now.nanos + w.interval.nanos = _
    rw [h.now, Nat.succ_mul, Nat.add_assoc]
  · show (s.clock.sleeps.add w.interval).toList = _
    rw [History.toList_add, h.sleeps, List.append_assoc, List.replicate_succ']

/-- A wait alone comes upon what its checks foretell, as far as the clock has room. -/
theorem foresees (w : BoundedWait) (check : Nat → Check) (clock : Clock) (cancelled : Bool)
    (hroom : w.momentOf check clock last < signedLimit * nanosPerSecond) :
    Foresees contracts (surroundings check) w.interval (w.outlook check clock cancelled) last
      (fun n => Reached w check clock cancelled n n)
      (fun n => Reached w check clock cancelled n (n + 1)) where
  look hn h := look_yields h ((momentOf_mono _ _ _ hn).trans_lt hroom)
  isCancelled _ h := ⟨_, _, rfl, h.cancelled, h⟩
  now _ h := ⟨_, _, rfl, h.now, h⟩
  sleep hn h := sleep_yields h ((momentOf_mono _ _ _ hn).trans_lt hroom)

end WaitRun

namespace BoundedWait

/-- A wait alone has a last look, the least that is satisfied, cancelled, out of polls or past the
deadline. As long as the clock has room up to there, the wait ends with it: one look more than
sleeps, each sleep an interval, the outcome that of the last look. -/
theorem runAlone_ends (w : BoundedWait) (check : Nat → Check) (clock : Clock) (cancelled : Bool) :
    ∃ n, (w.outlook check clock cancelled).EndsAt id w.maxPolls (w.due? clock.now.nanos) n ∧
      n ≤ w.maxPolls ∧
      (w.momentOf check clock n < signedLimit * nanosPerSecond →
        ∃ (o : WaitOutcome) (s : WaitState),
          w.runAlone check ⟨clock, cancelled, 0⟩ = (some o, s) ∧
          o = ⟨n, (check n).holds, !(check n).holds && cancelledBy check cancelled n⟩ ∧
          s.checks = n + 1 ∧
          s.clock.sleeps.toList = clock.sleeps.toList ++ List.replicate n w.interval ∧
          s.clock.now.nanos = w.momentOf check clock n ∧
          s.cancelled = cancelledBy check cancelled n ∧
          [o.satisfied, o.cancelled, o.timedOut].count true = 1) := by
  obtain ⟨n, hn⟩ := (w.outlook check clock cancelled).exists_endsAt id w.maxPolls
    (w.due? clock.now.nanos)
  refine ⟨n, hn, hn.le_maxPolls, fun hroom => ?_⟩
  have hstart : WaitRun.contracts.Yields (WaitRun.surroundings check).now ⟨clock, cancelled, 0⟩
      fun t x => x = clock.now ∧ Reached w check clock cancelled 0 0 t :=
    ⟨_, _, rfl, rfl, by constructor <;> simp⟩
  rw [← deadline?_nanos] at hn
  obtain ⟨r, s, hrun, rfl, hs⟩ :=
    await_yields (WaitRun.foresees w check clock cancelled hroom) hn hstart
  exact ⟨_, s, by rw [runAlone, hrun]; rfl, rfl, hs.checks, hs.sleeps, hs.now, hs.cancelled,
    Outlook.outcome_ends_one_way (w.outlook check clock cancelled) id n⟩

/-- Five seconds that pass during the second look are past the deadline of three polls a second
apart, and what the third look would have found is never seen. -/
theorem runAlone_ends_past_deadline :
    ∃ s, runAlone ⟨.ofSeconds 1 (by decide), 3⟩
        (WaitScript.check ⟨#[⟨false, .zero, false⟩, ⟨false, .ofSeconds 5 (by decide), false⟩],
          ⟨true, .zero, false⟩⟩) ⟨.fresh, false, 0⟩ = (some ⟨1, false, false⟩, s) ∧
      s.checks = 2 ∧ s.clock.sleeps.toList = [.ofSeconds 1 (by decide)] := by
  obtain ⟨n, hn, -, hrun⟩ := runAlone_ends ⟨.ofSeconds 1 (by decide), 3⟩
    (WaitScript.check ⟨#[⟨false, .zero, false⟩, ⟨false, .ofSeconds 5 (by decide), false⟩],
      ⟨true, .zero, false⟩⟩) .fresh false
  have hle : n ≤ 1 := hn.2 (show Outlook.Stops _ _ _ _ 1 by decide)
  obtain rfl | rfl : n = 0 ∨ n = 1 := by omega
  · exact absurd hn.1 (by decide)
  · obtain ⟨_, s, heq, rfl, hchecks, hsleeps, -⟩ := hrun (by decide)
    exact ⟨s, heq, hchecks, hsleeps⟩

end BoundedWait

end ClusterKeeper
