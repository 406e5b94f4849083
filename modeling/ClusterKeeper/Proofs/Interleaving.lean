import ClusterKeeper.Cluster.Schedule
import ClusterKeeper.Proofs.Run
import Mathlib.Data.DFinsupp.WellFounded
import Mathlib.Logic.Function.Basic
import Mathlib.Logic.Relation

/-!
# `Proofs/Interleaving.lean` — activities side by side, in any order

A `Team` is a cluster with activities under way in it. A step lets one of them, whichever it may
be, make its next request (`Team.Step`). So the steps of a team are all the orders in which its
activities can be interleaved, request by request; that they run on one thread, or suspend
themselves only here and there, is not assumed.

* A request for a lock makes a claim on it, and passes once the claim is the oldest.
* An activity whose clock cannot move stops, and gives up its claims.
* Between the steps of the team something else may happen to the cluster; what that may be is a
  parameter (`elsewhere`).

Whatever the order, an activity that follows a rule goes on following it, each of its exchanges
being one of the rule (`Team.Following.step`).
-/

set_option autoImplicit false

namespace ClusterKeeper

theorem Request.reply_nonempty (r : Request) : Nonempty r.Reply := by
  cases r with
  | members => exact ⟨.ok []⟩
  | ownerOf => exact ⟨.ok none⟩
  | publish => exact ⟨.ok ()⟩
  | tasksOf => exact ⟨.ok ∅⟩
  | addTask => exact ⟨.ok ()⟩
  | loadRecord => exact ⟨.ok none⟩
  | addRecord => exact ⟨.ok ()⟩
  | updateRecord => exact ⟨.ok ()⟩
  | runningCount => exact ⟨0⟩
  | startTask => exact ⟨.ok ()⟩
  | now => exact ⟨.start⟩
  | readStatus | writeStatus => exact ⟨.active⟩
  | isHeld => exact ⟨true⟩
  | sleep | acquire | release | log => exact ⟨()⟩

inductive Stage (α : Type) : Type
  | going (rest : Handler α)
  /-- Its clock could not move. -/
  | stopped

/-- An activity that is over; one that stopped has no result. -/
def Stage.finished {α : Type} : Option α → Stage α
  | some a => .going (.done a)
  | none => .stopped

def LockTable.withdraw (t : LockTable) (activity : Nat) : LockTable :=
  t.filter fun c => c.activity ≠ activity

/-- A request passes unless it is for a lock that another activity holds. -/
def Cluster.Admits (c : Cluster) (a : Actor) : Request → Prop
  | .acquire name => c.holds a name = true
  | _ => True

/-- A request that does not pass is for a lock; it has left its claim, and nothing else. -/
theorem Cluster.of_refused {c c' : Cluster} {a : Actor} {r : Request} {reply : r.Reply}
    (answered : c.answer a r = (c', some reply)) (refused : ¬ c'.Admits a r) :
    ∃ name, r = .acquire name ∧
      c' = { c with locks := c.locks.claim (a.lockKey name) a.activity } := by
  cases r with
  | acquire name =>
    cases answered
    exact ⟨name, rfl, rfl⟩
  | _ => exact absurd trivial refused

/-- Activities under way in a cluster, and the exchanges they have had. -/
structure Team (ι α : Type) : Type where
  cluster : Cluster
  stage : ι → Stage α
  trace : List (ι × Exchange)

namespace Team

variable {ι α Γ : Type}

def Over (t : Team ι α) (i : ι) (result : Option α) : Prop := t.stage i = .finished result

def Finished (t : Team ι α) : Prop := ∀ i, ∃ result, t.Over i result

def start (c : Cluster) (activity : ι → Handler α) : Team ι α := ⟨c, fun i => .going (activity i), []⟩

variable [DecidableEq ι]

/-- One step: an exchange of one activity, or something elsewhere. -/
inductive Step (who : ι → Actor) (elsewhere : Cluster → Cluster → Prop) :
    Team ι α → Team ι α → Prop
  | exchange {t : Team ι α} {i : ι} {r : Request} {next : r.Reply → Handler α} {c : Cluster}
      {reply : r.Reply} (turn : t.stage i = .going (.ask r next))
      (answered : t.cluster.answer (who i) r = (c, some reply)) (admitted : c.Admits (who i) r) :
      Step who elsewhere t
        ⟨c, Function.update t.stage i (.going (next reply)), t.trace ++ [(i, ⟨r, reply⟩)]⟩
  | wait {t : Team ι α} {i : ι} {r : Request} {next : r.Reply → Handler α} {c : Cluster}
      {reply : r.Reply} (turn : t.stage i = .going (.ask r next))
      (answered : t.cluster.answer (who i) r = (c, some reply)) (refused : ¬ c.Admits (who i) r) :
      Step who elsewhere t { t with cluster := c }
  | stop {t : Team ι α} {i : ι} {r : Request} {next : r.Reply → Handler α} {c : Cluster}
      (turn : t.stage i = .going (.ask r next))
      (answered : t.cluster.answer (who i) r = (c, none)) :
      Step who elsewhere t
        ⟨{ c with locks := c.locks.withdraw (who i).activity },
          Function.update t.stage i .stopped, t.trace⟩
  | elsewhere {t : Team ι α} {c : Cluster} (happened : elsewhere t.cluster c) :
      Step who elsewhere t { t with cluster := c }

abbrev Reaches (who : ι → Actor) (elsewhere : Cluster → Cluster → Prop) :
    Team ι α → Team ι α → Prop :=
  Relation.ReflTransGen (Step who elsewhere)

def nothing (_ _ : Cluster) : Prop := False

section
variable {who : ι → Actor} {elsewhere more : Cluster → Cluster → Prop}

theorem Step.mono (h : ∀ c c', elsewhere c c' → more c c') {t t' : Team ι α}
    (hs : Step who elsewhere t t') : Step who more t t' := by
  cases hs with
  | exchange turn answered admitted => exact .exchange turn answered admitted
  | wait turn answered refused => exact .wait turn answered refused
  | stop turn answered => exact .stop turn answered
  | elsewhere happened => exact .elsewhere (h _ _ happened)

theorem Reaches.mono (h : ∀ c c', elsewhere c c' → more c c') {t t' : Team ι α}
    (hs : Reaches who elsewhere t t') : Reaches who more t t' := by
  induction hs with
  | refl => exact .refl
  | tail _ hs ih => exact ih.tail (hs.mono h)

/-! ## 1. Every team can come to an end -/

/-- What is left of an activity after an exchange, or after it stopped. -/
inductive Later : Stage α → Stage α → Prop
  | next {r : Request} {next : r.Reply → Handler α} (reply : r.Reply) :
      Later (.going (next reply)) (.going (.ask r next))
  | stop {p : Handler α} : Later .stopped (.going p)

theorem later_wellFounded : WellFounded (Later : Stage α → Stage α → Prop) := by
  have hstop : Acc (Later : Stage α → Stage α → Prop) .stopped := ⟨_, fun s h => by cases h⟩
  refine ⟨fun s => ?_⟩
  cases s with
  | stopped => exact hstop
  | going p =>
    induction p with
    | done a =>
      refine ⟨_, fun s h => ?_⟩
      cases h
      exact hstop
    | ask r next ih =>
      refine ⟨_, fun s h => ?_⟩
      cases h with
      | next reply => exact ih reply
      | stop => exact hstop

/-- If wherever the team can get some activity that is not over can make an exchange or stop, then
the team can come to an end. -/
theorem reaches_finished [Finite ι] {P : Team ι α → Prop}
    (hstep : ∀ {t t'}, P t → Step who nothing t t' → P t')
    (hgo : ∀ {t}, P t → ¬ t.Finished →
      ∃ t' i s, Step who nothing t t' ∧ t'.stage = Function.update t.stage i s ∧ Later s (t.stage i))
    {t : Team ι α} (h : P t) : ∃ t', Reaches who nothing t t' ∧ t'.Finished := by
  have smaller := Pi.Lex.wellFounded WellOrderingRel fun _ : ι => later_wellFounded (α := α)
  generalize hs : t.stage = stage
  induction stage using smaller.induction generalizing t with
  | h stage ih =>
    subst hs
    by_cases hf : t.Finished
    · exact ⟨t, .refl, hf⟩
    · -- One stage becomes smaller and the others stay, so their product does.
      obtain ⟨t₁, i, s, hs, hstage, hlater⟩ := hgo h hf
      have hlex : Pi.Lex WellOrderingRel Later t₁.stage t.stage := by
        refine ⟨i, fun j hj => ?_, ?_⟩
        · have hne : j ≠ i := by
            rintro rfl
            exact irrefl j hj
          rw [hstage, Function.update_of_ne hne]
        · rw [hstage, Function.update_self]
          exact hlater
      obtain ⟨t₂, hreach, hend⟩ := ih t₁.stage hlex (hstep h hs) rfl
      exact ⟨t₂, .head hs hreach, hend⟩

/-! ## 2. Activities that follow rules -/

/-- Every activity still going follows its rule from its situation on. -/
def Following (rule : ι → Rule Request.Reply Γ) (ending : ι → Γ → α → Prop) (t : Team ι α)
    (g : ι → Γ) : Prop :=
  ∀ i p, t.stage i = .going p → p.Follows (rule i) (ending i) (g i)

/-- A step of a team whose activities follow rules, as it looks through the rules alone. -/
inductive Move (who : ι → Actor) (elsewhere : Cluster → Cluster → Prop)
    (rule : ι → Rule Request.Reply Γ) : Team ι α → (ι → Γ) → Team ι α → (ι → Γ) → Prop
  | exchange {t : Team ι α} {g : ι → Γ} {i : ι} {r : Request} {next : r.Reply → Handler α}
      {c : Cluster} {reply : r.Reply} {g' : Γ} (turn : t.stage i = .going (.ask r next))
      (answered : t.cluster.answer (who i) r = (c, some reply)) (admitted : c.Admits (who i) r)
      (follows : rule i (g i) r reply g') :
      Move who elsewhere rule t g
        ⟨c, Function.update t.stage i (.going (next reply)), t.trace ++ [(i, ⟨r, reply⟩)]⟩
        (Function.update g i g')
  | wait {t : Team ι α} {g : ι → Γ} {i : ι} {r : Request} {next : r.Reply → Handler α}
      {c : Cluster} {reply : r.Reply} {g' : Γ} (turn : t.stage i = .going (.ask r next))
      (answered : t.cluster.answer (who i) r = (c, some reply)) (refused : ¬ c.Admits (who i) r)
      (follows : rule i (g i) r reply g') : Move who elsewhere rule t g { t with cluster := c } g
  | stop {t : Team ι α} {g : ι → Γ} {i : ι} {r : Request} {next : r.Reply → Handler α}
      {c : Cluster} (turn : t.stage i = .going (.ask r next))
      (answered : t.cluster.answer (who i) r = (c, none))
      (follows : ∀ reply, ∃ g', rule i (g i) r reply g') :
      Move who elsewhere rule t g
        ⟨{ c with locks := c.locks.withdraw (who i).activity },
          Function.update t.stage i .stopped, t.trace⟩ g
  | elsewhere {t : Team ι α} {g : ι → Γ} {c : Cluster} (happened : elsewhere t.cluster c) :
      Move who elsewhere rule t g { t with cluster := c } g

theorem Move.mono (h : ∀ c c', elsewhere c c' → more c c') {rule : ι → Rule Request.Reply Γ}
    {t t' : Team ι α} {g g' : ι → Γ} (hm : Move who elsewhere rule t g t' g') :
    Move who more rule t g t' g' := by
  cases hm with
  | exchange turn answered admitted follows => exact .exchange turn answered admitted follows
  | wait turn answered refused follows => exact .wait turn answered refused follows
  | stop turn answered follows => exact .stop turn answered follows
  | elsewhere happened => exact .elsewhere (h _ _ happened)

/-- A request of a rule that asks for nothing that takes time stops nobody. -/
theorem not_stopped {rule : Rule Request.Reply Γ}
    {γ : Γ} {r : Request} (follows : ∀ reply, ∃ γ', rule γ r reply γ')
    (timeless : ∀ {γ r reply γ'}, rule γ r reply γ' → .clock ∉ r.parts) {c c' : Cluster}
    {a : Actor} : c.answer a r ≠ (c', none) := by
  intro answered
  obtain ⟨reply⟩ := r.reply_nonempty
  obtain ⟨γ', hr⟩ := follows reply
  exact timeless hr (Cluster.clock_of_none answered)

/-- A team that asks for nothing that takes time goes on. -/
theorem Move.going {rule : ι → Rule Request.Reply Γ} {t t' : Team ι α} {g g' : ι → Γ}
    (timeless : ∀ {i γ r reply γ'}, rule i γ r reply γ' → .clock ∉ r.parts)
    (h : ∀ i, t.stage i ≠ .stopped) (hm : Move who elsewhere rule t g t' g') :
    ∀ i, t'.stage i ≠ .stopped := by
  cases hm with
  | @exchange i r next c reply γ turn answered admitted follows =>
    exact (Function.forall_update_iff t.stage fun _ s => s ≠ .stopped).2 ⟨by simp, fun j _ => h j⟩
  | wait | elsewhere => exact h
  | stop turn answered follows => exact absurd answered (not_stopped follows timeless)

theorem Following.step {rule : ι → Rule Request.Reply Γ} {ending : ι → Γ → α → Prop}
    {t t' : Team ι α} {g : ι → Γ} (h : t.Following rule ending g) (hs : Step who elsewhere t t') :
    ∃ g', Move who elsewhere rule t g t' g' ∧ t'.Following rule ending g' := by
  cases hs with
  | @exchange i r next c reply turn answered admitted =>
    obtain ⟨g', hg, hn⟩ := (h i _ turn).ask reply
    refine ⟨_, .exchange turn answered admitted hg, fun j p hp => ?_⟩
    by_cases hj : j = i
    · subst hj
      simp only [Function.update_self, Stage.going.injEq] at hp ⊢
      exact hp ▸ hn
    · simp only [ne_eq, hj, not_false_eq_true, Function.update_of_ne] at hp ⊢
      exact h j p hp
  | @wait i r next c reply turn answered refused =>
    -- The request is made again, so the situation stays.
    obtain ⟨g', hg, -⟩ := (h i _ turn).ask reply
    exact ⟨g, .wait turn answered refused hg, h⟩
  | @stop i r next c turn answered =>
    refine ⟨g, .stop turn answered fun reply => ?_, fun j p hp => ?_⟩
    · obtain ⟨g', hg, -⟩ := (h i _ turn).ask reply
      exact ⟨g', hg⟩
    · by_cases hj : j = i
      · subst hj
        simp at hp
      · simp only [ne_eq, hj, not_false_eq_true, Function.update_of_ne] at hp
        exact h j p hp
  | elsewhere happened => exact ⟨g, .elsewhere happened, h⟩

/-- What every move keeps holds, of some situations, wherever a team can get. -/
theorem Reaches.keeps_following {rule : ι → Rule Request.Reply Γ} {ending : ι → Γ → α → Prop}
    {P : Team ι α → (ι → Γ) → Prop} {t₀ t : Team ι α} {g₀ : ι → Γ}
    (h : Reaches who elsewhere t₀ t) (h₀ : P t₀ g₀) (hf₀ : t₀.Following rule ending g₀)
    (hmove : ∀ {t t' g g'}, P t g → t'.Following rule ending g' →
      Move who elsewhere rule t g t' g' → P t' g') :
    ∃ g, P t g ∧ t.Following rule ending g := by
  induction h with
  | refl => exact ⟨g₀, h₀, hf₀⟩
  | tail _ hs ih =>
    obtain ⟨g, hp, hf⟩ := ih
    obtain ⟨g', hm, hf'⟩ := hf.step hs
    exact ⟨g', hmove hp hf' hm, hf'⟩

end

end Team

end ClusterKeeper
