import ClusterKeeper.Proofs.Interleaving
import Mathlib.Data.List.Forall2

/-!
# `Proofs/Scheduling.lean` — turns are steps of a team

Of the orders in which the activities of a team can be interleaved, `Cluster.runAll` takes one: on
its single thread an activity goes on until it suspends itself. So whatever holds wherever a team
can get, or where it has come to its end, holds of what `runAll` comes to (`runAll_reaches`).

A turn is followed request by request (`turn_reaches`), a round activity by activity, and the rounds
one by one.
-/

set_option autoImplicit false

namespace ClusterKeeper

namespace Activity

variable {α : Type}

def rest : Activity α → Handler α
  | finished x => .done x
  | suspended p _ => p

end Activity

namespace Team

variable {ι α : Type} [DecidableEq ι] {who : ι → Actor} {elsewhere : Cluster → Cluster → Prop}
  {t : Team ι α} {c' : Cluster}

/-! ## 1. A turn -/

/-- The team can get to where this is the cluster, and this is left of one activity. -/
def Turned (who : ι → Actor) (elsewhere : Cluster → Cluster → Prop) (t : Team ι α) (i : ι)
    (c' : Cluster) (rest : Handler α) : Prop :=
  ∃ t', Reaches who elsewhere t t' ∧ t'.cluster = c' ∧
    t'.stage = Function.update t.stage i (.going rest)

theorem Turned.refl {i : ι} {p : Handler α} (hp : t.stage i = .going p) :
    Turned who elsewhere t i t.cluster p := by
  refine ⟨t, .refl, rfl, ?_⟩
  rw [← hp, Function.update_eq_self]

theorem Turned.head {i : ι} {r : Request} {next : r.Reply → Handler α} {c : Cluster}
    {reply : r.Reply} {rest : Handler α} (turn : t.stage i = .going (.ask r next))
    (answered : t.cluster.answer (who i) r = (c, some reply)) (admitted : c.Admits (who i) r)
    (h : Turned who elsewhere
      ⟨c, Function.update t.stage i (.going (next reply)), t.trace ++ [(i, ⟨r, reply⟩)]⟩ i c' rest) :
    Turned who elsewhere t i c' rest := by
  obtain ⟨t', hreach, hcluster, hstage⟩ := h
  refine ⟨t', .head (.exchange turn answered admitted) hreach, hcluster, ?_⟩
  rw [hstage, Function.update_idem]

/-- These are the activities of a pool, as far as they have come. -/
def Pooled (who : ι → Actor) (t : Team ι α) : List ι → List (Actor × Activity α) → Prop :=
  List.Forall₂ fun i x => who i = x.1 ∧ t.stage i = .going x.2.rest

omit [DecidableEq ι] in
theorem Pooled.congr {t' : Team ι α} {ids : List ι} {pool : List (Actor × Activity α)}
    (h : Pooled who t ids pool) (hstage : ∀ i ∈ ids, t'.stage i = t.stage i) :
    Pooled who t' ids pool := by
  induction h with
  | nil => exact .nil
  | cons hx _ ih =>
    refine .cons ⟨hx.1, (hstage _ (.head _)).trans hx.2⟩ (ih fun i hi => ?_)
    exact hstage i (.tail _ hi)

end Team

open Team

namespace Cluster

variable {ι α : Type} [DecidableEq ι] {who : ι → Actor} {elsewhere : Cluster → Cluster → Prop}
  {t : Team ι α} {c' : Cluster}

/-- A turn goes on after a request, unless the activity suspends itself there. -/
def GoesOn (admitted : Bool) : Request → Prop
  | .acquire _ | .sleep _ => False
  | .startTask _ => admitted = true
  | _ => True

theorem turn_of_goesOn {a : Actor} {r : Request} {next : r.Reply → Handler α} {admitted : Bool}
    {c : Cluster} {activity : Activity α} (hr : GoesOn admitted r)
    (h : turn a (.ask r next) admitted c = (c', some activity)) :
    ∃ d reply, c.answer a r = (d, some reply) ∧
      turn a (next reply) false d = (c', some activity) := by
  cases ha : c.answer a r with
  | mk d reply =>
    cases r with
    | acquire name => exact hr.elim
    | sleep d => exact hr.elim
    | startTask task =>
      obtain rfl : admitted = true := hr
      rw [turn, ha] at h
      · cases reply with
        | none => cases h
        | some reply => exact ⟨d, reply, rfl, h⟩
      all_goals simp
    | _ =>
      rw [turn, ha] at h
      · cases reply with
        | none => cases h
        | some reply => exact ⟨d, reply, rfl, h⟩
      all_goals simp

theorem turn_reaches {i : ι} {p : Handler α} (hp : t.stage i = .going p) {admitted : Bool}
    {activity : Activity α} (h : turn (who i) p admitted t.cluster = (c', some activity)) :
    Turned who elsewhere t i c' activity.rest := by
  induction p generalizing t admitted with
  | done x =>
    cases h
    exact .refl hp
  | ask r next ih =>
    have hgo : GoesOn admitted r → (∀ c : Cluster, c.Admits (who i) r) →
        Turned who elsewhere t i c' activity.rest := by
      intro hr hadmits
      obtain ⟨c, reply, ha, hturn⟩ := turn_of_goesOn hr h
      exact .head hp ha (hadmits c) (ih reply (Function.update_self ..) hturn)
    cases r with
    | acquire name =>
      rw [turn] at h
      split at h
      · next hpass => exact .head hp rfl hpass (ih () (Function.update_self ..) h)
      · next hwait =>
        -- The claim is made, and the turn is over.
        cases h
        refine ⟨_, .single (.wait hp rfl hwait), rfl, ?_⟩
        show t.stage = Function.update t.stage i (.going (.ask (.acquire name) next))
        rw [← hp, Function.update_eq_self]
    | sleep d =>
      rw [turn] at h
      cases ha : t.cluster.answer (who i) (.sleep d) with
      | mk c reply =>
        rw [ha] at h
        cases reply with
        | none => cases h
        | some reply =>
          cases h
          exact .head hp ha trivial (.refl (Function.update_self ..))
    | startTask task =>
      cases admitted with
      | false =>
        cases h
        exact .refl hp
      | true => exact hgo rfl fun _ => trivial
    | _ => exact hgo trivial fun _ => trivial

/-! ## 2. Rounds -/

theorem round_reaches {ids : List ι} {pool pool' : List (Actor × Activity α)}
    (h : Pooled who t ids pool) (hids : ids.Nodup) (hround : round pool t.cluster = (c', some pool')) :
    ∃ t', Reaches who elsewhere t t' ∧ t'.cluster = c' ∧ Pooled who t' ids pool' ∧
      ∀ j, j ∉ ids → t'.stage j = t.stage j := by
  induction pool generalizing ids t pool' with
  | nil =>
    cases h
    cases hround
    exact ⟨t, .refl, rfl, .nil, fun _ _ => rfl⟩
  | cons x pool ih =>
    obtain ⟨a, activity⟩ := x
    cases h with
    | @cons i _ ids _ hx hrest =>
      obtain ⟨rfl, hstage⟩ := hx
      obtain ⟨hi, hids⟩ := List.nodup_cons.1 hids
      -- Once the first activity has had its turn, the round goes on with the others.
      have hgo : ∀ c activity, Turned who elsewhere t i c activity.rest →
          ((round pool c).1, (round pool c).2.map ((who i, activity) :: ·)) = (c', some pool') →
          ∃ t', Reaches who elsewhere t t' ∧ t'.cluster = c' ∧ Pooled who t' (i :: ids) pool' ∧
            ∀ j, j ∉ i :: ids → t'.stage j = t.stage j := by
        rintro c activity ⟨t₁, hreach₁, rfl, hstage₁⟩ hround
        have hrest₁ : Pooled who t₁ ids pool := by
          refine Pooled.congr hrest fun j hj => ?_
          have hji : j ≠ i := by
            rintro rfl
            exact hi hj
          rw [hstage₁, Function.update_of_ne hji]
        cases hr : round pool t₁.cluster with
        | mk c rest =>
          rw [hr] at hround
          cases rest with
          | none => cases hround
          | some rest =>
            cases hround
            obtain ⟨t', hreach, hc, hpool, hothers⟩ := ih hrest₁ hids hr
            refine ⟨t', hreach₁.trans hreach, hc, .cons ⟨rfl, ?_⟩ hpool, fun j hj => ?_⟩
            · rw [hothers i hi, hstage₁, Function.update_self]
            · obtain ⟨hji, hj⟩ := not_or.1 (mt List.mem_cons.2 hj)
              rw [hothers j hj, hstage₁, Function.update_of_ne hji]
      cases activity with
      | finished x => exact hgo t.cluster (.finished x) (.refl hstage) hround
      | suspended p admitted =>
        rw [round] at hround
        cases hturn : turn (who i) p admitted t.cluster with
        | mk c activity =>
          rw [hturn] at hround
          cases activity with
          | none => cases hround
          | some activity => exact hgo c activity (turn_reaches hstage hturn) hround

omit [DecidableEq ι] in
theorem over_of_results {ids : List ι} {pool : List (Actor × Activity α)} {results : List α}
    (h : Pooled who t ids pool) (hresults : results? pool = some results) :
    List.Forall₂ (fun i x => t.Over i (some x)) ids results := by
  induction h generalizing results with
  | nil =>
    cases hresults
    exact .nil
  | @cons i x ids pool hx _ ih =>
    obtain ⟨a, activity⟩ := x
    cases activity with
    | suspended p admitted => cases hresults
    | finished y =>
      rw [results?, List.mapM_cons] at hresults
      cases hrest : results? pool with
      | none =>
        rw [← results?, hrest] at hresults
        cases hresults
      | some rest =>
        rw [← results?, hrest] at hresults
        cases hresults
        exact .cons hx.2 (ih hrest)

/-- Rounds that come to results are steps of the team to its end, with these results. -/
theorem rounds_reaches {ids : List ι} (hids : ids.Nodup) {limit : Nat}
    {pool : List (Actor × Activity α)} {results : List α} (h : Pooled who t ids pool)
    (hrounds : rounds limit pool t.cluster = (c', some results)) :
    ∃ t', Reaches who elsewhere t t' ∧ t'.cluster = c' ∧
      List.Forall₂ (fun i x => t'.Over i (some x)) ids results := by
  induction limit generalizing t pool with
  | zero => cases hrounds
  | succ limit ih =>
    rw [rounds] at hrounds
    cases hresults : results? pool with
    | some results' =>
      rw [hresults] at hrounds
      cases hrounds
      exact ⟨t, .refl, rfl, over_of_results h hresults⟩
    | none =>
      rw [hresults] at hrounds
      cases hround : round pool t.cluster with
      | mk c pool' =>
        rw [hround] at hrounds
        cases pool' with
        | none => cases hrounds
        | some pool' =>
          obtain ⟨t₁, hreach₁, rfl, hpool, -⟩ := round_reaches h hids hround
          obtain ⟨t', hreach, hend⟩ := ih hpool hrounds
          exact ⟨t', hreach₁.trans hreach, hend⟩

/-- What activities come to side by side, the team of them can come to. -/
theorem runAll_reaches {activities : List (Actor × Handler α)} {c : Cluster} {results : List α}
    (h : runAll activities c = (c', some results)) :
    ∃ t', Reaches (fun i => (activities.get i).1) nothing
        (Team.start c fun i => (activities.get i).2) t' ∧ t'.cluster = c' ∧
      List.Forall₂ (fun i x => t'.Over i (some x)) (List.finRange activities.length) results := by
  refine rounds_reaches (List.nodup_finRange _) ?_ h
  refine List.forall₂_iff_get.2 ⟨by simp, fun i h₁ h₂ => ?_⟩
  simp [Team.start, Activity.rest]

end Cluster

end ClusterKeeper
