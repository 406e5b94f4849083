import ClusterKeeper.Proofs.Interleaving

/-!
# `Proofs/Locking.lean` — one lock, many activities

Activities that take and give up one kind of lock by turns, and end without it, follow the rule
`LockRule`. Of a team of such activities, whatever else their rules say, this file shows that

* an activity that has the lock is the oldest claimant, so no two have the same lock
  (`LockOrder.exclusive`);
* somebody can always go on (`LockOrder.canGo`): whoever waits waits for an activity that does not.
  So the activities can always come to their end (`LockOrder.reaches_finished`).

`LockOrder` is the invariant: the claims on each lock are those of the activity that has it and of
activities at its door.
-/

set_option autoImplicit false

namespace ClusterKeeper

/-! ## 1. Lock tables, lock by lock -/

namespace LockTable

/-- The claims on one lock, the oldest first. -/
def queue (t : LockTable) (key : LockKey) : List LockClaim := t.filter (·.key = key)

theorem holder?_eq (t : LockTable) (key : LockKey) :
    t.holder? key = (t.queue key).head?.map (·.activity) := by
  simp [holder?, queue, List.head?_filter]

theorem key_of_mem_queue {t : LockTable} {key : LockKey} {x : LockClaim} (h : x ∈ t.queue key) :
    x.key = key := by
  simpa using (List.mem_filter.1 h).2

theorem mem_queue {t : LockTable} {x : LockClaim} : x ∈ t.queue x.key ↔ x ∈ t := by
  simp [queue]

theorem queue_claim (t : LockTable) (key k : LockKey) (activity : Nat) :
    (t.claim key activity).queue k =
      if k = key ∧ ⟨key, activity⟩ ∉ t then t.queue k ++ [⟨key, activity⟩] else t.queue k := by
  unfold claim
  by_cases hm : (⟨key, activity⟩ : LockClaim) ∈ t
  · simp [hm]
  · by_cases hk : k = key
    · simp [hm, hk, queue, List.filter_append]
    · simp [hm, hk, queue, List.filter_append, Ne.symm hk]

theorem head?_queue_claim {t : LockTable} {key k : LockKey} {activity : Nat} {x : LockClaim}
    (h : (t.queue k).head? = some x) : ((t.claim key activity).queue k).head? = some x := by
  rw [queue_claim]
  split
  · rw [List.head?_append, h, Option.some_or]
  · exact h

theorem nodup_queue_claim {t : LockTable} {key k : LockKey} {activity : Nat}
    (h : (t.queue k).Nodup) : ((t.claim key activity).queue k).Nodup := by
  rw [queue_claim]
  split
  · next hk =>
    obtain ⟨rfl, hm⟩ := hk
    exact List.nodup_append.2 ⟨h, by simp, by
      rintro x hx y hy rfl
      cases List.mem_singleton.1 hy
      exact hm (mem_queue (x := ⟨k, activity⟩).1 hx)⟩
  · exact h

theorem mem_queue_claim {t : LockTable} {key k : LockKey} {activity : Nat} {x : LockClaim}
    (h : x ∈ (t.claim key activity).queue k) : x ∈ t.queue k ∨ x = ⟨key, activity⟩ := by
  rw [queue_claim] at h
  split at h
  · simpa using h
  · exact .inl h

theorem queue_release_of_ne {t : LockTable} {key k : LockKey} {activity : Nat} (h : k ≠ key) :
    (t.release key activity).queue k = t.queue k := by
  unfold release queue
  induction t with
  | nil => rfl
  | cons x t ih =>
    by_cases hx : x = ⟨key, activity⟩
    · subst hx
      rw [List.erase_cons_head, List.filter_cons_of_neg (by simpa using Ne.symm h)]
    · rw [List.erase_cons_tail (by simpa using hx), List.filter_cons, List.filter_cons, ih]

theorem queue_release {t : LockTable} {key : LockKey} {activity : Nat} :
    (t.release key activity).queue key = (t.queue key).erase ⟨key, activity⟩ := by
  unfold release queue
  induction t with
  | nil => rfl
  | cons x t ih =>
    by_cases hx : x = ⟨key, activity⟩
    · subst hx
      rw [List.erase_cons_head, List.filter_cons_of_pos (by simp), List.erase_cons_head]
    · rw [List.erase_cons_tail (by simpa using hx), List.filter_cons, List.filter_cons, ih]
      split
      · rw [List.erase_cons_tail (by simpa using hx)]
      · rfl

theorem queue_withdraw {t : LockTable} {key : LockKey} {activity : Nat} :
    (t.withdraw activity).queue key = (t.queue key).filter fun x => x.activity ≠ activity := by
  simp only [queue, withdraw, List.filter_filter, Bool.and_comm]

end LockTable

/-! ## 2. The rule -/

/-- By turns the lock is taken and given up; between, no lock is asked for. -/
inductive LockRule (name : LockName) : Rule Request.Reply Bool
  | acquire : LockRule name false (.acquire name) () true
  | release : LockRule name true (.release name) () false
  | other {held : Bool} {r : Request} {reply : r.Reply} (h : .locks ∉ r.parts) :
      LockRule name held r reply held

/-- A request by this rule passes, whatever the claims are, unless it is for the lock. -/
theorem LockRule.admits_or_acquire {name : LockName} {held held' : Bool} {r : Request}
    {reply : r.Reply} (h : LockRule name held r reply held') :
    (∀ (c : Cluster) (a : Actor), c.Admits a r) ∨ r = .acquire name := by
  cases h with
  | acquire => exact .inr rfl
  | release => exact .inl fun c a => trivial
  | other hparts =>
    refine .inl fun c a => ?_
    cases r with
    | acquire nm => simp [Request.parts] at hparts
    | _ => trivial

/-- Whoever has the lock asks for none. -/
theorem LockRule.admits {name : LockName} {held' : Bool} {r : Request} {reply : r.Reply}
    (h : LockRule name true r reply held') (c : Cluster) (a : Actor) : c.Admits a r := by
  rcases h.admits_or_acquire with hadmits | rfl
  · exact hadmits c a
  · cases h with
    | other hparts => simp [Request.parts] at hparts

namespace Cluster

theorem answer_none {c c' : Cluster} {a : Actor} {r : Request} (h : c.answer a r = (c', none)) :
    .locks ∉ r.parts := by
  cases r <;> simp_all [answer, replied, Request.parts]

theorem holds_iff {c : Cluster} {a : Actor} {name : LockName} :
    c.holds a name = true ↔
      (c.locks.queue (a.lockKey name)).head? = some ⟨a.lockKey name, a.activity⟩ := by
  rw [holds, LockTable.holder?_eq, decide_eq_true_iff, Option.map_eq_some_iff]
  constructor
  · rintro ⟨x, hx, ha⟩
    have hk := LockTable.key_of_mem_queue (List.mem_of_mem_head? hx)
    cases x
    cases hk
    cases ha
    exact hx
  · intro h
    exact ⟨_, h, rfl⟩

end Cluster

/-! ## 3. The order of claims -/

namespace Team

variable {ι α Γ : Type} (who : ι → Actor) (name : LockName)

def key (i : ι) : LockKey := (who i).lockKey name

def claim (i : ι) : LockClaim := ⟨key who name i, (who i).activity⟩

/-- The activity has come to the lock and has not passed. -/
def AtDoor (t : Team ι α) (i : ι) : Prop := ∃ next, t.stage i = .going (.ask (.acquire name) next)

/-- The activity has the lock and has not stopped. -/
def Inside (t : Team ι α) (held : ι → Bool) (i : ι) : Prop :=
  held i = true ∧ ∃ p, t.stage i = .going p

/-- The claims on every lock of the team: those inside come first, and each once. -/
structure LockOrder (t : Team ι α) (held : ι → Bool) : Prop where
  first : ∀ i, t.Inside held i →
    (t.cluster.locks.queue (key who name i)).head? = some (claim who name i)
  nodup : ∀ i, (t.cluster.locks.queue (key who name i)).Nodup
  claimant : ∀ i, ∀ x ∈ t.cluster.locks.queue (key who name i),
    ∃ j, x = claim who name j ∧ (t.Inside held j ∨ t.AtDoor name j)

variable {who name}

theorem LockOrder.start {c : Cluster} {activity : ι → Handler α}
    (h : ∀ i, c.locks.queue (key who name i) = []) {held : ι → Bool} (hout : ∀ i, held i = false) :
    LockOrder who name (Team.start c activity) held where
  first i hi := absurd hi.1 (by simp [hout i])
  nodup i := by simp [Team.start, h i]
  claimant i x hx := by simp [Team.start, h i] at hx

theorem claim_inj (hwho : Function.Injective fun i => (who i).activity) {i j : ι}
    (h : claim who name i = claim who name j) : i = j :=
  hwho (congrArg LockClaim.activity h)

theorem LockOrder.exclusive (hwho : Function.Injective fun i => (who i).activity) {t : Team ι α}
    {held : ι → Bool} (h : LockOrder who name t held) {i j : ι} (hi : t.Inside held i)
    (hj : t.Inside held j) (hk : key who name i = key who name j) : i = j := by
  have first := h.first i hi
  rw [hk, h.first j hj] at first
  exact (claim_inj hwho (Option.some.inj first)).symm

section
variable [DecidableEq ι] {elsewhere : Cluster → Cluster → Prop} {rule : ι → Rule Request.Reply Γ}

/-- What keeps the order of claims elsewhere: the claims on the team's locks stay. -/
def KeepsClaims (who : ι → Actor) (name : LockName) (c c' : Cluster) : Prop :=
  ∀ i, c'.locks.queue (key who name i) = c.locks.queue (key who name i)

section
variable {t t' : Team ι α} {held : ι → Bool} {i j : ι} {s : Stage α} {p : Handler α}

theorem inside_of_ne {b : Bool} (hstage : t'.stage = Function.update t.stage i s) (hj : j ≠ i) :
    t'.Inside (Function.update held i b) j ↔ t.Inside held j := by
  simp [Inside, hstage, Function.update_of_ne hj]

theorem atDoor_of_ne (hstage : t'.stage = Function.update t.stage i s) (hj : j ≠ i) :
    t'.AtDoor name j ↔ t.AtDoor name j := by
  simp [AtDoor, hstage, Function.update_of_ne hj]

/-- The oldest claimant goes in. -/
theorem LockOrder.acquire (h : LockOrder who name t held)
    (hstage : t'.stage = Function.update t.stage i (.going p))
    (hlocks : t'.cluster.locks = t.cluster.locks.claim (key who name i) (who i).activity)
    (hpass : t'.cluster.holds (who i) name = true) :
    LockOrder who name t' (Function.update held i true) := by
  have hin : t'.Inside (Function.update held i true) i := by simp [Inside, hstage]
  constructor
  case first =>
    intro j hj
    by_cases hji : j = i
    · subst hji
      exact Cluster.holds_iff.1 hpass
    · rw [hlocks]
      exact LockTable.head?_queue_claim (h.first j ((inside_of_ne hstage hji).1 hj))
  case nodup =>
    intro j
    rw [hlocks]
    exact LockTable.nodup_queue_claim (h.nodup j)
  case claimant =>
    intro j x hx
    rw [hlocks] at hx
    rcases LockTable.mem_queue_claim hx with hx | rfl
    · -- An old claim may be the activity's own, made while it waited.
      obtain ⟨k, rfl, hk⟩ := h.claimant j x hx
      by_cases hki : k = i
      · subst hki
        exact ⟨k, rfl, .inl hin⟩
      · exact ⟨k, rfl, hk.imp (inside_of_ne hstage hki).2 (atDoor_of_ne hstage hki).2⟩
    · exact ⟨i, rfl, .inl hin⟩

omit [DecidableEq ι] in
theorem LockOrder.refused (h : LockOrder who name t held) (hstage : t'.stage = t.stage)
    (hlocks : t'.cluster.locks = t.cluster.locks.claim (key who name i) (who i).activity)
    (hdoor : t.AtDoor name i) : LockOrder who name t' held := by
  have hin : ∀ j, t'.Inside held j ↔ t.Inside held j := fun j => by rw [Inside, Inside, hstage]
  have hat : ∀ j, t'.AtDoor name j ↔ t.AtDoor name j := fun j => by rw [AtDoor, AtDoor, hstage]
  constructor
  case first =>
    intro j hj
    rw [hlocks]
    exact LockTable.head?_queue_claim (h.first j ((hin j).1 hj))
  case nodup =>
    intro j
    rw [hlocks]
    exact LockTable.nodup_queue_claim (h.nodup j)
  case claimant =>
    intro j x hx
    rw [hlocks] at hx
    rcases LockTable.mem_queue_claim hx with hx | rfl
    · obtain ⟨k, rfl, hk⟩ := h.claimant j x hx
      exact ⟨k, rfl, hk.imp (hin k).2 (hat k).2⟩
    · exact ⟨i, rfl, .inr ((hat i).2 hdoor)⟩

/-- The activity inside goes out, and all others keep their places. -/
theorem LockOrder.release (h : LockOrder who name t held)
    (hwho : Function.Injective fun i => (who i).activity) (hi : t.Inside held i)
    (hstage : t'.stage = Function.update t.stage i s)
    (hlocks : t'.cluster.locks = t.cluster.locks.release (key who name i) (who i).activity) :
    LockOrder who name t' (Function.update held i false) := by
  -- The claims that are left on any lock are old ones, of other activities.
  have hold : ∀ j x, x ∈ t'.cluster.locks.queue (key who name j) →
      x ∈ t.cluster.locks.queue (key who name j) ∧ x ≠ claim who name i := by
    intro j x hx
    rw [hlocks] at hx
    by_cases hk : key who name j = key who name i
    · rw [hk, LockTable.queue_release] at hx
      obtain ⟨hne, hx⟩ := (h.nodup i).mem_erase_iff.1 hx
      exact ⟨hk ▸ hx, hne⟩
    · rw [LockTable.queue_release_of_ne hk] at hx
      refine ⟨hx, ?_⟩
      rintro rfl
      exact hk (LockTable.key_of_mem_queue hx).symm
  constructor
  case first =>
    intro j hj
    have hji : j ≠ i := by
      rintro rfl
      simp [Inside] at hj
    rw [inside_of_ne hstage hji] at hj
    -- Two activities inside have different locks, so the one given up is not that of the other.
    have hk : key who name j ≠ key who name i := fun hk => hji (h.exclusive hwho hj hi hk)
    rw [hlocks, LockTable.queue_release_of_ne hk]
    exact h.first j hj
  case nodup =>
    intro j
    rw [hlocks]
    by_cases hk : key who name j = key who name i
    · rw [hk, LockTable.queue_release]
      exact (h.nodup i).erase _
    · rw [LockTable.queue_release_of_ne hk]
      exact h.nodup j
  case claimant =>
    intro j x hx
    obtain ⟨hx, hne⟩ := hold j x hx
    obtain ⟨k, rfl, hk⟩ := h.claimant j x hx
    have hki : k ≠ i := fun e => hne (e ▸ rfl)
    exact ⟨k, rfl, hk.imp (inside_of_ne hstage hki).2 (atDoor_of_ne hstage hki).2⟩

theorem LockOrder.other (h : LockOrder who name t held)
    (hstage : t'.stage = Function.update t.stage i (.going p))
    (hlocks : t'.cluster.locks = t.cluster.locks) (hgoing : ∃ q, t.stage i = .going q)
    (hdoor : ¬ t.AtDoor name i) : LockOrder who name t' held := by
  have hin : ∀ j, t'.Inside held j ↔ t.Inside held j := by
    intro j
    by_cases hji : j = i
    · subst hji
      simp [Inside, hstage, hgoing]
    · simp [Inside, hstage, Function.update_of_ne hji]
  refine ⟨fun j hj => hlocks ▸ h.first j ((hin j).1 hj), fun j => hlocks ▸ h.nodup j,
    fun j x hx => ?_⟩
  obtain ⟨k, rfl, hk⟩ := h.claimant j x (hlocks ▸ hx)
  refine ⟨k, rfl, hk.imp (hin k).2 fun hd => (atDoor_of_ne hstage ?_).2 hd⟩
  rintro rfl
  exact hdoor hd

/-- An activity stops, wherever it is but at the door. -/
theorem LockOrder.stop (h : LockOrder who name t held)
    (hwho : Function.Injective fun i => (who i).activity)
    (hstage : t'.stage = Function.update t.stage i .stopped)
    (hlocks : t'.cluster.locks = t.cluster.locks.withdraw (who i).activity) :
    LockOrder who name t' held := by
  have hne : ∀ {j}, t'.Inside held j → j ≠ i := by
    rintro j ⟨-, p, hp⟩ rfl
    simp [hstage] at hp
  have hin : ∀ {j}, j ≠ i → (t'.Inside held j ↔ t.Inside held j) := fun hji => by
    simp [Inside, hstage, Function.update_of_ne hji]
  constructor
  case first =>
    intro j hj
    -- The oldest claim is not one of those given up.
    have first := h.first j ((hin (hne hj)).1 hj)
    rw [hlocks, LockTable.queue_withdraw, List.head?_filter]
    cases hq : t.cluster.locks.queue (key who name j) with
    | nil => simp [hq] at first
    | cons x xs =>
      rw [hq, List.head?_cons, Option.some.injEq] at first
      subst first
      rw [List.find?_cons_of_pos]
      exact decide_eq_true fun e => hne hj (hwho e)
  case nodup =>
    intro j
    rw [hlocks, LockTable.queue_withdraw]
    exact (h.nodup j).filter _
  case claimant =>
    intro j x hx
    rw [hlocks, LockTable.queue_withdraw, List.mem_filter, decide_eq_true_iff] at hx
    obtain ⟨k, rfl, hk⟩ := h.claimant j x hx.1
    have hki : k ≠ i := fun e => hx.2 (e ▸ rfl)
    exact ⟨k, rfl, hk.imp (hin hki).2 (atDoor_of_ne hstage hki).2⟩

end

theorem LockOrder.move (hwho : Function.Injective fun i => (who i).activity) (view : Γ → Bool)
    (hrule : ∀ {i g r reply g'}, rule i g r reply g' → LockRule name (view g) r reply (view g'))
    (helse : ∀ {c c'}, elsewhere c c' → KeepsClaims who name c c') {t t' : Team ι α}
    {g g' : ι → Γ} (h : LockOrder who name t (view ∘ g)) (hm : Move who elsewhere rule t g t' g') :
    LockOrder who name t' (view ∘ g') := by
  cases hm with
  | @exchange i r next c reply g' turn answered admitted follows =>
    have hr := hrule follows
    rw [Function.comp_update]
    generalize hb : view (g i) = b, view g' = b' at hr ⊢
    cases hr with
    | acquire =>
      cases answered
      exact h.acquire rfl rfl admitted
    | release =>
      cases answered
      exact h.release hwho ⟨hb, _, turn⟩ rfl rfl
    | other hparts =>
      have hlocks : c.locks = t.cluster.locks := Cluster.answered_locks answered hparts
      rw [← hb, show view (g i) = (view ∘ g) i from rfl, Function.update_eq_self]
      refine h.other rfl hlocks ⟨_, turn⟩ ?_
      rintro ⟨_, hd⟩
      rw [turn] at hd
      cases hd
      simp [Request.parts] at hparts
  | @wait i r next c reply g' turn answered refused follows =>
    obtain ⟨nm, rfl, rfl⟩ := Cluster.of_refused answered refused
    have hr := hrule follows
    generalize view (g i) = b, view g' = b' at hr
    cases hr with
    | acquire => exact h.refused rfl rfl ⟨next, turn⟩
    | other hparts => simp [Request.parts] at hparts
  | @stop i r next c turn answered follows =>
    have hlocks : c.locks = t.cluster.locks :=
      Cluster.answered_locks answered (Cluster.answer_none answered)
    exact h.stop hwho rfl (congrArg (·.withdraw (who i).activity) hlocks)
  | @elsewhere c happened =>
    have hlocks := helse happened
    exact ⟨fun j hj => hlocks j ▸ h.first j hj, fun j => hlocks j ▸ h.nodup j,
      fun j x hx => h.claimant j x (hlocks j ▸ hx)⟩

/-! ## 4. Somebody can go on -/

/-- An activity makes an exchange, or stops. -/
def Goes (who : ι → Actor) (t : Team ι α) : Prop :=
  ∃ t' i s, Step who nothing t t' ∧ t'.stage = Function.update t.stage i s ∧ Later s (t.stage i)

theorem goes_of_admits {t : Team ι α} {i : ι} {r : Request} {next : r.Reply → Handler α}
    (turn : t.stage i = .going (.ask r next))
    (h : (t.cluster.answer (who i) r).1.Admits (who i) r) : t.Goes who := by
  cases hc : t.cluster.answer (who i) r with
  | mk c reply =>
    cases reply with
    | none => exact ⟨_, i, _, .stop turn hc, rfl, turn ▸ .stop⟩
    | some reply =>
      rw [hc] at h
      exact ⟨_, i, _, .exchange turn hc h, rfl, turn ▸ .next reply⟩

/-- An activity at its door goes on as soon as its claim is the oldest. -/
theorem AtDoor.goes {t : Team ι α} {i : ι} (h : t.AtDoor name i)
    (hfirst : ((t.cluster.locks.claim (key who name i) (who i).activity).queue
      (key who name i)).head? = some (claim who name i)) : t.Goes who := by
  obtain ⟨next, turn⟩ := h
  exact goes_of_admits turn (Cluster.holds_iff.2 hfirst)

section
variable {ending : ι → Γ → α → Prop} (view : Γ → Bool)
  (hrule : ∀ {i g r reply g'}, rule i g r reply g' → LockRule name (view g) r reply (view g'))
  (hend : ∀ {i g a}, ending i g a → view g = false) {t : Team ι α} {g : ι → Γ}
  (hf : t.Following rule ending g)
include hrule hend hf

/-- Whoever has the lock is neither at its end nor at a door. -/
theorem Inside.goes {i : ι} (h : t.Inside (view ∘ g) i) : t.Goes who := by
  obtain ⟨hin, p, hp⟩ := h
  have hin : view (g i) = true := hin
  cases p with
  | done a =>
    have hout := hend (hf i _ hp)
    rw [hin] at hout
    cases hout
  | ask r next =>
    obtain ⟨reply⟩ := r.reply_nonempty
    obtain ⟨g', hg, -⟩ := (hf i _ hp).ask reply
    exact goes_of_admits hp ((hin ▸ hrule hg).admits _ _)

/-- An activity at the door waits for one that can go on, if it waits at all. -/
theorem LockOrder.goes_at_door (h : LockOrder who name t (view ∘ g)) {i : ι}
    (hi : t.AtDoor name i) : t.Goes who := by
  cases hq : t.cluster.locks.queue (key who name i) with
  | nil =>
    refine hi.goes ?_
    have hnone : (⟨key who name i, (who i).activity⟩ : LockClaim) ∉ t.cluster.locks := by
      rw [← LockTable.mem_queue, hq]
      exact List.not_mem_nil
    rw [LockTable.queue_claim, if_pos ⟨rfl, hnone⟩, hq]
    rfl
  | cons x xs =>
    have hx : x ∈ t.cluster.locks.queue (key who name i) := hq ▸ .head _
    obtain ⟨j, rfl, hj⟩ := h.claimant i x hx
    rcases hj with hin | hdoor
    · exact hin.goes view hrule hend hf
    · -- The lock has passed to one that is still at the door.
      refine hdoor.goes (LockTable.head?_queue_claim ?_)
      rw [show key who name j = key who name i from LockTable.key_of_mem_queue hx, hq]
      rfl

theorem LockOrder.canGo (h : LockOrder who name t (view ∘ g)) (hne : ¬ t.Finished) :
    t.Goes who := by
  obtain ⟨i, hi⟩ := not_forall.1 hne
  cases hs : t.stage i with
  | stopped => exact absurd ⟨none, hs⟩ hi
  | going p =>
    cases p with
    | done a => exact absurd ⟨some a, hs⟩ hi
    | ask r next =>
      obtain ⟨reply⟩ := r.reply_nonempty
      obtain ⟨g', hg, -⟩ := (hf i _ hs).ask reply
      rcases (hrule hg).admits_or_acquire with hadmits | rfl
      · exact goes_of_admits hs (hadmits _ _)
      · exact h.goes_at_door view hrule hend hf ⟨next, hs⟩

end

/-- From wherever they are the activities can come to their end. -/
theorem LockOrder.reaches_finished [Finite ι] {ending : ι → Γ → α → Prop}
    (hwho : Function.Injective fun i => (who i).activity) (view : Γ → Bool)
    (hrule : ∀ {i g r reply g'}, rule i g r reply g' → LockRule name (view g) r reply (view g'))
    (hend : ∀ {i g a}, ending i g a → view g = false) {t : Team ι α} {g : ι → Γ}
    (h : LockOrder who name t (view ∘ g)) (hf : t.Following rule ending g) :
    ∃ t', Reaches who nothing t t' ∧ t'.Finished := by
  refine Team.reaches_finished (P := fun t => ∃ g, LockOrder who name t (view ∘ g) ∧
    t.Following rule ending g) ?_ ?_ ⟨g, h, hf⟩
  · rintro t t' ⟨g, h, hf⟩ hs
    obtain ⟨g', hm, hf'⟩ := hf.step hs
    exact ⟨g', h.move hwho view hrule False.elim hm, hf'⟩
  · rintro t ⟨g, h, hf⟩ hne
    exact h.canGo view hrule hend hf hne

end

end Team

end ClusterKeeper
