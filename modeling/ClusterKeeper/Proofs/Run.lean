import ClusterKeeper.Proofs.Answer
import ClusterKeeper.Proofs.Rule

/-!
# `Proofs/Run.lean` — an activity that has the cluster to itself

`Cluster.run` answers all requests of an activity, one after another. What every request that it can
come to keeps, the run keeps (`run_keeps`); and where none of them takes time, it ends with a result
(`run_result`). So what a handler leaves alone can be read off the requests it makes, without
following it.

The parts that no request changes are the same after any run.
-/

set_option autoImplicit false

namespace ClusterKeeper

structure Exchange where
  request : Request
  reply : request.Reply

namespace Cluster

variable {α β : Type} {a : Actor}

theorem run_ask_some {r : Request} {next : r.Reply → Handler α} {c c' : Cluster} {reply : r.Reply}
    (h : c.answer a r = (c', some reply)) : run a (.ask r next) c = run a (next reply) c' := by
  rw [run, h]

theorem run_ask_none {r : Request} {next : r.Reply → Handler α} {c c' : Cluster}
    (h : c.answer a r = (c', none)) : run a (.ask r next) c = (c', none) := by
  rw [run, h]

/-- What comes second begins where the first has ended, if that has a result. -/
theorem run_bind_eq (p : Handler α) (f : α → Handler β) (c : Cluster) :
    run a (p >>= f) c = match run a p c with
      | (c', some x) => run a (f x) c'
      | (c', none) => (c', none) := by
  induction p generalizing c with
  | done y => rfl
  | ask r next ih =>
    rw [Program.ask_bind]
    cases hc : c.answer a r with
    | mk c₁ reply =>
      cases reply with
      | none => rw [run_ask_none hc, run_ask_none hc]
      | some reply => rw [run_ask_some hc, run_ask_some hc, ih]

theorem run_bind {p : Handler α} {f : α → Handler β} {c c' : Cluster} {x : α}
    (h : run a p c = (c', some x)) : run a (p >>= f) c = run a (f x) c' := by
  rw [run_bind_eq, h]

theorem run_bind_none {p : Handler α} {f : α → Handler β} {c c' : Cluster}
    (h : run a p c = (c', none)) : run a (p >>= f) c = (c', none) := by
  rw [run_bind_eq, h]

theorem run_keeps {allowed : Request → Prop} {P : Cluster → Prop}
    (hP : ∀ c r, allowed r → P c → P (c.answer a r).1) {p : Handler α} (hp : p.Asks allowed)
    {c : Cluster} (hc : P c) : P (run a p c).1 := by
  induction p generalizing c with
  | done x => exact hc
  | ask r next ih =>
    have hstep := hP c r hp.1 hc
    cases ha : c.answer a r with
    | mk c' reply =>
      rw [ha] at hstep
      cases reply with
      | none =>
        rw [run_ask_none ha]
        exact hstep
      | some reply =>
        rw [run_ask_some ha]
        exact ih reply (hp.2 reply) hstep

/-- Only a clock can leave a request without an answer. -/
theorem answer_some {c : Cluster} {r : Request} (h : .clock ∉ r.parts) :
    ∃ reply, (c.answer a r).2 = some reply := by
  cases r with
  | runningCount => simp [Request.parts] at h
  | sleep => simp [Request.parts] at h
  | _ => exact ⟨_, rfl⟩

theorem clock_of_none {c c' : Cluster} {r : Request} (h : c.answer a r = (c', none)) :
    .clock ∈ r.parts := by
  refine Decidable.byContradiction fun hr => ?_
  obtain ⟨reply, hreply⟩ := answer_some (c := c) (a := a) hr
  rw [h] at hreply
  cases hreply

theorem run_result {p : Handler α} (hp : p.Asks fun r => .clock ∉ r.parts) (c : Cluster) :
    ∃ x, (run a p c).2 = some x := by
  induction p generalizing c with
  | done x => exact ⟨x, rfl⟩
  | ask r next ih =>
    obtain ⟨reply, hr⟩ := answer_some (c := c) (a := a) hp.1
    have hanswer : c.answer a r = ((c.answer a r).1, some reply) := Prod.ext rfl hr
    rw [run_ask_some hanswer]
    exact ih reply (hp.2 reply) _

/-! ## What no run changes -/

theorem run_eq (f : Cluster → β) (hf : ∀ c r, f (c.answer a r).1 = f c) (p : Handler α)
    (c : Cluster) : f (run a p c).1 = f c :=
  run_keeps (P := fun d => f d = f c) (fun d r _ h => (hf d r).trans h) p.asks_any rfl

section
variable (p : Handler α) (c : Cluster)

theorem run_faults : (run a p c).1.faults = c.faults :=
  run_eq (·.faults) (fun c r => answer_faults c a r) p c

theorem run_known : (run a p c).1.known = c.known :=
  run_eq (·.known) (fun c r => answer_known c a r) p c

theorem run_substrate_offline : (run a p c).1.substrate.offline = c.substrate.offline :=
  run_eq (·.substrate.offline) (fun c r => answer_substrate_offline c a r) p c

end

/-! ## What a run comes to -/

/-- Alone, the activity ends with a result, and then this holds of it and of the cluster. -/
def Yields (a : Actor) (p : Handler α) (c : Cluster) (Q : Cluster → α → Prop) : Prop :=
  ∃ c' x, run a p c = (c', some x) ∧ Q c' x

section
variable {c : Cluster} {p : Handler α} {Q : Cluster → α → Prop} {R : Cluster → β → Prop}

theorem yields_done {x : α} (h : Q c x) : Yields a (.done x) c Q := ⟨c, x, rfl, h⟩

theorem Yields.mono {Q' : Cluster → α → Prop} (h : Yields a p c Q)
    (hQ : ∀ c' x, Q c' x → Q' c' x) : Yields a p c Q' := by
  obtain ⟨c', x, hrun, hx⟩ := h
  exact ⟨c', x, hrun, hQ c' x hx⟩

theorem Yields.bind {f : α → Handler β} (h : Yields a p c Q)
    (hf : ∀ c' x, Q c' x → Yields a (f x) c' R) : Yields a (p >>= f) c R := by
  obtain ⟨c', x, hrun, hx⟩ := h
  obtain ⟨c'', y, hrun', hy⟩ := hf c' x hx
  exact ⟨c'', y, (run_bind hrun).trans hrun', hy⟩

theorem yields_request {r : Request} {Q : Cluster → r.Reply → Prop} {d : Cluster} {x : r.Reply}
    (h : c.answer a r = (d, some x)) (hQ : Q d x) : Yields a r.ask c Q :=
  ⟨d, x, run_ask_some h, hQ⟩

/-- Where no request takes time, what all of them keep is there in the end. -/
theorem yields_of_asks {P : Cluster → Prop} {allowed : Request → Prop}
    (hclock : ∀ r, allowed r → .clock ∉ r.parts)
    (hP : ∀ c r, allowed r → P c → P (c.answer a r).1) (hp : p.Asks allowed) (hc : P c) :
    Yields a p c fun c' _ => P c' := by
  obtain ⟨x, hx⟩ := run_result (a := a) (hp.mono hclock) c
  exact ⟨(run a p c).1, x, Prod.ext rfl hx, run_keeps hP hp hc⟩

/-- A part that does not fail is no failure of the handler. -/
theorem Yields.orFail {ε : Type} {cause : ε → HandlerError} {body : Handler (Except ε α)}
    {f : α → Attempt β} {R : Cluster → Except HandlerError β → Prop}
    (h : Yields a body c fun c' r => ∃ x, r = .ok x ∧ Yields a (f x).run c' R) :
    Yields a (Handler.orFail cause body >>= f).run c R := by
  rw [Handler.run_orFail_bind]
  refine h.bind fun c' r hr => ?_
  obtain ⟨x, rfl, hx⟩ := hr
  exact hx

end

/-! ## Part of a run -/

/-- The exchanges of a run. A request that stops the clock is not answered. -/
def exchanges (a : Actor) : Handler α → Cluster → List Exchange
  | .done _, _ => []
  | .ask r next, c =>
    match c.answer a r with
    | (c, some reply) => ⟨r, reply⟩ :: exchanges a (next reply) c
    | (_, none) => []

theorem exchanges_ask {r : Request} {next : r.Reply → Handler α} {c c' : Cluster}
    {reply : r.Reply} (h : c.answer a r = (c', some reply)) :
    exchanges a (.ask r next) c = ⟨r, reply⟩ :: exchanges a (next reply) c' := by
  rw [exchanges, h]

/-- What a run adds to a history is what its exchanges have added, each in its turn. -/
theorem run_adds (history : Cluster → List β) {added? : Exchange → Option β}
    (hsome : ∀ {r reply c c'}, c.answer a r = (c', some reply) →
      history c' = history c ++ (added? ⟨r, reply⟩).toList)
    (hnone : ∀ {r c c'}, c.answer a r = (c', none) → history c' = history c) (p : Handler α)
    (c : Cluster) : history (run a p c).1 = history c ++ (exchanges a p c).filterMap added? := by
  induction p generalizing c with
  | done x => exact (List.append_nil _).symm
  | ask r next ih =>
    cases hc : c.answer a r with
    | mk c' reply =>
      cases reply with
      | none =>
        rw [run_ask_none hc, exchanges, hc, hnone hc]
        exact (List.append_nil _).symm
      | some reply =>
        rw [run_ask_some hc, exchanges_ask hc, ih, hsome hc, List.append_assoc, List.filterMap_cons]
        cases added? ⟨r, reply⟩ <;> rfl

/-- What the exchanges of a rule keep holds where an activity that follows it ends, of all of its
exchanges and of the cluster. -/
theorem exchanges_follows {Γ : Type} {rule : Rule Request.Reply Γ} {ending : Γ → α → Prop}
    {P : Γ → List Exchange → Cluster → Prop}
    (hstep : ∀ {g r reply g' es c c'}, rule g r reply g' → P g es c →
      c.answer a r = (c', some reply) → P g' (es ++ [⟨r, reply⟩]) c')
    {p : Handler α} {g : Γ} (es : List Exchange) {c c' : Cluster} {x : α}
    (hf : p.Follows rule ending g) (hc : P g es c) (hrun : run a p c = (c', some x)) :
    ∃ g', ending g' x ∧ P g' (es ++ exchanges a p c) c' := by
  induction p generalizing g c es with
  | done y =>
    cases hrun
    rw [exchanges, List.append_nil]
    exact ⟨g, hf, hc⟩
  | ask r next ih =>
    cases ha : c.answer a r with
    | mk c₁ reply =>
      cases reply with
      | none =>
        rw [run_ask_none ha] at hrun
        cases hrun
      | some reply =>
        obtain ⟨g₁, hg, hn⟩ := hf reply
        rw [run_ask_some ha] at hrun
        rw [exchanges_ask ha, List.append_cons]
        exact ih reply _ hn (hstep hg hc ha) hrun

theorem run_follows {Γ : Type} {rule : Rule Request.Reply Γ} {ending : Γ → α → Prop}
    {P : Γ → Cluster → Prop}
    (hstep : ∀ {g r reply g' c c'}, rule g r reply g' → P g c →
      c.answer a r = (c', some reply) → P g' c')
    {p : Handler α} {g : Γ} {c c' : Cluster} {x : α} (hf : p.Follows rule ending g) (hc : P g c)
    (hrun : run a p c = (c', some x)) : ∃ g', ending g' x ∧ P g' c' :=
  exchanges_follows (P := fun g _ c => P g c) hstep [] hf hc hrun

/-- Alone, an activity comes by these exchanges to where only the rest of it is left. -/
inductive Leads (a : Actor) (p : Handler α) (c : Cluster) :
    List Exchange → Handler α → Cluster → Prop
  | refl : Leads a p c [] p c
  | tail {es : List Exchange} {r : Request} {next : r.Reply → Handler α} {c' c'' : Cluster}
      {reply : r.Reply} (h : Leads a p c es (.ask r next) c')
      (answered : c'.answer a r = (c'', some reply)) :
      Leads a p c (es ++ [⟨r, reply⟩]) (next reply) c''

section
variable {p rest : Handler α} {c c' : Cluster} {es : List Exchange}

theorem Leads.run_eq (h : Leads a p c es rest c') : run a p c = run a rest c' := by
  induction h with
  | refl => rfl
  | tail _ answered ih => rw [ih, run_ask_some answered]

theorem Leads.exchanges_eq (h : Leads a p c es rest c') :
    exchanges a p c = es ++ exchanges a rest c' := by
  induction h with
  | refl => rfl
  | tail _ answered ih =>
    rw [ih, exchanges, answered, List.append_assoc]
    rfl

theorem Leads.keeps (f : Cluster → β) (hf : ∀ c r, f (c.answer a r).1 = f c)
    (h : Leads a p c es rest c') : f c' = f c := by
  induction h with
  | refl => rfl
  | @tail es r next c' c'' reply _ answered ih =>
    have hstep := hf c' r
    rw [answered] at hstep
    exact hstep.trans ih

/-- On the way, the rest of an activity that follows a rule follows it from where it has got to. -/
theorem Leads.follows {Γ : Type} {rule : Rule Request.Reply Γ} {ending : Γ → α → Prop}
    {P : Γ → Cluster → Prop}
    (hstep : ∀ {g r reply g' c c'}, rule g r reply g' → P g c →
      c.answer a r = (c', some reply) → P g' c')
    {g : Γ} (hf : p.Follows rule ending g) (hc : P g c) (h : Leads a p c es rest c') :
    ∃ g', rest.Follows rule ending g' ∧ P g' c' := by
  induction h with
  | refl => exact ⟨g, hf, hc⟩
  | tail _ answered ih =>
    obtain ⟨g₁, hf₁, hc₁⟩ := ih
    obtain ⟨g₂, hrule, hnext⟩ := hf₁.ask _
    exact ⟨g₂, hnext, hstep hrule hc₁ answered⟩

end

/-! ## Requests that are not made -/

section
variable {bad : Request → Prop} {c c' : Cluster} {p : Handler α} {Q : Cluster → α → Prop}
  {R : Cluster → β → Prop}

theorem exchanges_bind {f : α → Handler β} {x : α} (h : run a p c = (c', some x)) :
    exchanges a (p >>= f) c = exchanges a p c ++ exchanges a (f x) c' := by
  induction p generalizing c with
  | done y =>
    cases h
    rfl
  | ask r next ih =>
    cases hc : c.answer a r with
    | mk c₁ reply =>
      cases reply with
      | none =>
        rw [run_ask_none hc] at h
        cases h
      | some reply =>
        rw [run_ask_some hc] at h
        rw [Program.ask_bind, exchanges_ask hc, exchanges_ask hc, ih reply h]
        rfl

theorem exchanges_of_asks {allowed : Request → Prop} (hp : p.Asks allowed) (c : Cluster) :
    ∀ e ∈ exchanges a p c, allowed e.request := by
  induction p generalizing c with
  | done x => exact fun e he => absurd he List.not_mem_nil
  | ask r next ih =>
    cases hc : c.answer a r with
    | mk c₁ reply =>
      cases reply with
      | none =>
        rw [exchanges, hc]
        exact fun e he => absurd he List.not_mem_nil
      | some reply =>
        rw [exchanges_ask hc]
        intro e he
        rcases List.mem_cons.1 he with rfl | he
        · exact hp.1
        · exact ih reply (hp.2 reply) c₁ e he

/-- Alone, the activity ends with a result without a request of this kind, and then this holds. -/
structure Spares (bad : Request → Prop) (a : Actor) (p : Handler α) (c : Cluster)
    (Q : Cluster → α → Prop) : Prop where
  yields : Yields a p c Q
  spared : ∀ e ∈ exchanges a p c, ¬ bad e.request

theorem spares_done {x : α} (h : Q c x) : Spares bad a (.done x) c Q :=
  ⟨yields_done h, fun _ he => absurd he List.not_mem_nil⟩

theorem Yields.spares (h : Yields a p c Q) (hp : p.Asks fun r => ¬ bad r) : Spares bad a p c Q :=
  ⟨h, exchanges_of_asks hp c⟩

theorem Yields.spares_request {r : Request} {Q : Cluster → r.Reply → Prop} (h : Yields a r.ask c Q)
    (hr : ¬ bad r) : Spares bad a r.ask c Q :=
  h.spares ⟨hr, fun _ => trivial⟩

theorem Spares.mono {Q' : Cluster → α → Prop} (h : Spares bad a p c Q)
    (hQ : ∀ c' x, Q c' x → Q' c' x) : Spares bad a p c Q' :=
  ⟨h.yields.mono hQ, h.spared⟩

theorem Spares.bind {f : α → Handler β} (h : Spares bad a p c Q)
    (hf : ∀ c' x, Q c' x → Spares bad a (f x) c' R) : Spares bad a (p >>= f) c R := by
  obtain ⟨⟨c', x, hrun, hx⟩, hspared⟩ := h
  obtain ⟨⟨c'', y, hrun', hy⟩, hspared'⟩ := hf c' x hx
  refine ⟨⟨c'', y, (run_bind hrun).trans hrun', hy⟩, ?_⟩
  rw [exchanges_bind hrun]
  intro e he
  rcases List.mem_append.1 he with he | he
  · exact hspared e he
  · exact hspared' e he

theorem Spares.orFail {ε : Type} {cause : ε → HandlerError} {body : Handler (Except ε α)}
    {f : α → Attempt β} {R : Cluster → Except HandlerError β → Prop}
    (h : Spares bad a body c fun c' r => ∃ x, r = .ok x ∧ Spares bad a (f x).run c' R) :
    Spares bad a (Handler.orFail cause body >>= f).run c R := by
  rw [Handler.run_orFail_bind]
  refine h.bind fun c' r hr => ?_
  obtain ⟨x, rfl, hx⟩ := hr
  exact hx

end

/-! ## A run with its exchanges -/

/-- Alone, the activity ends with a result, and this holds of its exchanges, the cluster and the
result. -/
def Does (a : Actor) (p : Handler α) (c : Cluster) (Q : List Exchange → Cluster → α → Prop) :
    Prop :=
  ∃ c' x, run a p c = (c', some x) ∧ Q (exchanges a p c) c' x

section
variable {p : Handler α} {c : Cluster} {Q : List Exchange → Cluster → α → Prop}
  {R : List Exchange → Cluster → β → Prop}

theorem does_done {x : α} (h : Q [] c x) : Does a (.done x) c Q := ⟨c, x, rfl, h⟩

theorem Does.mono {Q' : List Exchange → Cluster → α → Prop} (h : Does a p c Q)
    (hQ : ∀ es c' x, Q es c' x → Q' es c' x) : Does a p c Q' := by
  obtain ⟨c', x, hrun, hx⟩ := h
  exact ⟨c', x, hrun, hQ _ c' x hx⟩

theorem Does.bind {f : α → Handler β} (h : Does a p c Q)
    (hf : ∀ es c' x, Q es c' x → Does a (f x) c' fun es' => R (es ++ es')) :
    Does a (p >>= f) c R := by
  obtain ⟨c', x, hrun, hx⟩ := h
  obtain ⟨c'', y, hrun', hy⟩ := hf _ c' x hx
  refine ⟨c'', y, (run_bind hrun).trans hrun', ?_⟩
  rw [exchanges_bind hrun]
  exact hy

/-- A request, and then something else. -/
theorem does_ask {r : Request} {f : r.Reply → Handler β} {d : Cluster} {reply : r.Reply}
    (h : c.answer a r = (d, some reply))
    (hf : Does a (f reply) d fun es => R (⟨r, reply⟩ :: es)) : Does a (r.ask >>= f) c R := by
  obtain ⟨c', y, hrun, hy⟩ := hf
  refine ⟨c', y, (run_ask_some h).trans hrun, ?_⟩
  rw [show exchanges a (r.ask >>= f) c = _ from exchanges_ask h]
  exact hy

/-- What a run comes to, besides. -/
theorem Does.and (h : Does a p c Q) {Q' : Cluster → α → Prop} (h' : Yields a p c Q') :
    Does a p c fun es c' x => Q es c' x ∧ Q' c' x := by
  obtain ⟨c', x, hrun, hx⟩ := h
  obtain ⟨c'', y, hrun', hy⟩ := h'
  rw [hrun] at hrun'
  cases hrun'
  exact ⟨c', x, hrun, hx, hy⟩

/-- What is true of all requests that the activity can come to, besides. -/
theorem Does.and_asks {allowed : Request → Prop} (h : Does a p c Q) (hp : p.Asks allowed) :
    Does a p c fun es c' x => Q es c' x ∧ ∀ e ∈ es, allowed e.request := by
  obtain ⟨c', x, hrun, hx⟩ := h
  exact ⟨c', x, hrun, hx, exchanges_of_asks hp c⟩

end

/-- Two things that a run comes to. -/
theorem Yields.and {c : Cluster} {p : Handler α} {Q Q' : Cluster → α → Prop} (h : Yields a p c Q)
    (h' : Yields a p c Q') : Yields a p c fun c' x => Q c' x ∧ Q' c' x := by
  obtain ⟨c', x, hrun, hx⟩ := h
  obtain ⟨c'', y, hrun', hy⟩ := h'
  rw [hrun] at hrun'
  cases hrun'
  exact ⟨c', x, hrun, hx, hy⟩

end Cluster

end ClusterKeeper
