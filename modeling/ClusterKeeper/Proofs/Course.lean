import ClusterKeeper.Proofs.Run

/-!
# `Proofs/Course.lean` — calls one after another

A node is told of one thing after another, and is done with each before the next. Between two of its
calls the cluster may change; how far is a parameter (`elsewhere`). A `Course` is a run of such
calls, and its occasions are what a maintainer has in the log: what each call was about, how it found
the cluster and how it left it, and what it answered.

A clock that cannot move stops a call wherever it has come to, and what was done until then stays
done. So a contract for a call in a course speaks of both ends (`Cluster.Ends`): `Q c (some x)` of
those with a result, `Q c none` of the others.
-/

set_option autoImplicit false

namespace ClusterKeeper

variable {α β : Type}

/-- The last of a list is the entry looked for, or comes after it. -/
theorem split_append {es before after : List α} {e s : α} (h : es ++ [e] = before ++ s :: after) :
    (e = s ∧ es = before ∧ after = []) ∨ ∃ rest, after = rest ++ [e] ∧ es = before ++ s :: rest := by
  rcases List.eq_nil_or_concat after with rfl | ⟨rest, x, rfl⟩
  · obtain ⟨hes, he⟩ := List.append_inj' h rfl
    cases he
    exact .inl ⟨rfl, hes, rfl⟩
  · rw [List.concat_eq_append, ← List.cons_append, ← List.append_assoc] at h
    obtain ⟨hes, he⟩ := List.append_inj' h rfl
    cases he
    exact .inr ⟨rest, List.concat_eq_append, hes⟩

namespace Cluster

variable {a : Actor}

/-! ## 1. Both ends of a run -/

/-- Alone, the activity comes to this: to a result, or to where its clock stops it. -/
def Ends (a : Actor) (p : Handler α) (c : Cluster) (Q : Cluster → Option α → Prop) : Prop :=
  Q (run a p c).1 (run a p c).2

section
variable {c : Cluster} {p : Handler α} {Q Q' : Cluster → Option α → Prop}
  {R : Cluster → Option β → Prop}

theorem ends_done {x : α} (h : Q c (some x)) : Ends a (.done x) c Q := h

theorem Ends.mono (h : Ends a p c Q) (hQ : ∀ c' x, Q c' x → Q' c' x) : Ends a p c Q' :=
  hQ _ _ h

theorem Ends.and (h : Ends a p c Q) (h' : Ends a p c Q') : Ends a p c fun c' x => Q c' x ∧ Q' c' x :=
  ⟨h, h'⟩

theorem Ends.bind {f : α → Handler β} (h : Ends a p c Q)
    (hf : ∀ c' x, Q c' (some x) → Ends a (f x) c' R) (hstop : ∀ c', Q c' none → R c' none) :
    Ends a (p >>= f) c R := by
  cases hrun : run a p c with
  | mk c' result =>
    rw [Ends, hrun] at h
    cases result with
    | none =>
      rw [Ends, run_bind_none hrun]
      exact hstop c' h
    | some x =>
      rw [Ends, run_bind hrun]
      exact hf c' x h

theorem ends_of_answered {r : Request} {f : r.Reply → Handler β} {c' : Cluster} {reply : r.Reply}
    (h : c.answer a r = (c', some reply)) (hf : Ends a (f reply) c' R) :
    Ends a (r.ask >>= f) c R := by
  have hrun : run a (r.ask >>= f) c = run a (f reply) c' := run_ask_some h
  rw [Ends, hrun]
  exact hf

/-- A request that takes no time is always answered. -/
theorem ends_request {r : Request} {f : r.Reply → Handler β} (hr : .clock ∉ r.parts)
    (h : ∀ c' reply, c.answer a r = (c', some reply) → Ends a (f reply) c' R) :
    Ends a (r.ask >>= f) c R := by
  cases hc : c.answer a r with
  | mk c' reply =>
    cases reply with
    | none => exact absurd (clock_of_none hc) hr
    | some reply => exact ends_of_answered hc (h c' reply hc)

theorem yields_ask {r : Request} {f : r.Reply → Handler β} {Q : Cluster → β → Prop}
    (hr : .clock ∉ r.parts)
    (h : ∀ c' reply, c.answer a r = (c', some reply) → Yields a (f reply) c' Q) :
    Yields a (r.ask >>= f) c Q := by
  obtain ⟨reply, hreply⟩ := answer_some (c := c) (a := a) hr
  have hanswer : c.answer a r = ((c.answer a r).1, some reply) := Prod.ext rfl hreply
  obtain ⟨c', x, hrun, hx⟩ := h _ reply hanswer
  exact ⟨c', x, (run_ask_some hanswer).trans hrun, hx⟩

theorem does_request {r : Request} {f : r.Reply → Handler β} {Q : List Exchange → Cluster → β → Prop}
    (hr : .clock ∉ r.parts)
    (h : ∀ c' reply, c.answer a r = (c', some reply) →
      Does a (f reply) c' fun es => Q (⟨r, reply⟩ :: es)) : Does a (r.ask >>= f) c Q := by
  obtain ⟨reply, hreply⟩ := answer_some (c := c) (a := a) hr
  have hanswer : c.answer a r = ((c.answer a r).1, some reply) := Prod.ext rfl hreply
  exact does_ask hanswer (h _ reply hanswer)

/-- A run with a result ends with it. -/
theorem Yields.ends {Q : Cluster → α → Prop} (h : Yields a p c Q) :
    Ends a p c fun c' r => ∃ x, r = some x ∧ Q c' x := by
  obtain ⟨c', x, hrun, hx⟩ := h
  rw [Ends, hrun]
  exact ⟨x, rfl, hx⟩

theorem Ends.yields {Q : Cluster → α → Prop} (h : Ends a p c fun c' r => ∃ x, r = some x ∧ Q c' x) :
    Yields a p c Q := by
  obtain ⟨x, hresult, hx⟩ := h
  exact ⟨_, x, Prod.ext rfl hresult, hx⟩

/-- What a run comes to, besides its result. -/
theorem Yields.and_ends {Q : Cluster → α → Prop} (h : Yields a p c Q) (h' : Ends a p c Q') :
    Yields a p c fun c' x => Q c' x ∧ Q' c' (some x) := by
  obtain ⟨c', x, hrun, hx⟩ := h
  rw [Ends, hrun] at h'
  exact ⟨c', x, hrun, hx, h'⟩

theorem Yields.bind_ends {Q : Cluster → α → Prop} {f : α → Handler β} (h : Yields a p c Q)
    (hf : ∀ c' x, Q c' x → Ends a (f x) c' R) : Ends a (p >>= f) c R := by
  obtain ⟨c', x, hrun, hx⟩ := h
  rw [Ends, run_bind hrun]
  exact hf c' x hx

/-- What every request keeps that the activity can come to, it keeps, wherever it ends. -/
theorem ends_of_asks {allowed : Request → Prop} {P : Cluster → Prop}
    (hP : ∀ c r, allowed r → P c → P (c.answer a r).1) (hp : p.Asks allowed) (hc : P c) :
    Ends a p c fun c' _ => P c' :=
  run_keeps hP hp hc

end

/-! ## 2. What is kept -/

/-- A cluster as an activity may leave it that makes only requests that can change these parts. -/
structure Kept (a : Actor) (parts : List Part) (c c' : Cluster) : Prop where
  faults : c'.faults = c.faults
  members : c'.substrate.members = c.substrate.members
  offline : c'.substrate.offline = c.substrate.offline
  substrate : .substrate ∉ parts → c'.substrate = c.substrate
  index : .index ∉ parts → c'.index = c.index
  store : .store ∉ parts → c'.store = c.store
  node : (c.node a.node).Kept parts (c'.node a.node)

section
variable {parts more : List Part} {c c' c'' : Cluster}

theorem Kept.refl : Kept a parts c c where
  faults := rfl
  members := rfl
  offline := rfl
  substrate _ := rfl
  index _ := rfl
  store _ := rfl
  node := ⟨rfl, rfl, rfl, fun _ => rfl, fun _ => rfl, fun _ => rfl⟩

theorem Kept.trans (h : Kept a parts c c') (h' : Kept a parts c' c'') : Kept a parts c c'' where
  faults := h'.faults.trans h.faults
  members := h'.members.trans h.members
  offline := h'.offline.trans h.offline
  substrate hp := (h'.substrate hp).trans (h.substrate hp)
  index hp := (h'.index hp).trans (h.index hp)
  store hp := (h'.store hp).trans (h.store hp)
  node :=
    ⟨h'.node.member.trans h.node.member, h'.node.countDelay.trans h.node.countDelay,
      h'.node.failing.trans h.node.failing, fun hp => (h'.node.runner hp).trans (h.node.runner hp),
      fun hp => (h'.node.clock hp).trans (h.node.clock hp),
      fun hp => (h'.node.status hp).trans (h.node.status hp)⟩

theorem Kept.mono (hsub : parts ⊆ more) (h : Kept a parts c c') : Kept a more c c' where
  faults := h.faults
  members := h.members
  offline := h.offline
  substrate hp := h.substrate fun hs => hp (hsub hs)
  index hp := h.index fun hs => hp (hsub hs)
  store hp := h.store fun hs => hp (hsub hs)
  node :=
    ⟨h.node.member, h.node.countDelay, h.node.failing, fun hp => h.node.runner fun hs => hp (hsub hs),
      fun hp => h.node.clock fun hs => hp (hsub hs), fun hp => h.node.status fun hs => hp (hsub hs)⟩

theorem kept_answer (c : Cluster) (a : Actor) (r : Request) :
    Kept a r.parts c (c.answer a r).1 where
  faults := answer_faults c a r
  members := answer_members c a r
  offline := answer_substrate_offline c a r
  substrate := answer_substrate
  index := answer_index
  store := answer_store
  node := by
    have hself : (c.node a.node).Kept r.parts (c.node a.node) :=
      ⟨rfl, rfl, rfl, fun _ => rfl, fun _ => rfl, fun _ => rfl⟩
    refine answer_cases (P := fun d => (c.node a.node).Kept r.parts (d.node a.node)) hself
      (fun _ _ _ _ _ => hself) (fun _ _ _ _ => hself) (fun _ _ => hself) (fun n hn => ?_)
      (fun _ _ => hself) fun _ _ => hself
    rw [node_setNode, if_pos rfl]
    exact hn

theorem kept_of_answered {r : Request} {reply : Option r.Reply} (h : c.answer a r = (c', reply)) :
    Kept a r.parts c c' := by
  have hkept := kept_answer c a r
  rwa [h] at hkept

/-- An activity keeps what all its requests keep. -/
theorem ends_kept {p : Handler α} (hp : p.Asks fun r => r.parts ⊆ parts) (c : Cluster) :
    Ends a p c fun c' _ => Kept a parts c c' :=
  ends_of_asks (fun d r hr hd => hd.trans ((kept_answer d a r).mono hr)) hp .refl

end

/-! ## 3. Courses -/

/-- An outage of the substrate, or its end. -/
def setOffline (offline : Bool) (c : Cluster) : Cluster :=
  { c with substrate := { c.substrate with offline := offline } }

/-- A call in a course: what it was about, the cluster before and after it, and its result. -/
structure Occasion (α β : Type) where
  about : α
  before : Cluster
  after : Cluster
  result : Option β

/-- The call, made where the cluster has got to. -/
def Occasion.of (a : Actor) (call : α → Handler β) (x : α) (c : Cluster) : Occasion α β :=
  ⟨x, c, (run a (call x) c).1, (run a (call x) c).2⟩

/-- The events that the call has told. One that failed tells none. -/
def Occasion.told (o : Occasion α (Except HandlerError (List ClusterEvent))) : List ClusterEvent :=
  match o.result with
  | some (.ok events) => events
  | _ => []

/-- From the first cluster to the last by calls of one node, and by what happens between them. -/
inductive Course (a : Actor) (call : α → Handler β) (elsewhere : Cluster → Cluster → Prop)
    (c : Cluster) : List (Occasion α β) → Cluster → Prop
  | nil : Course a call elsewhere c [] c
  | call {os : List (Occasion α β)} {c' : Cluster} (x : α) (h : Course a call elsewhere c os c') :
      Course a call elsewhere c (os ++ [.of a call x c']) (run a (call x) c').1
  | elsewhere {os : List (Occasion α β)} {c' c'' : Cluster} (h : Course a call elsewhere c os c')
      (happened : elsewhere c' c'') : Course a call elsewhere c os c''

section
variable {call : α → Handler β} {elsewhere : Cluster → Cluster → Prop} {c c' : Cluster}
  {os : List (Occasion α β)}

/-- Every occasion of a course is a call from the cluster that it found. -/
theorem Course.called (h : Course a call elsewhere c os c') :
    ∀ o ∈ os, Occasion.of a call o.about o.before = o := by
  induction h with
  | nil => exact fun o ho => absurd ho List.not_mem_nil
  | call x h ih =>
    intro o ho
    rcases List.mem_append.1 ho with ho | ho
    · exact ih o ho
    · obtain rfl := List.mem_singleton.1 ho
      rfl
  | elsewhere h happened ih => exact ih

/-- What the calls keep, and what happens between them, holds of the occasions so far and of the
cluster that they have led to. -/
theorem Course.keeps {Q : Occasion α β → Prop} {P : List (Occasion α β) → Cluster → Prop}
    (h : Course a call elsewhere c os c') (hq : ∀ o ∈ os, Q o) (hstart : P [] c)
    (hcall : ∀ {os o}, Q o → P os o.before → P (os ++ [o]) o.after)
    (helsewhere : ∀ {os c' c''}, elsewhere c' c'' → P os c' → P os c'') : P os c' := by
  induction h with
  | nil => exact hstart
  | call x h ih =>
    refine hcall (o := .of a call x _) (hq _ (List.mem_append_right _ (.head _))) ?_
    exact ih fun o ho => hq o (List.mem_append_left _ ho)
  | elsewhere h happened ih => exact helsewhere happened (ih hq)

/-- What holds of a call wherever it is made holds of every occasion. -/
theorem Course.each {Q : α → Cluster → Cluster → Option β → Prop}
    (hcall : ∀ x d, Ends a (call x) d (Q x d)) (h : Course a call elsewhere c os c') :
    ∀ o ∈ os, Q o.about o.before o.after o.result := by
  intro o ho
  have hq : Q _ _ _ _ := hcall o.about o.before
  rw [← h.called o ho]
  exact hq

end

end Cluster

end ClusterKeeper
