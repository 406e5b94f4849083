import ClusterKeeper.Proofs.Status.Calls

/-!
# `Proofs/Status/Linearization.lean` — changes of status happen one after another

What comes of calls of one status machine, in whatever order they are interleaved, is what would
come of the same calls made one after another in the order in which they get the lock.

The invariant (`StatusMachine.Linear`) is that this can be said at any time of the calls that are
over (`Done`), and of the one that has the lock as far as it has come (`Progress`). Only a call that
has the lock writes or publishes, so whatever is added to the trace is added at the end of its block.

A drain is the longest part of such a block, and nothing in it writes or publishes (`Drains`): as
long as it goes on the status is PAUSE and nobody else gets a word in.
-/

set_option autoImplicit false

namespace ClusterKeeper

namespace Team

variable {ι α : Type} [DecidableEq ι] {t t' : Team ι α} {i j : ι} {s : Stage α} {result : Option α}

theorem Over.of_update {r : Request} {next : r.Reply → Handler α} (h : t.Over j result)
    (turn : t.stage i = .going (.ask r next)) (hstage : t'.stage = Function.update t.stage i s) :
    t'.Over j result := by
  have hne : j ≠ i := by
    rintro rfl
    rw [Over, turn] at h
    cases result with
    | none => cases h
    | some a => cases h
  rw [Over, hstage, Function.update_of_ne hne]
  exact h

end Team

namespace StatusMachine

variable {m : StatusMachine} {n : Nat} {values : Fin n → String}

/-! ## 1. The calls that are over -/

variable {c : Cluster} {t t' : Calls n} {g g' : Fin n → Transition}
  {blocks : List (Fin n × Cluster)} {s : Steering} {added : List (Fin n × Exchange)}
  {holder : List (Fin n)} {i j : Fin n} {e : Exchange} {es : List Exchange}

variable (m values) in
/-- The team has done what these calls do in turn, and then this was added by a call that has the
lock. -/
structure Done (c : Cluster) (t : Calls n) (blocks : List (Fin n × Cluster)) (s : Steering)
    (added : List (Fin n × Exchange)) (holder : List (Fin n)) : Prop where
  turn : m.InTurn values (m.steering c) blocks s
  order : t.acquired = blocks.map (·.1) ++ holder
  effects : t.effects = (blocks.flatMap fun b => m.soloEffects values b.1 b.2) ++ added
  results : ∀ b ∈ blocks, t.Over b.1 (m.solo values b.1 b.2).2

theorem Done.start (c : Cluster) : m.Done values c (.start c (m.call values)) [] (m.steering c) [] []
    where
  turn := .nobody
  order := rfl
  effects := rfl
  results b hb := by cases hb

/-- An exchange adds to the trace, and leaves the calls that are over. -/
theorem Done.exchange (h : m.Done values c t blocks s added holder) {r : Request}
    {next : r.Reply → Handler (Except HandlerError (List ClusterEvent))}
    {stage : Stage (Except HandlerError (List ClusterEvent))}
    (turn : t.stage i = .going (.ask r next))
    (hstage : t'.stage = Function.update t.stage i stage) (htrace : t'.trace = t.trace ++ [(i, e)])
    {added' : List (Fin n × Exchange)} {holder' : List (Fin n)}
    (hadded : added ++ [(i, e)].filter (·.2.isEffect) = added')
    (hholder : holder ++ ([(i, e)].filter (·.2.takesLock)).map (·.1) = holder') :
    m.Done values c t' blocks s added' holder' where
  turn := h.turn
  order := by
    have := h.order
    rw [Team.acquired] at this ⊢
    rw [htrace, List.filter_append, List.map_append, this, List.append_assoc, hholder]
  effects := by
    have := h.effects
    rw [Team.effects] at this ⊢
    rw [htrace, List.filter_append, this, List.append_assoc, hadded]
  results b hb := (h.results b hb).of_update turn hstage

theorem Done.add (h : m.Done values c t blocks s ((es.filter (·.isEffect)).map (i, ·)) [i])
    {r : Request} {next : r.Reply → Handler (Except HandlerError (List ClusterEvent))}
    {stage : Stage (Except HandlerError (List ClusterEvent))}
    (turn : t.stage i = .going (.ask r next))
    (hstage : t'.stage = Function.update t.stage i stage) (htrace : t'.trace = t.trace ++ [(i, e)])
    (he : e.takesLock = false) :
    m.Done values c t' blocks s (((es ++ [e]).filter (·.isEffect)).map (i, ·)) [i] := by
  refine h.exchange turn hstage htrace ?_ ?_
  · rw [List.filter_append, List.map_append]
    congr 1
    cases hb : e.isEffect <;> simp [hb]
  · simp [he]

theorem Done.congr (h : m.Done values c t blocks s added holder) (hstage : t'.stage = t.stage)
    (htrace : t'.trace = t.trace) : m.Done values c t' blocks s added holder where
  turn := h.turn
  order := by
    rw [Team.acquired, htrace]
    exact h.order
  effects := by
    rw [Team.effects, htrace]
    exact h.effects
  results b hb := by
    rw [Team.Over, hstage]
    exact h.results b hb

/-- The call that has the lock is over as well. -/
theorem Done.close (h : m.Done values c t blocks s added [i]) {c₀ : Cluster} {now : Steering}
    {result : Option (Except HandlerError (List ClusterEvent))} (hc₀ : m.steering c₀ = s)
    (hnow : m.steering (m.solo values i c₀).1 = now) (hresult : (m.solo values i c₀).2 = result)
    (hadded : m.soloEffects values i c₀ = added) (hover : t.Over i result) :
    m.Done values c t (blocks ++ [(i, c₀)]) now [] [] where
  turn := by
    subst hc₀ hnow
    exact .next h.turn
  order := by
    rw [h.order, List.map_append, List.append_nil]
    rfl
  effects := by
    rw [h.effects, List.flatMap_append, List.append_nil, ← hadded]
    simp
  results b hb := by
    rcases List.mem_append.1 hb with hb | hb
    · exact h.results b hb
    · rw [List.mem_singleton.1 hb, hresult]
      exact hover

/-! ## 2. The call that has the lock -/

variable (m values) in
structure Progress (c : Cluster) (t : Calls n) (g : Fin n → Transition) : Prop where
  free : (∀ i, ¬ t.Inside (Transition.inside ∘ g) i) →
    ∃ blocks, m.Done values c t blocks (m.steering t.cluster) [] []
  taken : ∀ i rest, t.stage i = .going rest → (g i).inside = true →
    ∃ blocks s es, m.Done values c t blocks s ((es.filter (·.isEffect)).map (i, ·)) [i] ∧
      m.Underway values i s es rest (m.steering t.cluster) (g i)

theorem Progress.start (c : Cluster) :
    m.Progress values c (.start c (m.call values)) (opening values) where
  free _ := ⟨[], .start c⟩
  taken i rest _ hin := by
    rw [opening_inside] at hin
    cases hin

/-- What has happened to the cluster alone is nothing to the calls. -/
theorem Progress.congr (h : m.Progress values c t g) (hstage : t'.stage = t.stage)
    (htrace : t'.trace = t.trace) (hsteering : m.steering t'.cluster = m.steering t.cluster) :
    m.Progress values c t' g where
  free hnobody := by
    obtain ⟨blocks, hdone⟩ := h.free fun i hi => hnobody i (by rwa [Team.Inside, hstage])
    rw [hsteering]
    exact ⟨blocks, hdone.congr hstage htrace⟩
  taken i rest hi hin := by
    rw [hstage] at hi
    obtain ⟨blocks, s, es, hdone, hunder⟩ := h.taken i rest hi hin
    rw [hsteering]
    exact ⟨blocks, s, es, hdone.congr hstage htrace, hunder⟩

section
variable {r : Request} {reply : r.Reply} {rest : Handler (Except HandlerError (List ClusterEvent))}
  {next : r.Reply → Handler (Except HandlerError (List ClusterEvent))} {p : Transition}

theorem Progress.enter (h : m.Progress values c t g)
    (hnobody : ∀ j, ¬ t.Inside (Transition.inside ∘ g) j)
    (hfresh : t.stage i = .going (m.call values i)) {name : LockName}
    {next : Unit → Handler (Except HandlerError (List ClusterEvent))}
    (turn : t.stage i = .going (.ask (.acquire name) next)) {c' : Cluster}
    (answered : t.cluster.answer (m.actor i) (.acquire name) = (c', some ())) :
    ∃ blocks s es, m.Done values c
        ⟨c', Function.update t.stage i (.going (next ())), t.trace ++ [(i, ⟨.acquire name, ()⟩)]⟩
        blocks s ((es.filter (·.isEffect)).map (i, ·)) [i] ∧
      m.Underway values i s es (next ()) (m.steering c') .entered := by
  obtain ⟨blocks, hdone⟩ := h.free hnobody
  have hcall : m.call values i = .ask (.acquire name) next := by
    rw [turn] at hfresh
    exact (Stage.going.inj hfresh).symm
  have hunder : m.Underway values i (m.steering t.cluster) [] (.ask (.acquire name) next)
      (m.steering t.cluster) .outside := hcall ▸ Underway.begin t.cluster i
  exact ⟨blocks, _, [⟨.acquire name, ()⟩], hdone.exchange turn rfl rfl rfl rfl,
    hunder.exchange trivial answered nofun⟩

/-! ## 3. The invariant -/

variable (m values) in
structure Linear (c : Cluster) (t : Calls n) (g : Fin n → Transition) : Prop where
  locks : Team.LockOrder m.actor .transition t (Transition.inside ∘ g)
  fresh : ∀ i, i ∉ t.acquired → t.stage i = .going (m.call values i) ∧ g i = opening values i
  begun : ∀ i ∈ t.acquired, (Status.ofText? (values i)).isSome ∧ g i ≠ .outside
  once : t.acquired.Nodup
  progress : m.Progress values c t g

theorem Linear.start
    (hfree : c.locks.queue ⟨m.here, m.machine, .transition⟩ = []) :
    m.Linear values c (.start c (m.call values)) (opening values) where
  locks := .start (fun _ => hfree) opening_inside
  fresh i _ := ⟨rfl, rfl⟩
  begun i hi := by cases hi
  once := List.nodup_nil
  progress := .start c

end

section
variable {r : Request} {reply : r.Reply} {c' : Cluster} {q : Transition}
  {next : r.Reply → Handler (Except HandlerError (List ClusterEvent))}

/-- While a call has the lock, whatever comes of its turn, no other call has it. -/
theorem Linear.alone (h : m.Linear values c t g) (turn : t.stage i = .going (.ask r next))
    (hin : (g i).inside = true) {stage : Stage (Except HandlerError (List ClusterEvent))}
    {rest : Handler (Except HandlerError (List ClusterEvent))}
    (hj : (Function.update g i q j).inside = true)
    (hrest : Function.update t.stage i stage j = .going rest) : j = i := by
  by_contra hji
  rw [Function.update_of_ne hji] at hj hrest
  exact hji (h.locks.exclusive m.actor_injective ⟨hj, rest, hrest⟩ ⟨hin, _, turn⟩ rfl)

/-- A call that never got the lock has not got it now. -/
theorem Linear.ne_of_fresh (h : m.Linear values c t g) (hin : (g i).inside = true)
    (hj : j ∉ t.acquired) : j ≠ i := by
  rintro rfl
  rw [(h.fresh j hj).2, opening_inside] at hin
  cases hin

abbrev after (t : Calls n) (i : Fin n) (c' : Cluster)
    (rest : Handler (Except HandlerError (List ClusterEvent))) (e : Exchange) : Calls n :=
  ⟨c', Function.update t.stage i (.going rest), t.trace ++ [(i, e)]⟩

theorem acquired_after (rest : Handler (Except HandlerError (List ClusterEvent))) (e : Exchange) :
    (after t i c' rest e).acquired = t.acquired ++ if e.takesLock then [i] else [] := by
  rw [Team.acquired, List.filter_append, List.map_append]
  cases he : e.takesLock <;> simp [he, Team.acquired]

/-- Exchanges of a call that has the lock are none of the others' business. -/
theorem Linear.others (h : m.Linear values c t g) (turn : t.stage i = .going (.ask r next))
    (hin : (g i).inside = true) {rest : Handler (Except HandlerError (List ClusterEvent))}
    {e : Exchange} (he : e.takesLock = false) (hq : q ≠ .outside) :
    (∀ j, j ∉ (after t i c' rest e).acquired →
      (after t i c' rest e).stage j = .going (m.call values j) ∧
        Function.update g i q j = opening values j) ∧
    (∀ j ∈ (after t i c' rest e).acquired, (Status.ofText? (values j)).isSome ∧
      Function.update g i q j ≠ .outside) ∧
    (after t i c' rest e).acquired.Nodup := by
  have hacquired : (after t i c' rest e).acquired = t.acquired := by
    rw [acquired_after, he]
    simp
  rw [hacquired]
  refine ⟨fun j hj => ?_, fun j hj => ?_, h.once⟩
  · obtain ⟨hstage, hopen⟩ := h.fresh j hj
    have hne := h.ne_of_fresh hin hj
    exact ⟨(Function.update_of_ne hne _ _).trans hstage, (Function.update_of_ne hne _ _).trans hopen⟩
  · refine ⟨(h.begun j hj).1, ?_⟩
    by_cases hji : j = i
    · subst hji
      rw [Function.update_self]
      exact hq
    · rw [Function.update_of_ne hji]
      exact (h.begun j hj).2

theorem Linear.goOn (h : m.Linear values c t g) (turn : t.stage i = .going (.ask r next))
    (hin : (g i).inside = true) (hq : q.inside = true)
    (he : (⟨r, reply⟩ : Exchange).takesLock = false)
    (hlocks : Team.LockOrder m.actor .transition (after t i c' (next reply) ⟨r, reply⟩)
      (Transition.inside ∘ Function.update g i q))
    (hunder : ∀ {s es}, m.Underway values i s es (.ask r next) (m.steering t.cluster) (g i) →
      m.Underway values i s (es ++ [⟨r, reply⟩]) (next reply) (m.steering c') q) :
    m.Linear values c (after t i c' (next reply) ⟨r, reply⟩) (Function.update g i q) := by
  have hqo : q ≠ .outside := by
    rintro rfl
    cases hq
  obtain ⟨hfresh, hbegun, honce⟩ := h.others turn hin he hqo
  refine ⟨hlocks, hfresh, hbegun, honce, ?_⟩
  constructor
  case free =>
    intro hnobody
    -- The call is still inside.
    refine absurd ?_ (hnobody i)
    exact ⟨by rw [Function.comp_apply, Function.update_self, hq], next reply, Function.update_self ..⟩
  case taken =>
    intro j rest hj hjin
    obtain rfl := h.alone turn hin hjin hj
    obtain ⟨blocks, s, es, hdone, hu⟩ := h.progress.taken j _ turn hin
    obtain rfl : next reply = rest :=
      Stage.going.inj ((Function.update_self j _ t.stage).symm.trans hj)
    refine ⟨blocks, s, es ++ [⟨r, reply⟩], hdone.add turn rfl rfl he, ?_⟩
    rw [Function.update_self]
    exact hunder hu

/-- The call that has the lock gives it up, and is at its end. -/
theorem Linear.leave (h : m.Linear values c t g)
    {next : Unit → Handler (Except HandlerError (List ClusterEvent))} {name : LockName}
    (turn : t.stage i = .going (.ask (.release name) next)) (hin : (g i).inside = true)
    (answered : t.cluster.answer (m.actor i) (.release name) = (c', some ()))
    {x : Except HandlerError (List ClusterEvent)} (hend : next () = .done x)
    (hlocks : Team.LockOrder m.actor .transition (after t i c' (next ()) ⟨.release name, ()⟩)
      (Transition.inside ∘ Function.update g i .left)) :
    m.Linear values c (after t i c' (next ()) ⟨.release name, ()⟩) (Function.update g i .left) := by
  obtain ⟨hfresh, hbegun, honce⟩ := h.others (q := .left) (e := ⟨.release name, ()⟩) turn hin
    rfl nofun
  refine ⟨hlocks, hfresh, hbegun, honce, ?_⟩
  constructor
  case free =>
    intro _
    -- Its block is complete and becomes the last one.
    obtain ⟨blocks, s, es, hdone, hu⟩ := h.progress.taken i _ turn hin
    have hu := hu.exchange (q := .published) trivial answered fun _ => rfl
    rw [hend] at hu
    obtain ⟨c₀, hc₀, hnow, hresult, heffects⟩ := hu.finished
    refine ⟨blocks ++ [(i, c₀)], (hdone.add turn rfl rfl rfl).close hc₀ hnow hresult heffects ?_⟩
    exact (Function.update_self i _ t.stage).trans (congrArg Stage.going hend)
  case taken =>
    intro j rest hj hjin
    obtain rfl := h.alone turn hin hjin hj
    rw [Function.update_self] at hjin
    cases hjin

/-- A call takes the lock, which nobody has. -/
theorem Linear.enter (h : m.Linear values c t g)
    {next : Unit → Handler (Except HandlerError (List ClusterEvent))} {name : LockName}
    (turn : t.stage i = .going (.ask (.acquire name) next)) (hout : g i = .outside)
    (hvalid : (Status.ofText? (values i)).isSome = true)
    (answered : t.cluster.answer (m.actor i) (.acquire name) = (c', some ()))
    (hlocks : Team.LockOrder m.actor .transition (after t i c' (next ()) ⟨.acquire name, ()⟩)
      (Transition.inside ∘ Function.update g i .entered)) :
    m.Linear values c (after t i c' (next ()) ⟨.acquire name, ()⟩)
      (Function.update g i .entered) := by
  have hnew : i ∉ t.acquired := fun hi => (h.begun i hi).2 hout
  have hacquired : (after t i c' (next ()) ⟨.acquire name, ()⟩).acquired = t.acquired ++ [i] :=
    acquired_after _ _
  have hinside : (after t i c' (next ()) ⟨.acquire name, ()⟩).Inside
      (Transition.inside ∘ Function.update g i .entered) i :=
    ⟨by rw [Function.comp_apply, Function.update_self]; rfl, next (), Function.update_self ..⟩
  -- Whoever was inside still is, and cannot be so together with this call.
  have hnobody : ∀ j, ¬ t.Inside (Transition.inside ∘ g) j := by
    rintro j ⟨hj, p, hp⟩
    have hji : j ≠ i := by
      rintro rfl
      rw [Function.comp_apply, hout] at hj
      cases hj
    refine hji (hlocks.exclusive m.actor_injective ⟨?_, p, ?_⟩ hinside rfl)
    · rw [Function.comp_apply, Function.update_of_ne hji]
      exact hj
    · exact (Function.update_of_ne hji _ _).trans hp
  refine ⟨hlocks, ?fresh, ?begun, ?once, fun hnone => absurd hinside (hnone i), ?taken⟩
  case fresh =>
    intro j hj
    rw [hacquired, List.mem_append, not_or, List.mem_singleton] at hj
    obtain ⟨hstage, hopen⟩ := h.fresh j hj.1
    exact ⟨(Function.update_of_ne hj.2 _ _).trans hstage, (Function.update_of_ne hj.2 _ _).trans hopen⟩
  case begun =>
    intro j hj
    rw [hacquired] at hj
    by_cases hji : j = i
    · subst hji
      rw [Function.update_self]
      exact ⟨hvalid, nofun⟩
    · rw [Function.update_of_ne hji]
      exact h.begun j ((List.mem_append.1 hj).resolve_right fun hi => hji (List.mem_singleton.1 hi))
  case once =>
    rw [hacquired]
    refine List.nodup_append.2 ⟨h.once, List.nodup_singleton _, ?_⟩
    rintro x hx y hy rfl
    rw [List.mem_singleton.1 hy] at hx
    exact hnew hx
  case taken =>
    intro j rest hj hjin
    by_cases hji : j = i
    · subst hji
      obtain rfl : next () = rest :=
        Stage.going.inj ((Function.update_self j _ t.stage).symm.trans hj)
      rw [Function.update_self]
      exact h.progress.enter hnobody (h.fresh j hnew).1 turn answered
    · rw [Function.update_of_ne hji] at hjin
      exact absurd ⟨hjin, rest, (Function.update_of_ne hji _ _).symm.trans hj⟩ (hnobody j)

/-- The call that has the lock stops, its clock being at its end. -/
theorem Linear.stop (h : m.Linear values c t g) (turn : t.stage i = .going (.ask r next))
    (hin : (g i).inside = true) (hr : r.Steered)
    (answered : t.cluster.answer (m.actor i) r = (c', none)) {c'' : Cluster}
    (hsteering : m.steering c'' = m.steering c')
    (hlocks : Team.LockOrder m.actor .transition
      (⟨c'', Function.update t.stage i .stopped, t.trace⟩ : Calls n) (Transition.inside ∘ g)) :
    m.Linear values c ⟨c'', Function.update t.stage i .stopped, t.trace⟩ g := by
  refine ⟨hlocks, ?fresh, h.begun, h.once, ?free, ?taken⟩
  case fresh =>
    intro j hj
    obtain ⟨hstage, hopen⟩ := h.fresh j hj
    exact ⟨(Function.update_of_ne (h.ne_of_fresh hin hj) _ _).trans hstage, hopen⟩
  case free =>
    intro _
    -- Alone it would have stopped there as well, so its block is complete.
    obtain ⟨blocks, s, es, hdone, hu⟩ := h.progress.taken i _ turn hin
    obtain ⟨c₀, hc₀, hnow, hresult, heffects⟩ := hu.stopped hr answered
    rw [hsteering]
    refine ⟨blocks ++ [(i, c₀)], Done.close ?_ hc₀ hnow hresult heffects (Function.update_self ..)⟩
    exact ⟨hdone.turn, hdone.order, hdone.effects, fun b hb => (hdone.results b hb).of_update turn rfl⟩
  case taken =>
    intro j rest hj hjin
    rw [← Function.update_eq_self i g] at hjin
    obtain rfl := h.alone turn hin hjin hj
    cases (Function.update_self j _ t.stage).symm.trans hj

/-- Nothing but a drain has to do with the clock, so a call that its clock stops is draining. -/
theorem draining_of_stopped (answered : t.cluster.answer (m.actor i) r = (c', none))
    (follows : ∀ reply, ∃ q, m.conduct values i (g i) r reply q) :
    g i = .draining ∧ Transition.Polls r := by
  have hclock := Cluster.clock_of_none answered
  obtain ⟨reply⟩ := r.reply_nonempty
  obtain ⟨q, target, -, hr⟩ := follows reply
  generalize g i = p at hr
  cases hr with
  | poll hpoll => exact ⟨rfl, hpoll⟩
  | _ => simp [Request.parts] at hclock

end

theorem Linear.move (h : m.Linear values c t g)
    (hf : t'.Following (m.conduct values) (fun _ => Transition.Ending) g')
    (hm : Team.Move m.actor (m.Elsewhere n) (m.conduct values) t g t' g') :
    m.Linear values c t' g' := by
  have hlocks := h.locks.move m.actor_injective Transition.inside conduct_locks (·.claims) hm
  cases hm with
  | @exchange i r next c' reply q turn answered admitted follows =>
    obtain ⟨target, htarget, hr⟩ := follows
    have hrest := hf i (next reply) (Function.update_self i _ t.stage)
    rw [Function.update_self] at hrest
    generalize hp : g i = p at hr
    cases hr with
    | enter => exact h.enter turn hp (by rw [htarget]; rfl) answered hlocks
    | leave =>
      obtain ⟨x, hend⟩ := done_of_left hrest
      exact h.leave turn (by rw [hp]; rfl) answered hend hlocks
    | publish =>
      refine h.goOn turn (by rw [hp]; rfl) rfl rfl hlocks fun hu => ?_
      rw [hp] at hu
      exact hu.publish answered
    | poll hpoll =>
      have hsteered := hpoll.steered
      refine h.goOn turn (by rw [hp]; rfl) rfl hpoll.not_acquire hlocks fun hu => ?_
      exact hu.exchange hsteered answered (by rw [hp]; exact nofun)
    | log hin =>
      exact h.goOn turn (by rw [hp]; exact hin) hin rfl hlocks fun hu =>
        hu.exchange trivial answered fun he => hp.symm.trans he
    | read | pause | finish | settle =>
      exact h.goOn turn (by rw [hp]; rfl) rfl rfl hlocks fun hu =>
        hu.exchange trivial answered (by rw [hp]; exact nofun)
  | @wait i r next c' reply q turn answered refused follows =>
    obtain ⟨name, rfl, rfl⟩ := Cluster.of_refused answered refused
    exact ⟨hlocks, h.fresh, h.begun, h.once, h.progress.congr rfl rfl rfl⟩
  | @stop i r next c' turn answered follows =>
    obtain ⟨hp, hpoll⟩ := draining_of_stopped answered follows
    exact h.stop turn (by rw [hp]; rfl) hpoll.steered answered rfl hlocks
  | elsewhere happened =>
    exact ⟨hlocks, h.fresh, h.begun, h.once, h.progress.congr rfl rfl happened.steering⟩

/-! ## 4. Drains -/

variable (values) in
/-- What every call has written so far; and that, as long as one drains, the status is PAUSE and
nothing was written or published since. -/
structure Drains (m : StatusMachine) (t : Calls n) (g : Fin n → Transition) : Prop where
  writes : ∀ i target, Status.ofText? (values i) = some target → (g i).HasWritten target (t.writes i)
  quiet : ∀ i p, g i = .draining → t.stage i = .going p →
    (m.steering t.cluster).status.status = .pause ∧ QuietSincePause t i

theorem Drains.start (c : Cluster) :
    Drains values m (.start c (m.call values)) (opening values) where
  writes i target htarget := by
    rw [opening, htarget]
    rfl
  quiet i p hi := by
    have hin : (opening values i).inside = false := opening_inside i
    rw [hi] at hin
    cases hin

theorem writes_append {t t' : Calls n} {i : Fin n} {e : Exchange}
    (htrace : t'.trace = t.trace ++ [(i, e)]) (j : Fin n) :
    t'.writes j = t.writes j ++ if j = i then e.written?.toList else [] := by
  rw [Team.writes, htrace, List.filter_append, List.filterMap_append, ← Team.writes]
  congr 1
  by_cases hj : j = i
  · subst hj
    cases he : e.written? <;> simp [he]
  · simp [hj, Ne.symm hj]

theorem QuietSincePause.append (h : QuietSincePause t j) (htrace : t'.trace = t.trace ++ [(i, e)])
    (he : e.isEffect = false) : QuietSincePause t' j := by
  obtain ⟨before, previous, after, heq, hafter⟩ := h
  refine ⟨before, previous, after ++ [(i, e)], ?_, fun x hx => ?_⟩
  · rw [htrace, heq, List.append_assoc, List.cons_append]
  · rcases List.mem_append.1 hx with hx | hx
    · exact hafter x hx
    · rw [List.mem_singleton.1 hx]
      exact he

/-- A call that is not draining and does nothing to the status leaves the drains of others alone. -/
theorem Drains.quiet_after (h : Drains values m t g) {c' : Cluster} {r : Request} {reply : r.Reply}
    {rest : Handler (Except HandlerError (List ClusterEvent))} {q : Transition}
    (answered : t.cluster.answer (m.actor i) r = (c', some reply)) (hr : .status ∉ r.parts)
    (he : (⟨r, reply⟩ : Exchange).isEffect = false)
    (hq : q = .draining → ∃ p, g i = .draining ∧ t.stage i = .going p) :
    ∀ j p, Function.update g i q j = .draining →
      (after t i c' rest ⟨r, reply⟩).stage j = .going p →
      (m.steering c').status.status = .pause ∧
        QuietSincePause (after t i c' rest ⟨r, reply⟩) j := by
  intro j p hj hp
  have hstatus : (m.steering c').status = (m.steering t.cluster).status :=
    Cluster.answered_status answered hr m.here
  have hold : ∃ p, g j = .draining ∧ t.stage j = .going p := by
    by_cases hji : j = i
    · subst hji
      rw [Function.update_self] at hj
      exact hq hj
    · rw [Function.update_of_ne hji] at hj
      exact ⟨p, hj, (Function.update_of_ne hji _ _).symm.trans hp⟩
  obtain ⟨p', hg, hstage⟩ := hold
  obtain ⟨hpause, hquiet⟩ := h.quiet j p' hg hstage
  rw [hstatus]
  exact ⟨hpause, hquiet.append rfl he⟩

/-- What the others have written stays when a call has an exchange. -/
theorem Drains.writes_after (h : Drains values m t g) {target : Status}
    (htarget : Status.ofText? (values i) = some target) {c' : Cluster}
    {rest : Handler (Except HandlerError (List ClusterEvent))} {q : Transition}
    (hnew : q.HasWritten target (t.writes i ++ e.written?.toList)) :
    ∀ j target', Status.ofText? (values j) = some target' →
      (Function.update g i q j).HasWritten target' ((after t i c' rest e).writes j) := by
  intro j target' htarget'
  rw [writes_append (t := t) rfl]
  by_cases hji : j = i
  · subst hji
    obtain rfl : target = target' := Option.some.inj (htarget.symm.trans htarget')
    rw [Function.update_self, if_pos rfl]
    exact hnew
  · rw [Function.update_of_ne hji, if_neg hji, List.append_nil]
    exact h.writes j target' htarget'

/-- A call that has the lock and does not drain afterwards leaves nobody draining. -/
theorem Linear.nobody_drains (hl : m.Linear values c t g) {r : Request}
    {next : r.Reply → Handler (Except HandlerError (List ClusterEvent))}
    (turn : t.stage i = .going (.ask r next)) (hin : (g i).inside = true) {q : Transition}
    (hj : Function.update g i q j = .draining) (hq : q ≠ .draining) {c' : Cluster}
    {rest p : Handler (Except HandlerError (List ClusterEvent))} :
    (after t i c' rest e).stage j ≠ .going p := by
  intro hp
  obtain rfl := hl.alone turn hin (by rw [hj]; rfl) hp
  rw [Function.update_self] at hj
  exact hq hj

theorem Drains.exchange (h : Drains values m t g) (hl : m.Linear values c t g) {r : Request}
    {reply : r.Reply} {next : r.Reply → Handler (Except HandlerError (List ClusterEvent))}
    {c' : Cluster} {q : Transition} (turn : t.stage i = .going (.ask r next))
    (answered : t.cluster.answer (m.actor i) r = (c', some reply))
    (follows : m.conduct values i (g i) r reply q) :
    Drains values m (after t i c' (next reply) ⟨r, reply⟩) (Function.update g i q) := by
  obtain ⟨target, htarget, hr⟩ := follows
  have hi := h.writes i target htarget
  generalize hp : g i = p at hr hi
  cases hr with
  | enter | read =>
    refine ⟨h.writes_after htarget ?_, h.quiet_after answered (by simp [Request.parts]) rfl (by simp)⟩
    rw [show t.writes i = [] from hi]
    rfl
  | poll hpoll =>
    refine ⟨h.writes_after htarget ?_, h.quiet_after answered hpoll.keeps_status hpoll.not_effect
      fun _ => ⟨_, hp, turn⟩⟩
    rw [hpoll.not_written, show t.writes i = [.pause] from hi]
    rfl
  | log hlog =>
    refine ⟨h.writes_after htarget ?_, h.quiet_after answered (by simp [Request.parts]) rfl fun hq =>
      ⟨_, hp.trans hq, turn⟩⟩
    rw [show (⟨.log _, ()⟩ : Exchange).written?.toList = [] from rfl, List.append_nil]
    exact hi
  | @pause previous ht =>
    refine ⟨h.writes_after htarget ?_, fun j rest hj hrest => ?_⟩
    · rw [show t.writes i = [] from hi]
      rfl
    · -- The one that drains is the one that has just written PAUSE.
      obtain rfl := hl.alone turn (by rw [hp]; rfl) (by rw [hj]; rfl) hrest
      exact ⟨Cluster.status_of_writeStatus (Cluster.of_replied answered),
        t.trace, previous, [], rfl, by simp⟩
  | finish | settle =>
    refine ⟨h.writes_after htarget ?_, fun j rest hj hrest =>
      absurd hrest (hl.nobody_drains turn (by rw [hp]; rfl) hj (by simp))⟩
    exact List.getLast?_concat
  | publish =>
    refine ⟨h.writes_after htarget ?_, fun j rest hj hrest =>
      absurd hrest (hl.nobody_drains turn (by rw [hp]; rfl) hj (by simp))⟩
    rw [show (⟨.publish _ _, _⟩ : Exchange).written?.toList = [] from rfl, List.append_nil]
    exact hi
  | leave =>
    exact ⟨h.writes_after htarget trivial, fun j rest hj hrest =>
      absurd hrest (hl.nobody_drains turn (by rw [hp]; rfl) hj (by simp))⟩

theorem Drains.move (h : Drains values m t g) (hl : m.Linear values c t g)
    (hm : Team.Move m.actor (m.Elsewhere n) (m.conduct values) t g t' g') :
    Drains values m t' g' := by
  cases hm with
  | exchange turn answered admitted follows => exact h.exchange hl turn answered follows
  | @wait i r next c' reply q turn answered refused follows =>
    obtain ⟨name, rfl, rfl⟩ := Cluster.of_refused answered refused
    exact ⟨h.writes, h.quiet⟩
  | @stop i r next c' turn answered follows =>
    refine ⟨h.writes, fun j rest hj hrest => ?_⟩
    have hin : (g i).inside = true := by
      rw [(draining_of_stopped answered follows).1]
      rfl
    rw [← Function.update_eq_self i g] at hj
    obtain rfl := hl.alone turn hin (by rw [hj]; rfl) hrest
    cases (Function.update_self j _ t.stage).symm.trans hrest
  | elsewhere happened =>
    refine ⟨h.writes, fun j p hj hp => ?_⟩
    show (m.steering _).status.status = .pause ∧ _
    rw [happened.steering]
    exact h.quiet j p hj hp

/-! ## 5. Wherever the calls get, and where they end -/

theorem following_start : Team.Following (m.conduct values) (fun _ => Transition.Ending)
    (.start c (m.call values)) (opening values) := by
  rintro i p hp
  cases hp
  exact call_follows i

theorem Drains.paused (h : Drains values m t g)
    (hf : t.Following (m.conduct values) (fun _ => Transition.Ending) g) (hi : Draining values t i) :
    (t.cluster.node m.here).status.status = .pause ∧ QuietSincePause t i := by
  obtain ⟨p, hp⟩ : ∃ p, t.stage i = .going p := by
    cases hs : t.stage i with
    | going p => exact ⟨p, rfl⟩
    | stopped => exact absurd hs (hi.pending none)
  have hwritten := h.writes i _ hi.target
  have hlast := hi.paused
  have hrest := hf i p hp
  have hquiet := h.quiet i p
  generalize g i = q at hwritten hrest hquiet
  -- What it has written last tells where it is.
  cases q with
  | draining => exact hquiet rfl hp
  | outside | entered =>
    rw [show t.writes i = [] from hwritten] at hlast
    cases hlast
  | settled | published =>
    rw [show (t.writes i).getLast? = _ from hwritten] at hlast
    cases hlast
  | left =>
    obtain ⟨x, rfl⟩ := done_of_left hrest
    exact absurd hp (hi.pending (some x))

end StatusMachine

end ClusterKeeper
