import ClusterKeeper.Proofs.Resumption.Conduct

/-!
# `Proofs/Resumption/AtMostOnce.lean` — no task is started twice

Surviving nodes are told of departures, of any of them any number of times, and take over tasks
side by side in any order. Three things are kept apart:

* `Departures` says who is told of what; what happens beside the handlings is `Elsewhere`.
* `Books` compares what the handlings have done so far, to index and runners, with what each of
  them has in mind.
* `Sound` is the invariant of the team: the books are right, and the locks are in order.

Why it holds: while a batch has the lock nobody else writes the entry of its node. So what was read
with the lock stays right about the tasks still to be decided on, which are all different; and what
was started is recorded before the lock is given up, so whoever takes it next knows of it.
-/

set_option autoImplicit false

namespace ClusterKeeper

/-! ## 1. What was started since -/

namespace Cluster

/-- The tasks started on a node between two states of the cluster. -/
def startedSince (c c' : Cluster) (id : NodeId) : List TaskId :=
  (c'.node id).runner.started.toList.drop (c.node id).runner.started.size

variable {c c' c'' : Cluster} {id : NodeId} {task : TaskId}

@[simp] theorem startedSince_self : c.startedSince c id = [] := by
  rw [startedSince, ← History.length_toList, List.drop_length]

theorem startedSince_congr (h : (c''.node id).runner.started = (c'.node id).runner.started) :
    c.startedSince c'' id = c.startedSince c' id := by
  rw [startedSince, h, startedSince]

theorem startedSince_add
    (hold : (c.node id).runner.started.toList <+: (c'.node id).runner.started.toList)
    (h : (c''.node id).runner.started = (c'.node id).runner.started.add task) :
    c.startedSince c'' id = c.startedSince c' id ++ [task] := by
  have hlen : (c.node id).runner.started.size ≤ (c'.node id).runner.started.toList.length := by
    rw [← History.length_toList]
    exact hold.length_le
  rw [startedSince, h, History.toList_add, List.drop_append_of_le_length hlen, startedSince]

def StartedOn (c c' : Cluster) (here : NodeId) (task : TaskId) : Prop :=
  ∀ id, (c'.node id).runner.started =
    if id = here then (c.node here).runner.started.add task else (c.node id).runner.started

def RecordedFor (c c' : Cluster) (here : NodeId) (task : TaskId) : Prop :=
  ∀ id, c'.index.tasks id =
    if id = here then (c.index.tasks here).insert task else c.index.tasks id

/-- No entry has changed, and nothing was started. -/
structure Idle (c c' : Cluster) : Prop where
  entries : ∀ id, c'.index.tasks id = c.index.tasks id
  started : ∀ id, (c'.node id).runner.started = (c.node id).runner.started

variable {here : NodeId} {x : TaskId}

theorem Idle.of_answered {a : Actor} {r : Request} {reply : Option r.Reply}
    (answered : c.answer a r = (c', reply)) (hindex : .index ∉ r.parts)
    (hrunner : .runner ∉ r.parts) : c.Idle c' where
  entries id := by rw [answered_index answered hindex]
  started id := by rw [answered_runner answered hrunner]

theorem Idle.of_startFails {id : NodeId} {machine activity : Nat} {e : StartError}
    (answered : c.answer ⟨id, machine, activity⟩ (.startTask task) = (c', some (.error e))) :
    c.Idle c' where
  entries id := by rw [answered_index answered (by simp [Request.parts])]
  started := startTask_error (of_replied answered)

theorem IndexAvailable.recordedFor (h : c.IndexAvailable) {a : Actor}
    {reply : Option (Except IndexError Unit)}
    (answered : c.answer a (.addTask here task) = (c', reply)) : c.RecordedFor c' here task := by
  rw [Cluster.answer, h.addTask] at answered
  cases answered
  exact fun id => tasks_addTask h.online _ _ _

theorem StartedOn.since (h : c'.StartedOn c'' here task)
    (hold : (c.node here).runner.started.toList <+: (c'.node here).runner.started.toList) :
    c.startedSince c'' id =
      if id = here then c.startedSince c' id ++ [task] else c.startedSince c' id := by
  split
  · next he =>
    subst he
    exact startedSince_add hold (by rw [h, if_pos rfl])
  · next he => exact startedSince_congr (by rw [h, if_neg he])

theorem StartedOn.mem_since (h : c'.StartedOn c'' here task)
    (hold : (c.node here).runner.started.toList <+: (c'.node here).runner.started.toList) :
    x ∈ c.startedSince c'' id ↔ x ∈ c.startedSince c' id ∨ (id = here ∧ x = task) := by
  rw [h.since hold]
  split
  · next he => simp [he]
  · next he => simp [he]

theorem RecordedFor.mem_tasks (h : c'.RecordedFor c'' here task) :
    x ∈ c''.index.tasks id ↔ x ∈ c'.index.tasks id ∨ (id = here ∧ x = task) := by
  rw [h]
  split
  · next he => rw [OrderedSet.mem_insert, he]; simp [or_comm]
  · next he => simp [he]

end Cluster

/-! ## 2. Who is told of what -/

/-- Departures, each told to a node that survives: to which, and whose. -/
structure Departures (survivors : Set NodeId) (n : Nat) where
  node : Fin n → NodeId
  departed : Fin n → Member
  survives : ∀ i, node i ∈ survivors
  gone : ∀ i, (departed i).id ∉ survivors

namespace Departures

variable {survivors : Set NodeId} {n : Nat} (d : Departures survivors n)

def actor (i : Fin n) : Actor := ⟨d.node i, 0, i⟩

def handling (i : Fin n) : Handler (Except HandlerError (List ClusterEvent)) :=
  (Handler.resumeTasks (d.node i) (d.departed i)).run

def conduct (i : Fin n) : Rule Request.Reply Batch :=
  Batch.Conduct (d.node i) (d.departed i).id

/-- What may happen beside the handlings: the index stays there, and neither the entries that they
are about nor what the survivors have started nor the claims on their locks change. -/
structure Elsewhere (c c' : Cluster) : Prop where
  available : c'.IndexAvailable
  entries : ∀ id ∈ survivors, c'.index.tasks id = c.index.tasks id
  departed : ∀ i, c'.index.tasks (d.departed i).id = c.index.tasks (d.departed i).id
  started : ∀ id ∈ survivors, (c'.node id).runner.started = (c.node id).runner.started
  claims : Team.KeepsClaims d.actor .leaveBatch c c'

theorem actor_injective : Function.Injective fun i => (d.actor i).activity :=
  Fin.val_injective

end Departures

/-! ## 3. One batch -/

namespace Batch

/-- The task that was started and is still to be recorded. -/
def unrecorded : Batch → Option TaskId
  | started _ task _ => some task
  | _ => none

/-- What a batch has in mind is right, given the tasks recorded on its node. -/
def Sound (entry : OrderedSet TaskId) : Batch → Prop
  | deciding known left => left.Nodup ∧ ∀ x ∈ left, x ∈ entry → x ∈ known
  | chosen known task left =>
    (task :: left).Nodup ∧ ¬ task ∈ entry ∧ ∀ x ∈ left, x ∈ entry → x ∈ known
  | started known task left => (task :: left).Nodup ∧ ∀ x ∈ left, x ∈ entry → x ∈ known
  | _ => True

/-- Without the lock a batch has nothing in mind. -/
theorem sound_of_outside {b : Batch} (h : b.inside = false) (entry : OrderedSet TaskId) :
    b.Sound entry := by
  cases b <;> trivial

theorem inside_of_unrecorded {b : Batch} {task : TaskId} (h : b.unrecorded = some task) :
    b.inside = true := by
  cases b <;> first | rfl | cases h

variable {here departed : NodeId} {b b' : Batch} {r : Request} {reply : r.Reply}
  {c c' : Cluster} {a : Actor}

theorem Conduct.timeless (h : Conduct here departed b r reply b') : .clock ∉ r.parts := by
  cases h <;> simp [Request.parts]

/-- A batch writes no entry but that of its node. -/
theorem Conduct.tasks_eq (h : Conduct here departed b r reply b') (hc : c.IndexAvailable)
    (ha : c.answer a r = (c', some reply)) {id : NodeId} (hid : id ≠ here) :
    c'.index.tasks id = c.index.tasks id := by
  have hsame : .index ∉ r.parts → c'.index.tasks id = c.index.tasks id := by
    intro hparts
    rw [Cluster.answered_index ha hparts]
  cases h with
  | @record known task => rw [hc.recordedFor ha id, if_neg hid]
  | _ => exact hsame (by simp [Request.parts])

end Batch

/-! ## 4. The books -/

namespace Departures

variable {survivors : Set NodeId} {n : Nat} (d : Departures survivors n)

/-- What was done between two states of the cluster, against what the batches have in mind. -/
structure Books (c c' : Cluster) (g : Fin n → Batch) : Prop where
  batch : ∀ i, (g i).Sound (c'.index.tasks (d.node i))
  /-- Nothing is removed from an entry. -/
  kept : ∀ id ∈ survivors, ∀ x, x ∈ c.index.tasks id → x ∈ c'.index.tasks id
  grown : ∀ id ∈ survivors,
    (c.node id).runner.started.toList <+: (c'.node id).runner.started.toList
  once : ∀ id ∈ survivors, (c.startedSince c' id).Nodup
  new : ∀ id ∈ survivors, ∀ x ∈ c.startedSince c' id, ¬ x ∈ c.index.tasks id
  /-- What was started is recorded, or will be by the batch that started it. -/
  recorded : ∀ id ∈ survivors, ∀ x ∈ c.startedSince c' id,
    x ∈ c'.index.tasks id ∨ ∃ i, d.node i = id ∧ (g i).unrecorded = some x

variable {d} {c c' c'' : Cluster} {g : Fin n → Batch} {i : Fin n}
  {known : OrderedSet TaskId} {task : TaskId} {left : List TaskId}

theorem Books.start (h : ∀ i, g i = .fresh) : d.Books c c g where
  batch i := by
    rw [h i]
    trivial
  kept _ _ _ hx := hx
  grown _ _ := List.prefix_rfl
  once id _ := by
    rw [Cluster.startedSince_self]
    exact List.nodup_nil
  new id _ x hx := by
    rw [Cluster.startedSince_self] at hx
    cases hx
  recorded id _ x hx := by
    rw [Cluster.startedSince_self] at hx
    cases hx

/-- The books stay right as long as nothing is recorded or started on the survivors. -/
theorem Books.untouched (h : d.Books c c' g)
    (hentries : ∀ id ∈ survivors, c''.index.tasks id = c'.index.tasks id)
    (hstarted : ∀ id ∈ survivors, (c''.node id).runner.started = (c'.node id).runner.started) :
    d.Books c c'' g where
  batch j := by
    rw [hentries _ (d.survives j)]
    exact h.batch j
  kept id hid x hx := by
    rw [hentries id hid]
    exact h.kept id hid x hx
  grown id hid := by
    rw [hstarted id hid]
    exact h.grown id hid
  once id hid := by
    rw [Cluster.startedSince_congr (hstarted id hid)]
    exact h.once id hid
  new id hid := by
    rw [Cluster.startedSince_congr (hstarted id hid)]
    exact h.new id hid
  recorded id hid := by
    rw [Cluster.startedSince_congr (hstarted id hid), hentries id hid]
    exact h.recorded id hid

/-- A batch may change its mind as long as that is right. -/
theorem Books.advance (h : d.Books c c' g) {b : Batch}
    (hb : b.Sound (c'.index.tasks (d.node i))) (hu : b.unrecorded = (g i).unrecorded) :
    d.Books c c' (Function.update g i b) where
  batch j := by
    by_cases hj : j = i
    · subst hj
      rw [Function.update_self]
      exact hb
    · rw [Function.update_of_ne hj]
      exact h.batch j
  kept := h.kept
  grown := h.grown
  once := h.once
  new := h.new
  recorded id hid x hx := by
    rcases h.recorded id hid x hx with hrec | ⟨j, hj, hx⟩
    · exact .inl hrec
    · refine .inr ⟨j, hj, ?_⟩
      by_cases hji : j = i
      · subst hji
        rw [Function.update_self, hu, hx]
      · rw [Function.update_of_ne hji, hx]

/-- A batch has learned something. -/
theorem Books.learn (h : d.Books c c' g) {b b₀ : Batch} (hg : g i = b₀) (hidle : c'.Idle c'')
    (hb : b.Sound (c'.index.tasks (d.node i))) (hu : b.unrecorded = b₀.unrecorded) :
    d.Books c c'' (Function.update g i b) := by
  subst hg
  exact (h.advance hb hu).untouched (fun id _ => hidle.entries id) fun id _ => hidle.started id

/-- No other batch on this node has the lock. -/
def Alone (d : Departures survivors n) (g : Fin n → Batch) (i : Fin n) : Prop :=
  ∀ j, (g j).inside = true → d.node j = d.node i → j = i

/-- A chosen task has not been started before. -/
theorem Books.not_started (h : d.Books c c' g) (hg : g i = .chosen known task left)
    (hi : d.Alone g i) : task ∉ c.startedSince c' (d.node i) := by
  intro hx
  have hb := h.batch i
  rw [hg] at hb
  rcases h.recorded _ (d.survives i) _ hx with hrec | ⟨j, hj, hu⟩
  · exact hb.2.1 hrec
  · -- Whoever started it would be inside with this batch, that is, would be this batch.
    obtain rfl := hi j (Batch.inside_of_unrecorded hu) hj
    rw [hg] at hu
    cases hu

theorem Books.started (h : d.Books c c' g) (hg : g i = .chosen known task left)
    (hi : d.Alone g i) (hentries : ∀ id, c''.index.tasks id = c'.index.tasks id)
    (hstarted : c'.StartedOn c'' (d.node i) task) :
    d.Books c c'' (Function.update g i (.started known task left)) := by
  have hb := h.batch i
  rw [hg] at hb
  have hgrown := h.grown _ (d.survives i)
  constructor
  case batch =>
    intro j
    rw [hentries]
    by_cases hj : j = i
    · subst hj
      rw [Function.update_self]
      exact ⟨hb.1, hb.2.2⟩
    · rw [Function.update_of_ne hj]
      exact h.batch j
  case kept =>
    intro id hid x hx
    rw [hentries]
    exact h.kept id hid x hx
  case grown =>
    intro id hid
    rw [hstarted]
    split
    · next he =>
      rw [History.toList_add, ← he]
      exact (h.grown id hid).trans (List.prefix_append _ _)
    · exact h.grown id hid
  case once =>
    intro id hid
    rw [hstarted.since hgrown]
    split
    · -- Here one task more was started, which was not started before.
      next he =>
      subst he
      refine List.nodup_append.2 ⟨h.once _ hid, List.nodup_singleton _, ?_⟩
      rintro x hx y hy rfl
      rw [List.mem_singleton.1 hy] at hx
      exact h.not_started hg hi hx
    · exact h.once id hid
  case new =>
    intro id hid x hx
    rcases (hstarted.mem_since hgrown).1 hx with hx | ⟨rfl, rfl⟩
    · exact h.new id hid x hx
    · intro hx
      exact hb.2.1 (h.kept _ hid _ hx)
  case recorded =>
    intro id hid x hx
    rw [hentries]
    rcases (hstarted.mem_since hgrown).1 hx with hx | ⟨rfl, rfl⟩
    · rcases h.recorded id hid x hx with hrec | ⟨j, hj, hu⟩
      · exact .inl hrec
      · have hji : j ≠ i := by
          rintro rfl
          rw [hg] at hu
          cases hu
        exact .inr ⟨j, hj, by rw [Function.update_of_ne hji, hu]⟩
    · exact .inr ⟨i, rfl, by rw [Function.update_self]; rfl⟩

theorem Books.recording (h : d.Books c c' g) (hg : g i = .started known task left)
    (hi : d.Alone g i)
    (hentries : c'.RecordedFor c'' (d.node i) task)
    (hstarted : ∀ id, (c''.node id).runner.started = (c'.node id).runner.started) :
    d.Books c c'' (Function.update g i (.deciding known left)) := by
  have hsince : ∀ id, c.startedSince c'' id = c.startedSince c' id := by
    intro id
    exact Cluster.startedSince_congr (hstarted id)
  have hb := h.batch i
  rw [hg] at hb
  obtain ⟨hnodup, hknown⟩ := hb
  obtain ⟨hfresh, hnodup⟩ := List.nodup_cons.1 hnodup
  constructor
  case batch =>
    intro j
    by_cases hj : j = i
    · subst hj
      rw [Function.update_self]
      refine ⟨hnodup, fun x hx hmem' => ?_⟩
      -- What is recorded now is none of the tasks left, which are all different.
      rcases hentries.mem_tasks.1 hmem' with hold | ⟨-, rfl⟩
      · exact hknown x hx hold
      · exact absurd hx hfresh
    · rw [Function.update_of_ne hj]
      by_cases hin : (g j).inside = true
      · -- A batch that has a lock now has that of another node, whose entry stays.
        have hne : d.node j ≠ d.node i := fun he => hj (hi j hin he)
        rw [hentries, if_neg hne]
        exact h.batch j
      · exact Batch.sound_of_outside (Bool.eq_false_iff.2 hin) _
  case kept =>
    intro id hid x hx
    exact hentries.mem_tasks.2 (.inl (h.kept id hid x hx))
  case grown =>
    intro id hid
    rw [hstarted]
    exact h.grown id hid
  case once =>
    intro id hid
    rw [hsince]
    exact h.once id hid
  case new =>
    intro id hid x hx
    rw [hsince] at hx
    exact h.new id hid x hx
  case recorded =>
    intro id hid x hx
    rw [hsince] at hx
    rcases h.recorded id hid x hx with hrec | ⟨j, hj, hu⟩
    · exact .inl (hentries.mem_tasks.2 (.inl hrec))
    · by_cases hji : j = i
      · subst hji
        rw [hg] at hu
        obtain rfl : task = x := Option.some.inj hu
        exact .inl (hentries.mem_tasks.2 (.inr ⟨hj.symm, rfl⟩))
      · exact .inr ⟨j, hj, by rw [Function.update_of_ne hji]; exact hu⟩

/-! ## 5. The team -/

/-- The handlings under way. -/
abbrev Handlings (n : Nat) : Type := Team (Fin n) (Except HandlerError (List ClusterEvent))

variable (d) in
structure Sound (c : Cluster) (t : Handlings n) (g : Fin n → Batch) : Prop where
  available : t.cluster.IndexAvailable
  /-- A batch asks for nothing that takes time, so it never stops. -/
  going : ∀ i, t.stage i ≠ .stopped
  locks : Team.LockOrder d.actor .leaveBatch t (Batch.inside ∘ g)
  departed : ∀ i, t.cluster.index.tasks (d.departed i).id = c.index.tasks (d.departed i).id
  books : d.Books c t.cluster g

variable {t t' : Handlings n} {g' : Fin n → Batch}

theorem Sound.start (hindex : c.IndexAvailable)
    (hfree : ∀ i, c.locks.queue (Team.key d.actor .leaveBatch i) = []) :
    d.Sound c (.start c d.handling) fun _ => .fresh where
  available := hindex
  going i h := by cases h
  locks := .start hfree fun _ => rfl
  departed _ := rfl
  books := .start fun _ => rfl

theorem Sound.alone (h : d.Sound c t g) (hi : (g i).inside = true) : d.Alone g i := by
  have hin : ∀ j, (g j).inside = true → t.Inside (Batch.inside ∘ g) j := by
    intro j hj
    refine ⟨hj, ?_⟩
    cases hs : t.stage j with
    | going p => exact ⟨p, rfl⟩
    | stopped => exact absurd hs (h.going j)
  intro j hj hnode
  refine h.locks.exclusive d.actor_injective (hin j hj) (hin i hi) ?_
  show (d.actor j).lockKey _ = (d.actor i).lockKey _
  rw [actor, actor, hnode]
  rfl

/-- An exchange of a batch keeps the books right. -/
theorem Sound.exchange (h : d.Sound c t g) {r : Request} {reply : r.Reply} {b : Batch}
    (follows : d.conduct i (g i) r reply b)
    (answered : t.cluster.answer (d.actor i) r = (c', some reply)) :
    d.Books c c' (Function.update g i b) := by
  have hb := h.books.batch i
  unfold conduct at follows
  generalize hg : g i = b₀ at follows hb
  -- By all exchanges but two the batch only learns something.
  have hlearn := fun hi hr => h.books.learn (b := b) hg (.of_answered answered hi hr)
  cases follows with
  | log => exact hlearn (by simp [Request.parts]) (by simp [Request.parts]) hb rfl
  | unread | nothing | read | enter | refuse | leave | giveUp =>
    exact hlearn (by simp [Request.parts]) (by simp [Request.parts]) trivial rfl
  | @remember tasks known =>
    refine hlearn (by simp [Request.parts]) (by simp [Request.parts]) ?_ rfl
    rw [Cluster.answer, h.available.askTasks] at answered
    cases answered
    exact ⟨tasks.nodup_toList, fun x _ hx => hx⟩
  | pass =>
    refine hlearn (by simp [Request.parts]) (by simp [Request.parts]) ?_ rfl
    exact ⟨(List.nodup_cons.1 hb.1).2, fun x hx => hb.2 x (.tail _ hx)⟩
  | choose hk =>
    refine hlearn (by simp [Request.parts]) (by simp [Request.parts]) ?_ rfl
    exact ⟨hb.1, fun hx => hk (hb.2 _ (.head _) hx), fun x hx => hb.2 x (.tail _ hx)⟩
  | startFails =>
    refine h.books.learn hg (.of_startFails answered) ?_ rfl
    exact ⟨(List.nodup_cons.1 hb.1).2, hb.2.2⟩
  | start =>
    have hindex := Cluster.answered_index answered (by simp [Request.parts])
    exact h.books.started hg (h.alone (by rw [hg]; rfl)) (fun id => by rw [hindex])
      (Cluster.startTask_ok (Cluster.of_replied answered))
  | record =>
    have hrunner := Cluster.answered_runner answered (by simp [Request.parts])
    exact h.books.recording hg (h.alone (by rw [hg]; rfl)) (h.available.recordedFor answered)
      fun id => by rw [hrunner]

theorem Sound.move (h : d.Sound c t g) (hm : Team.Move d.actor d.Elsewhere d.conduct t g t' g') :
    d.Sound c t' g' := by
  have hlocks := h.locks.move d.actor_injective Batch.inside Batch.Conduct.locks (·.claims) hm
  have hgoing := hm.going Batch.Conduct.timeless h.going
  cases hm with
  | @exchange i r next c' reply b turn answered admitted follows =>
    refine ⟨?_, hgoing, hlocks, fun j => ?_, h.exchange follows answered⟩
    · show c'.IndexAvailable
      have := h.available.answer (d.actor i) r
      rwa [answered] at this
    · refine Eq.trans (follows.tasks_eq h.available answered ?_) (h.departed j)
      exact fun he => d.gone j (he ▸ d.survives i)
  | @wait i r next c' reply b turn answered refused follows =>
    obtain ⟨name, rfl, rfl⟩ := Cluster.of_refused answered refused
    exact ⟨⟨h.available.online, h.available.reads, h.available.writes⟩, hgoing, hlocks,
      h.departed, h.books.untouched (fun _ _ => rfl) fun _ _ => rfl⟩
  | stop turn answered follows =>
    exact absurd answered (Team.not_stopped follows Batch.Conduct.timeless)
  | elsewhere happened =>
    exact ⟨happened.available, hgoing, hlocks, fun j => (happened.departed j).trans (h.departed j),
      h.books.untouched happened.entries happened.started⟩

theorem following_start :
    Team.Following d.conduct (fun _ => Batch.Ending) (.start c d.handling) fun _ => .fresh := by
  rintro i p hp
  cases hp
  exact Handler.resumeTasks_follows _ _

/-- The handlings keep to their rule, and the books stay right, wherever they get. -/
theorem sound_of_reaches (hindex : c.IndexAvailable)
    (hfree : ∀ i, c.locks.queue (Team.key d.actor .leaveBatch i) = [])
    (h : Team.Reaches d.actor d.Elsewhere (.start c d.handling) t) :
    ∃ g, d.Sound c t g ∧ t.Following d.conduct (fun _ => Batch.Ending) g := by
  refine h.keeps_following (.start hindex hfree) following_start ?_
  intro t t' g g' hsound _ hm
  exact hsound.move hm

end Departures

end ClusterKeeper
