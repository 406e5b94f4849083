import ClusterKeeper.Proofs.Resumption.AtMostOnce

/-!
# `Proofs/Resumption/ExactlyOnce.lean` — every task is taken over by its owner

With owners that stay and runners that fail the same tasks every time (`Steady`), nothing that is
due is forgotten. A task is *due* on a node that owns it and whose runner does not fail it.

`AtMostOnce.lean` has that nothing is done twice. Here a second invariant of the team, `Complete`,
says that every task of a departed node is still to be decided on by a batch, or not due, or
recorded; and that whatever was started or recorded had to be. When all batches are at their end
nothing is left to be decided on, so what was started is exactly what was due and not there before.

Whether they come to their end is a question of its own: somebody can always go on, since whoever
waits for a lock waits for somebody inside.
-/

set_option autoImplicit false

namespace ClusterKeeper

/-! ## 1. What is left of the tasks of a departed node -/

/-- Of the tasks `todo` those that are due and not recorded are among these. -/
structure Remaining (due : TaskId → Prop) (todo entry : OrderedSet TaskId) (left : List TaskId) :
    Prop where
  part : ∀ x ∈ left, x ∈ todo
  rest : ∀ x, x ∈ todo → due x → x ∈ left ∨ x ∈ entry

namespace Remaining

variable {due : TaskId → Prop} {todo entry entry' : OrderedSet TaskId} {task : TaskId}
  {left : List TaskId}

theorem all : Remaining due todo entry todo.toList := ⟨fun _ hx => hx, fun _ hx _ => .inl hx⟩

theorem mono (h : Remaining due todo entry left) (he : ∀ x, x ∈ entry → x ∈ entry') :
    Remaining due todo entry' left :=
  ⟨h.part, fun x hx hd => (h.rest x hx hd).imp_right (he x)⟩

theorem drop (h : Remaining due todo entry (task :: left)) (ht : due task → task ∈ entry) :
    Remaining due todo entry left where
  part x hx := h.part x (.tail _ hx)
  rest x hx hd := by
    rcases h.rest x hx hd with hl | he
    · rcases List.mem_cons.1 hl with rfl | hl
      · exact .inr (ht hd)
      · exact .inl hl
    · exact .inr he

end Remaining

namespace Batch

/-- Nothing that is due was forgotten by a batch: `todo` is what the departed node ran, `entry` what
is recorded here, and `new` what was started here. -/
def Complete (owned due : TaskId → Prop) (todo entry : OrderedSet TaskId) (new : List TaskId) :
    Batch → Prop
  | fresh => True
  | candidates tasks | admitted tasks => tasks = todo
  | deciding known left => (∀ x, x ∈ known → x ∈ entry) ∧ Remaining due todo entry left
  | chosen known task left =>
    (∀ x, x ∈ known → x ∈ entry) ∧ owned task ∧ Remaining due todo entry (task :: left)
  | started known task left =>
    (∀ x, x ∈ known → x ∈ entry) ∧ task ∈ new ∧ Remaining due todo entry (task :: left)
  | finished => Remaining due todo entry []
  | refused | failed => False

theorem Complete.mono {owned due : TaskId → Prop} {todo entry entry' : OrderedSet TaskId}
    {new new' : List TaskId} {b : Batch} (h : b.Complete owned due todo entry new)
    (he : ∀ x, x ∈ entry → x ∈ entry') (hn : ∀ x ∈ new, x ∈ new') :
    b.Complete owned due todo entry' new' := by
  cases b with
  | fresh => trivial
  | candidates tasks => exact h
  | admitted tasks => exact h
  | deciding known left => exact ⟨fun x hx => he x (h.1 x hx), h.2.mono he⟩
  | chosen known task left => exact ⟨fun x hx => he x (h.1 x hx), h.2.1, h.2.2.mono he⟩
  | started known task left =>
    exact ⟨fun x hx => he x (h.1 x hx), hn task h.2.1, h.2.2.mono he⟩
  | finished => exact Remaining.mono h he
  | refused => exact h
  | failed => exact h

end Batch

/-! ## 2. Steady surroundings -/

namespace Departures

variable {survivors : Set NodeId} {n : Nat} (d : Departures survivors n)
  (owner : TaskId → Option NodeId) (fails : NodeId → TaskId → Prop)

/-- Every question for an owner is answered by `owner`, and the runners of the survivors fail the
tasks of `fails` and no others. -/
structure Steady (survivors : Set NodeId) (owner : TaskId → Option NodeId)
    (fails : NodeId → TaskId → Prop) (c : Cluster) : Prop where
  owners : ∀ asker task, (c.askOwner asker task).2 = .ok (owner task)
  starts : ∀ id ∈ survivors, ∀ task, (∃ e, (c.startTask id task).2 = .error e) ↔ fails id task

def SteadyElsewhere (c c' : Cluster) : Prop := d.Elsewhere c c' ∧ Steady survivors owner fails c'

/-- A task that a node is to take over. -/
def Due (id : NodeId) (task : TaskId) : Prop := owner task = some id ∧ ¬ fails id task

variable {owner fails}

theorem Steady.answer {c : Cluster} (h : Steady survivors owner fails c) (a : Actor) (r : Request) :
    Steady survivors owner fails (c.answer a r).1 where
  owners asker task := by
    rw [Cluster.answer_askOwner]
    exact h.owners asker task
  starts id hid task := by
    rw [Cluster.answer_startTask]
    exact h.starts id hid task

/-! ## 3. The books are complete -/

variable {d} {c c' c'' : Cluster} {g : Fin n → Batch} {i : Fin n} {b : Batch}
  {known : OrderedSet TaskId} {task : TaskId} {left : List TaskId}

variable (d owner fails) in
structure Complete (c c' : Cluster) (g : Fin n → Batch) : Prop where
  batch : ∀ i, (g i).Complete (owner · = some (d.node i)) (Due owner fails (d.node i))
    (c.index.tasks (d.departed i).id) (c'.index.tasks (d.node i)) (c.startedSince c' (d.node i))
  due : ∀ id ∈ survivors, ∀ x ∈ c.startedSince c' id, Due owner fails id x ∧
    ∃ i, d.node i = id ∧ x ∈ c.index.tasks (d.departed i).id
  origin : ∀ id ∈ survivors, ∀ x, x ∈ c'.index.tasks id →
    x ∈ c.index.tasks id ∨ x ∈ c.startedSince c' id

theorem Complete.start (h : ∀ i, g i = .fresh) : d.Complete owner fails c c g where
  batch i := by
    rw [h i]
    trivial
  due id _ x hx := by
    rw [Cluster.startedSince_self] at hx
    cases hx
  origin _ _ _ hx := .inl hx

theorem Complete.untouched (h : d.Complete owner fails c c' g)
    (hentries : ∀ id ∈ survivors, c''.index.tasks id = c'.index.tasks id)
    (hstarted : ∀ id ∈ survivors, (c''.node id).runner.started = (c'.node id).runner.started) :
    d.Complete owner fails c c'' g where
  batch j := by
    rw [hentries _ (d.survives j), Cluster.startedSince_congr (hstarted _ (d.survives j))]
    exact h.batch j
  due id hid := by
    rw [Cluster.startedSince_congr (hstarted id hid)]
    exact h.due id hid
  origin id hid := by
    rw [Cluster.startedSince_congr (hstarted id hid), hentries id hid]
    exact h.origin id hid

/-- A batch that goes on, when nothing is taken back and all that was done had to be. -/
theorem Complete.advance (h : d.Complete owner fails c c' g)
    (hentries : ∀ id ∈ survivors, ∀ x, x ∈ c'.index.tasks id → x ∈ c''.index.tasks id)
    (hsince : ∀ id ∈ survivors, ∀ x ∈ c.startedSince c' id, x ∈ c.startedSince c'' id)
    (hb : b.Complete (owner · = some (d.node i)) (Due owner fails (d.node i))
      (c.index.tasks (d.departed i).id) (c''.index.tasks (d.node i)) (c.startedSince c'' (d.node i)))
    (hdue : ∀ id ∈ survivors, ∀ x ∈ c.startedSince c'' id, x ∉ c.startedSince c' id →
      Due owner fails id x ∧ ∃ i, d.node i = id ∧ x ∈ c.index.tasks (d.departed i).id)
    (horigin : ∀ id ∈ survivors, ∀ x, x ∈ c''.index.tasks id → ¬ x ∈ c'.index.tasks id →
      x ∈ c.startedSince c'' id) :
    d.Complete owner fails c c'' (Function.update g i b) where
  batch j := by
    by_cases hj : j = i
    · subst hj
      rw [Function.update_self]
      exact hb
    · rw [Function.update_of_ne hj]
      exact (h.batch j).mono (hentries _ (d.survives j)) (hsince _ (d.survives j))
  due id hid x hx := by
    by_cases hold : x ∈ c.startedSince c' id
    · exact h.due id hid x hold
    · exact hdue id hid x hx hold
  origin id hid x hx := by
    by_cases hold : x ∈ c'.index.tasks id
    · exact (h.origin id hid x hold).imp_right (hsince id hid x)
    · exact .inr (horigin id hid x hx hold)

theorem Complete.started (h : d.Complete owner fails c c' g) (hbooks : d.Books c c' g)
    (hg : g i = .chosen known task left) (hfails : ¬ fails (d.node i) task)
    (hentries : ∀ id, c''.index.tasks id = c'.index.tasks id)
    (hstarted : c'.StartedOn c'' (d.node i) task) :
    d.Complete owner fails c c'' (Function.update g i (.started known task left)) := by
  have hb := h.batch i
  rw [hg] at hb
  obtain ⟨hknown, howned, hrem⟩ := hb
  have hgrown := hbooks.grown _ (d.survives i)
  refine h.advance ?_ ?_ ?_ ?_ ?_
  · intro id _ x hx
    rw [hentries]
    exact hx
  · intro id _ x hx
    exact (hstarted.mem_since hgrown).2 (.inl hx)
  · rw [hentries]
    exact ⟨hknown, (hstarted.mem_since hgrown).2 (.inr ⟨rfl, rfl⟩), hrem⟩
  · intro id _ x hx hnew
    rcases (hstarted.mem_since hgrown).1 hx with hold | ⟨rfl, rfl⟩
    · exact absurd hold hnew
    · exact ⟨⟨howned, hfails⟩, i, rfl, hrem.part _ (.head _)⟩
  · intro id _ x hx hnew
    rw [hentries] at hx
    exact absurd hx hnew

theorem Complete.recording (h : d.Complete owner fails c c' g)
    (hg : g i = .started known task left) (hentries : c'.RecordedFor c'' (d.node i) task)
    (hstarted : ∀ id, (c''.node id).runner.started = (c'.node id).runner.started) :
    d.Complete owner fails c c'' (Function.update g i (.deciding known left)) := by
  have hb := h.batch i
  rw [hg] at hb
  obtain ⟨hknown, hnew, hrem⟩ := hb
  have hsince : ∀ id, c.startedSince c'' id = c.startedSince c' id := fun id =>
    Cluster.startedSince_congr (hstarted id)
  have hmono : ∀ id x, x ∈ c'.index.tasks id → x ∈ c''.index.tasks id := fun id x hx =>
    hentries.mem_tasks.2 (.inl hx)
  refine h.advance (fun id _ => hmono id) ?_ ?_ ?_ ?_
  · intro id _ x hx
    rw [hsince]
    exact hx
  · refine ⟨fun x hx => hmono _ x (hknown x hx), (hrem.mono (hmono _)).drop fun _ => ?_⟩
    exact hentries.mem_tasks.2 (.inr ⟨rfl, rfl⟩)
  · intro id _ x hx hold
    rw [hsince] at hx
    exact absurd hx hold
  · intro id _ x hx hold
    rcases hentries.mem_tasks.1 hx with hx | ⟨rfl, rfl⟩
    · exact absurd hx hold
    · rw [hsince]
      exact hnew

theorem Complete.learn (h : d.Complete owner fails c c' g) (hidle : c'.Idle c'')
    (hb : b.Complete (owner · = some (d.node i)) (Due owner fails (d.node i))
      (c.index.tasks (d.departed i).id) (c'.index.tasks (d.node i))
      (c.startedSince c' (d.node i))) :
    d.Complete owner fails c c'' (Function.update g i b) := by
  have hstill : d.Complete owner fails c c' (Function.update g i b) :=
    h.advance (fun _ _ _ hx => hx) (fun _ _ _ hx => hx) hb (fun _ _ _ hx hnew => absurd hx hnew)
      fun _ _ _ hx hnew => absurd hx hnew
  exact hstill.untouched (fun id _ => hidle.entries id) fun id _ => hidle.started id

/-! ## 4. The team -/

variable {t t' : Handlings n} {g' : Fin n → Batch}

theorem Complete.exchange (h : d.Complete owner fails c t.cluster g) (hs : d.Sound c t g)
    (hsteady : Steady survivors owner fails t.cluster) {r : Request} {reply : r.Reply}
    (follows : d.conduct i (g i) r reply b)
    (answered : t.cluster.answer (d.actor i) r = (c', some reply)) :
    d.Complete owner fails c c' (Function.update g i b) := by
  have htodo := hs.departed i
  have hb := h.batch i
  unfold conduct at follows
  generalize hg : g i = b₀ at follows hb
  have hlearn := fun hi hr => h.learn (i := i) (b := b) (.of_answered answered hi hr)
  cases follows with
  | log => exact hlearn (by simp [Request.parts]) (by simp [Request.parts]) hb
  | unread | refuse =>
    -- The index is available, so it gives no such reply.
    rw [Cluster.answer, hs.available.askTasks] at answered
    cases answered
  | @nothing tasks hempty =>
    refine hlearn (by simp [Request.parts]) (by simp [Request.parts]) ?_
    rw [Cluster.answer, hs.available.askTasks, htodo] at answered
    cases answered
    refine ⟨fun x hx => absurd hx List.not_mem_nil, fun x hx _ => ?_⟩
    rw [OrderedSet.mem_def, List.isEmpty_iff.1 hempty] at hx
    cases hx
  | read =>
    refine hlearn (by simp [Request.parts]) (by simp [Request.parts]) ?_
    rw [Cluster.answer, hs.available.askTasks, htodo] at answered
    cases answered
    rfl
  | enter => exact hlearn (by simp [Request.parts]) (by simp [Request.parts]) hb
  | remember =>
    refine hlearn (by simp [Request.parts]) (by simp [Request.parts]) ?_
    rw [Cluster.answer, hs.available.askTasks] at answered
    cases answered
    subst hb
    exact ⟨fun x hx => hx, .all⟩
  | @pass known task left reply hk =>
    refine hlearn (by simp [Request.parts]) (by simp [Request.parts]) ?_
    -- A task that is due is owned here, so it is passed only if it is recorded.
    refine ⟨hb.1, hb.2.drop fun hdue => hb.1 _ (hk ?_)⟩
    rw [← hdue.1, ← hsteady.owners (d.node i) task]
    exact (congrArg Prod.snd (Cluster.of_replied answered)).symm
  | @choose known task left hk =>
    refine hlearn (by simp [Request.parts]) (by simp [Request.parts]) ⟨hb.1, ?_, hb.2⟩
    have hreply := hsteady.owners (d.node i) task
    rw [show t.cluster.askOwner (d.node i) task = _ from Cluster.of_replied answered] at hreply
    exact (Except.ok.inj hreply).symm
  | @startFails known task left e =>
    have hstart := Cluster.of_replied answered
    refine h.learn (.of_startFails answered) ?_
    refine ⟨hb.1, hb.2.2.drop fun hdue => absurd ?_ hdue.2⟩
    exact (hsteady.starts _ (d.survives i) _).1 ⟨e, congrArg Prod.snd hstart⟩
  | start =>
    have hstart := Cluster.of_replied answered
    have hindex := Cluster.answered_index answered (by simp [Request.parts])
    refine h.started hs.books hg (fun hfails => ?_) (fun id => by rw [hindex])
      (Cluster.startTask_ok hstart)
    obtain ⟨e, he⟩ := (hsteady.starts _ (d.survives i) _).2 hfails
    rw [show (t.cluster.startTask (d.node i) _).2 = _ from congrArg Prod.snd hstart] at he
    cases he
  | record =>
    have hrunner := Cluster.answered_runner answered (by simp [Request.parts])
    exact h.recording hg (hs.available.recordedFor answered) fun id => by rw [hrunner]
  | leave => exact hlearn (by simp [Request.parts]) (by simp [Request.parts]) hb.2
  | giveUp => exact hb.elim

theorem Complete.move (h : d.Complete owner fails c t.cluster g) (hs : d.Sound c t g)
    (hsteady : Steady survivors owner fails t.cluster)
    (hm : Team.Move d.actor (d.SteadyElsewhere owner fails) d.conduct t g t' g') :
    d.Complete owner fails c t'.cluster g' ∧ Steady survivors owner fails t'.cluster := by
  cases hm with
  | @exchange i r next c' reply b turn answered admitted follows =>
    refine ⟨h.exchange hs hsteady follows answered, ?_⟩
    have := hsteady.answer (d.actor i) r
    rwa [answered] at this
  | @wait i r next c' reply b turn answered refused follows =>
    obtain ⟨name, rfl, rfl⟩ := Cluster.of_refused answered refused
    exact ⟨h.untouched (fun _ _ => rfl) fun _ _ => rfl, hsteady.answer (d.actor i) (.acquire name)⟩
  | stop turn answered follows =>
    exact absurd answered (Team.not_stopped follows Batch.Conduct.timeless)
  | elsewhere happened =>
    exact ⟨h.untouched happened.1.entries happened.1.started, happened.2⟩

/-! ## 5. Wherever the handlings get, and where they end -/

/-- No survivor has started a task twice, or one that it had before. -/
def AtMostOnce (survivors : Set NodeId) (c c' : Cluster) : Prop :=
  ∀ id ∈ survivors,
    (c'.node id).runner.started.toList =
      (c.node id).runner.started.toList ++ c.startedSince c' id ∧
    (c.startedSince c' id).Nodup ∧ ∀ x ∈ c.startedSince c' id, ¬ x ∈ c.index.tasks id

variable (d owner fails) in
/-- All handlings went well, the locks are free, and every survivor has started, once each, the
tasks that were due there among those of the departed nodes it was told of, but for those it had
before; and it has recorded them. -/
structure ExactlyOnce (c : Cluster) (t : Handlings n) : Prop where
  succeeded : ∀ i, ∃ events, t.Over i (some (.ok events))
  unlocked : ∀ i, t.cluster.locks.queue (Team.key d.actor .leaveBatch i) = []
  once : ∀ id ∈ survivors, (c.startedSince t.cluster id).Nodup
  started : ∀ id ∈ survivors, ∀ x, x ∈ c.startedSince t.cluster id ↔
    (∃ i, d.node i = id ∧ x ∈ c.index.tasks (d.departed i).id) ∧
      Due owner fails id x ∧ ¬ x ∈ c.index.tasks id
  recorded : ∀ id ∈ survivors, ∀ x, x ∈ t.cluster.index.tasks id ↔
    x ∈ c.index.tasks id ∨ x ∈ c.startedSince t.cluster id

theorem Books.atMostOnce (h : d.Books c c' g) : AtMostOnce survivors c c' := by
  intro id hid
  refine ⟨?_, h.once id hid, h.new id hid⟩
  rw [Cluster.startedSince, ← History.length_toList]
  exact (List.prefix_iff_eq_append.1 (h.grown id hid)).symm

/-- The batches of a team that is finished have come to their ends. -/
theorem Complete.finished (h : d.Complete owner fails c t.cluster g) (hs : d.Sound c t g)
    (hf : t.Following d.conduct (fun _ => Batch.Ending) g) (hover : t.Finished) (i : Fin n) :
    g i = .finished ∧ ∃ events, t.Over i (some (.ok events)) := by
  obtain ⟨result, hi⟩ := hover i
  cases result with
  | none => exact absurd hi (hs.going i)
  | some result =>
    have hend : Batch.Ending (g i) result := hf i _ hi
    have hb := h.batch i
    generalize hg : g i = b at hend hb
    cases b with
    | finished =>
      cases result with
      | ok events => exact ⟨rfl, events, hi⟩
      | error e => exact hend.elim
    | failed => exact hb.elim
    | _ => exact hend.elim

theorem Complete.exactlyOnce (h : d.Complete owner fails c t.cluster g) (hs : d.Sound c t g)
    (hf : t.Following d.conduct (fun _ => Batch.Ending) g) (hover : t.Finished) :
    d.ExactlyOnce owner fails c t := by
  have hg := fun i => (h.finished hs hf hover i).1
  have hrec : ∀ id ∈ survivors, ∀ x ∈ c.startedSince t.cluster id, x ∈ t.cluster.index.tasks id := by
    intro id hid x hx
    rcases hs.books.recorded id hid x hx with hrec | ⟨i, -, hu⟩
    · exact hrec
    · rw [hg i] at hu
      cases hu
  constructor
  case succeeded =>
    intro i
    exact (h.finished hs hf hover i).2
  case unlocked =>
    intro i
    -- A claim would be that of a batch inside or at the door.
    refine List.eq_nil_iff_forall_not_mem.2 fun x hx => ?_
    obtain ⟨j, -, ⟨hin, -⟩ | ⟨next, hdoor⟩⟩ := hs.locks.claimant i x hx
    · rw [Function.comp_apply, hg j] at hin
      cases hin
    · obtain ⟨events, hj⟩ := (h.finished hs hf hover j).2
      rw [Team.Over, hdoor] at hj
      cases hj
  case once => exact hs.books.once
  case started =>
    intro id hid x
    constructor
    · intro hx
      obtain ⟨hdue, htold⟩ := h.due id hid x hx
      exact ⟨htold, hdue, hs.books.new id hid x hx⟩
    · rintro ⟨⟨i, rfl, hx⟩, hdue, hnew⟩
      -- The batch that is told of it has nothing left, so the task is recorded, and it is new.
      have hb := h.batch i
      rw [hg i] at hb
      rcases hb.rest x hx hdue with hleft | hentry
      · cases hleft
      · exact (h.origin _ hid x hentry).resolve_left hnew
  case recorded =>
    intro id hid x
    constructor
    · exact h.origin id hid x
    · rintro (hx | hx)
      · exact hs.books.kept id hid x hx
      · exact hrec id hid x hx

theorem complete_of_reaches (hindex : c.IndexAvailable)
    (hfree : ∀ i, c.locks.queue (Team.key d.actor .leaveBatch i) = [])
    (hsteady : Steady survivors owner fails c)
    (h : Team.Reaches d.actor (d.SteadyElsewhere owner fails) (.start c d.handling) t) :
    ∃ g, d.Complete owner fails c t.cluster g ∧ d.Sound c t g ∧
      t.Following d.conduct (fun _ => Batch.Ending) g := by
  have hstart : (d.Complete owner fails c c (fun _ => .fresh) ∧ Steady survivors owner fails c) ∧
      d.Sound c (.start c d.handling) fun _ => .fresh :=
    ⟨⟨.start fun _ => rfl, hsteady⟩, .start hindex hfree⟩
  obtain ⟨g, ⟨⟨hcomplete, -⟩, hs⟩, hf⟩ := h.keeps_following
    (P := fun t g => (d.Complete owner fails c t.cluster g ∧ Steady survivors owner fails t.cluster) ∧
      d.Sound c t g) hstart following_start fun {t t' g g'} hp _ hm =>
        ⟨hp.1.1.move hp.2 hp.1.2 hm, hp.2.move (hm.mono fun _ _ => And.left)⟩
  exact ⟨g, hcomplete, hs, hf⟩

/-- Whatever happens elsewhere, in whatever order the handlings go on, no survivor starts a task
twice, or one that it had at the begin. If owners and failures are steady, the handlings can always
come to their end, and once they have, every task was taken over by its owner exactly once. -/
theorem resumed_exactly_once (d : Departures survivors n) (hindex : c.IndexAvailable)
    (hfree : ∀ i, c.locks.queue (Team.key d.actor .leaveBatch i) = []) :
    (∀ t, Team.Reaches d.actor d.Elsewhere (.start c d.handling) t →
      AtMostOnce survivors c t.cluster) ∧
    (∀ owner fails, Steady survivors owner fails c → ∀ t,
      Team.Reaches d.actor (d.SteadyElsewhere owner fails) (.start c d.handling) t →
      (∃ t', Team.Reaches d.actor Team.nothing t t' ∧ t'.Finished) ∧
      (t.Finished → d.ExactlyOnce owner fails c t)) := by
  constructor
  · intro t h
    obtain ⟨g, hs, -⟩ := sound_of_reaches hindex hfree h
    exact hs.books.atMostOnce
  · intro owner fails hsteady t h
    obtain ⟨g, hcomplete, hs, hf⟩ := complete_of_reaches hindex hfree hsteady h
    have hfinish := hs.locks.reaches_finished d.actor_injective Batch.inside Batch.Conduct.locks
      Batch.Ending.inside_eq hf
    exact ⟨hfinish, hcomplete.exactlyOnce hs hf⟩

/-- One surviving node is told of two departures. -/
def twoDepartures : Departures {⟨"a"⟩} 2 where
  node _ := ⟨"a"⟩
  departed i := ⟨⟨if i = 0 then "b" else "c"⟩, ⟨"10.0.0.2"⟩⟩
  survives _ := rfl
  gone i := by
    match i with
    | 0 => decide
    | 1 => decide

/-- Both departed nodes claimed the task, which belongs to the surviving node. -/
def sharedTask : Cluster :=
  { Cluster.empty default "node-tasks" default with
    substrate := Substrate.empty.setOwner ⟨"t-1"⟩ ⟨"a"⟩
    index := ((TaskIndex.named "node-tasks").assign ⟨"b"⟩ [⟨"t-1"⟩]).assign ⟨"c"⟩ [⟨"t-1"⟩] }

theorem shared_task_started_once :
    (∃ t, Team.Reaches twoDepartures.actor Team.nothing
      (.start sharedTask twoDepartures.handling) t ∧ t.Finished) ∧
    ∀ t, Team.Reaches twoDepartures.actor Team.nothing
      (.start sharedTask twoDepartures.handling) t → t.Finished →
      (t.cluster.node ⟨"a"⟩).runner.started.toList = [⟨"t-1"⟩] := by
  obtain ⟨honce, hexact⟩ := resumed_exactly_once twoDepartures (c := sharedTask)
    ⟨rfl, fun _ => rfl, fun _ => rfl⟩ fun _ => rfl
  have hsteady : Steady {⟨"a"⟩} (fun task => sharedTask.substrate.owners.get? task)
      (fun _ _ => False) sharedTask := by
    refine ⟨fun _ _ => rfl, fun id _ task => ⟨?_, False.elim⟩⟩
    rintro ⟨e, h⟩
    cases h
  have hexact := hexact _ _ hsteady
  refine ⟨(hexact _ .refl).1, fun t ht hover => ?_⟩
  obtain ⟨hold, hnodup, -⟩ := honce t (ht.mono fun _ _ => False.elim) _ rfl
  have hstarted := ((hexact t (ht.mono fun _ _ => False.elim)).2 hover).started ⟨"a"⟩ rfl
  have hmem : ∀ x, x ∈ sharedTask.startedSince t.cluster ⟨"a"⟩ ↔ x ∈ [⟨"t-1"⟩] := by
    intro x
    rw [hstarted, List.mem_singleton]
    constructor
    · rintro ⟨⟨i, -, hx⟩, -⟩
      match i with
      | 0 => exact List.mem_singleton.1 hx
      | 1 => exact List.mem_singleton.1 hx
    · rintro rfl
      exact ⟨⟨0, rfl, .head _⟩, ⟨rfl, id⟩, List.not_mem_nil⟩
  rw [hold, (List.perm_ext_iff_of_nodup hnodup (List.nodup_singleton _)).2 hmem |>.eq_singleton]
  rfl

end Departures

end ClusterKeeper
