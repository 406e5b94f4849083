import ClusterKeeper.Proofs.Course
import ClusterKeeper.Proofs.Hosts.Handling
import ClusterKeeper.Proofs.Resumption.AtMostOnce
import ClusterKeeper.Proofs.Scheduling

/-!
# `Proofs/Resumption/Unrecorded.lean` — tasks that run without a trace

What keeps a node from starting a task twice is the index: a task that was started is recorded under
the node, and later batches find it there. But the index may fail between the two. Then the task
runs, nothing says so, and the same departure told again, or another one, may start it once more.

Here a node handles departures one after another, any of them any number of times, while everything
around it may change between any two of its requests: index and substrate come and go, owners move,
the runner fails what it likes, others write the index. Only nobody takes a task out of the entry of
this node, and nobody else starts tasks on it (`Beside`).

* A task `MayStart` if after each of its starts so far a recording of it failed.
* `Accounts` is the invariant: a task that may not be started is recorded, or about to be.

So between two starts of a task there is always a recording of it that failed (`Spaced`), and only
that can make a node start a task twice.
-/

set_option autoImplicit false

namespace ClusterKeeper

/-! ## 1. Starts and recordings -/

namespace Exchange

def start (task : TaskId) : Exchange := ⟨.startTask task, .ok ()⟩

/-- The task that was started by the exchange. -/
def started? : Exchange → Option TaskId
  | ⟨.startTask task, .ok ()⟩ => some task
  | _ => none

/-- The task that the exchange should have recorded but did not. -/
def unrecorded? : Exchange → Option TaskId
  | ⟨.addTask _ task, .error _⟩ => some task
  | _ => none

theorem started?_eq_some_iff {e : Exchange} {task : TaskId} :
    e.started? = some task ↔ e = start task := by
  constructor
  · intro h
    unfold started? at h
    split at h
    · cases h
      rfl
    · cases h
  · rintro rfl
    rfl

theorem started?_of_runner {r : Request} {reply : r.Reply} (h : .runner ∉ r.parts) :
    started? ⟨r, reply⟩ = none := by
  refine Option.eq_none_iff_forall_ne_some.2 fun task hs => h ?_
  obtain ⟨rfl, -⟩ := Exchange.mk.inj (started?_eq_some_iff.1 hs)
  simp [Request.parts]

end Exchange

open Exchange (start)

def startedIn (es : List Exchange) : List TaskId := es.filterMap Exchange.started?

/-- After each start of the task a recording of it failed. -/
def MayStart (es : List Exchange) (task : TaskId) : Prop :=
  ∀ before after, es = before ++ start task :: after → ∃ e ∈ after, e.unrecorded? = some task

/-- Between two starts of one task a recording of it failed. -/
def Spaced (es : List Exchange) : Prop :=
  ∀ task before between after, es = before ++ start task :: (between ++ start task :: after) →
    ∃ e ∈ between, e.unrecorded? = some task

section
variable {es before after : List Exchange} {e s : Exchange} {task : TaskId}

theorem startedIn_append : startedIn (es ++ [e]) = startedIn es ++ e.started?.toList := by
  rw [startedIn, List.filterMap_append, ← startedIn]
  cases h : e.started? <;> simp [h]

theorem mem_startedIn : task ∈ startedIn es ↔ start task ∈ es := by
  rw [startedIn, List.mem_filterMap]
  constructor
  · rintro ⟨e, he, hs⟩
    exact Exchange.started?_eq_some_iff.1 hs ▸ he
  · intro h
    exact ⟨_, h, rfl⟩

theorem MayStart.of_not_mem (h : task ∉ startedIn es) : MayStart es task := by
  rintro before after rfl
  refine absurd (mem_startedIn.2 ?_) h
  exact List.mem_append_right _ (.head _)

theorem MayStart.append (h : MayStart es task) (he : e.started? ≠ some task) :
    MayStart (es ++ [e]) task := by
  intro before after hsplit
  rcases split_append hsplit with ⟨rfl, -, -⟩ | ⟨rest, rfl, hes⟩
  · exact absurd rfl he
  · obtain ⟨x, hx, hlost⟩ := h before rest hes
    exact ⟨x, List.mem_append_left _ hx, hlost⟩

/-- A task that was not recorded may be started again. -/
theorem MayStart.of_unrecorded (h : e.unrecorded? = some task) : MayStart (es ++ [e]) task := by
  intro before after hsplit
  rcases split_append hsplit with ⟨rfl, -, -⟩ | ⟨rest, rfl, -⟩
  · cases h
  · exact ⟨e, List.mem_append_right _ (.head _), h⟩

theorem Spaced.nil : Spaced [] := by
  intro task before between after h
  exact absurd h (by simp)

/-- Whatever comes next, if it is a start then of a task that may be started. -/
theorem Spaced.append (h : Spaced es) (he : ∀ x, e.started? = some x → MayStart es x) :
    Spaced (es ++ [e]) := by
  intro x before between after hsplit
  rw [← List.cons_append, ← List.append_assoc] at hsplit
  rcases split_append hsplit with ⟨rfl, hes, -⟩ | ⟨rest, -, hes⟩
  · exact he x rfl before between hes
  · refine h x before between rest ?_
    rw [hes, List.append_assoc, List.cons_append]

theorem Spaced.nodup (h : Spaced es) (hall : ∀ e ∈ es, e.unrecorded? = none) :
    (startedIn es).Nodup := by
  induction es using List.reverseRecOn with
  | nil => exact List.nodup_nil
  | append_singleton es e ih =>
    have hes : Spaced es := by
      intro x before between after hsplit
      refine h x before between (after ++ [e]) ?_
      rw [hsplit]
      simp
    have hnodup := ih hes fun e he => hall e (List.mem_append_left _ he)
    rw [startedIn_append]
    refine List.nodup_append.2 ⟨hnodup, ?_, ?_⟩
    · cases e.started? <;> simp
    · intro x hx y hy hxy
      subst hxy
      rw [Option.mem_toList, Exchange.started?_eq_some_iff] at hy
      subst hy
      obtain ⟨before, between, rfl⟩ := List.append_of_mem (mem_startedIn.1 hx)
      obtain ⟨lost, hmem, hlost⟩ := h x before between [] (by simp)
      have hnone := hall lost (by simp [hmem])
      rw [hlost] at hnone
      cases hnone

end

/-! ## 2. Departures one after another -/

/-- The exchanges of departures handled on the node `here`: those of a batch, and, with no batch
under way, others that are for neither index nor runner. -/
inductive Departing (here : NodeId) : Rule Request.Reply Batch
  | batch {departed : NodeId} {b b' : Batch} {r : Request} {reply : r.Reply}
      (h : Batch.Conduct here departed b r reply b') : Departing here b r reply b'
  | beside {b : Batch} {r : Request} {reply : r.Reply} (hb : b.inside = false)
      (hindex : .index ∉ r.parts) (hrunner : .runner ∉ r.parts) : Departing here b r reply .fresh

namespace Handler

variable {here : NodeId}

def Outside {α : Type} (b : Batch) (_ : α) : Prop := b.inside = false

theorem forgetHost_follows (departed : Member) {b : Batch} (hb : b.inside = false) :
    (forgetHost departed).run.Follows (Departing here) Outside b := by
  refine (forgetHost_asks departed).follows ?_ hb
  intro b r reply hb hr
  exact ⟨_, .beside hb hr.not_index hr.not_runner, rfl⟩

theorem memberLeft_follows (departed : Member) {b : Batch} (hb : b.inside = false) :
    (memberLeft here departed).run.Follows (Departing here) Outside b := by
  refine Program.Follows.request fun _ => ?_
  refine ⟨_, .beside hb (by simp [Request.parts]) (by simp [Request.parts]), ?_⟩
  have hresume : (resumeTasks here departed).run.Follows (Departing here) Batch.Ending .fresh :=
    (resumeTasks_follows here departed).map id .batch id
  refine hresume.bind fun b resumed hend => ?_
  exact (forgetHost_follows departed hend.inside_eq).bind fun b _ hb => hb

/-- Handles departures one after another. -/
def handleDepartures (here : NodeId) (departed : List Member) :
    Handler (List (Except HandlerError (List ClusterEvent))) :=
  departed.mapM fun m => (memberLeft here m).run

theorem handleDepartures_follows (departed : List Member) {b : Batch} (hb : b.inside = false) :
    (handleDepartures here departed).Follows (Departing here) Outside b := by
  induction departed generalizing b with
  | nil => exact hb
  | cons m departed ih =>
    rw [handleDepartures, List.mapM_cons]
    refine (memberLeft_follows m hb).bind fun b _ hb => ?_
    exact (ih hb).bind fun b _ hb => hb

end Handler

/-! ## 3. The index, which may fail -/

namespace Cluster

/-- Whether or not a task is recorded, what was recorded stays. -/
theorem addTask_mem {c c' : Cluster} {here : NodeId} {task : TaskId} {reply : Except IndexError Unit}
    (h : c.addTask here task = (c', reply)) (id : NodeId) {x : TaskId}
    (hx : x ∈ c.index.tasks id) : x ∈ c'.index.tasks id := by
  unfold addTask faulty at h
  dsimp only at h
  split at h
  · cases h
    exact hx
  · cases h
    show x ∈ (c.index.addTask here task).1.tasks id
    cases hoffline : c.index.offline with
    | true =>
      rw [TaskIndex.addTask, hoffline]
      exact hx
    | false =>
      rw [tasks_addTask hoffline]
      split
      · next hid =>
        subst hid
        exact OrderedSet.mem_insert.2 (.inr hx)
      · exact hx

theorem addTask_ok {c c' : Cluster} {here : NodeId} {task : TaskId}
    (h : c.addTask here task = (c', .ok ())) : task ∈ c'.index.tasks here := by
  unfold addTask faulty at h
  dsimp only at h
  split at h
  · cases h
  · cases hoffline : c.index.offline with
    | true =>
      rw [TaskIndex.addTask, hoffline] at h
      cases h
    | false =>
      obtain rfl : _ = c' := congrArg Prod.fst h
      show task ∈ (c.index.addTask here task).1.tasks here
      rw [tasks_addTask hoffline, if_pos rfl]
      exact OrderedSet.mem_insert.2 (.inl rfl)

theorem askTasks_ok {c c' : Cluster} {id : NodeId} {tasks : OrderedSet TaskId}
    (h : c.askTasks id = (c', .ok tasks)) : c.index.tasks id = tasks := by
  unfold askTasks faulty TaskIndex.askTasks at h
  split at h
  · cases h
  · split at h
    · cases h
    · cases h
      rfl

end Cluster

/-! ## 4. The accounts -/

/-- What a batch has in mind is right, given what was recorded at first and what happened since. -/
def Batch.Careful (first : OrderedSet TaskId) (es : List Exchange) : Batch → Prop
  | deciding known left =>
    left.Nodup ∧ (∀ x, x ∈ first → x ∈ known) ∧ ∀ x ∈ left, ¬ x ∈ known → MayStart es x
  | chosen known task left =>
    (task :: left).Nodup ∧ (∀ x, x ∈ first → x ∈ known) ∧ ¬ task ∈ known ∧
      ∀ x ∈ task :: left, ¬ x ∈ known → MayStart es x
  | started known task left =>
    (task :: left).Nodup ∧ (∀ x, x ∈ first → x ∈ known) ∧
      ∀ x ∈ left, ¬ x ∈ known → MayStart es x
  | _ => True

/-- What a batch has in mind stays right as long as nothing is started that it has in mind. -/
theorem Batch.Careful.append {first : OrderedSet TaskId} {es : List Exchange} {b : Batch}
    (h : b.Careful first es) {e : Exchange} (he : e.started? = none) :
    b.Careful first (es ++ [e]) := by
  have hmay : ∀ x, MayStart es x → MayStart (es ++ [e]) x := by
    intro x hx
    refine hx.append ?_
    rw [he]
    exact (Option.some_ne_none x).symm
  cases b with
  | deciding known left =>
    exact ⟨h.1, h.2.1, fun x hx hk => hmay x (h.2.2 x hx hk)⟩
  | chosen known task left =>
    exact ⟨h.1, h.2.1, h.2.2.1, fun x hx hk => hmay x (h.2.2.2 x hx hk)⟩
  | started known task left =>
    exact ⟨h.1, h.2.1, fun x hx hk => hmay x (h.2.2 x hx hk)⟩
  | _ => trivial

/-- What the departures handled so far have done on the node `here`: `es` are their exchanges, from
the cluster `c` to the cluster `c'`. -/
structure Accounts (here : NodeId) (c c' : Cluster) (es : List Exchange) (b : Batch) : Prop where
  kept : ∀ x, x ∈ c.index.tasks here → x ∈ c'.index.tasks here
  started : (c'.node here).runner.started.toList =
    (c.node here).runner.started.toList ++ startedIn es
  new : ∀ x ∈ startedIn es, ¬ x ∈ c.index.tasks here
  spaced : Spaced es
  recorded : ∀ x, x ∈ c'.index.tasks here ∨ b.unrecorded = some x ∨ MayStart es x
  careful : b.Careful (c.index.tasks here) es

namespace Accounts

variable {here : NodeId} {c c' c'' : Cluster} {es : List Exchange} {b b' : Batch}
  {known : OrderedSet TaskId} {task : TaskId} {left : List TaskId}

theorem start : Accounts here c c [] .fresh where
  kept _ hx := hx
  started := (List.append_nil _).symm
  new _ hx := absurd hx List.not_mem_nil
  spaced := .nil
  recorded _ := .inr (.inr (.of_not_mem List.not_mem_nil))
  careful := trivial

/-- Others may record what they like. -/
theorem elsewhere (h : Accounts here c c' es b)
    (hentry : ∀ x, x ∈ c'.index.tasks here → x ∈ c''.index.tasks here)
    (hstarted : (c''.node here).runner.started = (c'.node here).runner.started) :
    Accounts here c c'' es b where
  kept x hx := hentry x (h.kept x hx)
  started := by rw [hstarted, h.started]
  new := h.new
  spaced := h.spaced
  recorded x := (h.recorded x).imp_left (hentry x)
  careful := h.careful

/-- An exchange by which nothing is started. -/
theorem quiet (h : Accounts here c c' es b) {e : Exchange} (he : e.started? = none)
    (hentry : ∀ x, x ∈ c'.index.tasks here → x ∈ c''.index.tasks here)
    (hstarted : (c''.node here).runner.started = (c'.node here).runner.started)
    (hrecorded : ∀ x, b.unrecorded = some x → x ∈ c''.index.tasks here ∨
      b'.unrecorded = some x ∨ MayStart (es ++ [e]) x)
    (hcareful : b'.Careful (c.index.tasks here) (es ++ [e])) :
    Accounts here c c'' (es ++ [e]) b' := by
  have hsame : startedIn (es ++ [e]) = startedIn es := by
    rw [startedIn_append, he]
    exact List.append_nil _
  have hne : ∀ x, e.started? ≠ some x := by
    intro x
    rw [he]
    exact (Option.some_ne_none x).symm
  constructor
  case kept => exact fun x hx => hentry x (h.kept x hx)
  case started => rw [hstarted, h.started, hsame]
  case new =>
    rw [hsame]
    exact h.new
  case spaced => exact h.spaced.append fun x hx => absurd hx (hne x)
  case recorded =>
    intro x
    rcases h.recorded x with hx | hx | hx
    · exact .inl (hentry x hx)
    · exact hrecorded x hx
    · exact .inr (.inr (hx.append (hne x)))
  case careful => exact hcareful

/-- An exchange for which neither index nor runner is needed. -/
theorem idle (h : Accounts here c c' es b) {r : Request} {reply : r.Reply} (hidle : c'.Idle c'')
    (he : Exchange.started? ⟨r, reply⟩ = none) (hb : b'.unrecorded = b.unrecorded)
    (hcareful : b'.Careful (c.index.tasks here) es) :
    Accounts here c c'' (es ++ [⟨r, reply⟩]) b' := by
  refine h.quiet he (fun x hx => ?_) (hidle.started here) (fun x hx => .inr (.inl ?_))
    (hcareful.append he)
  · rw [hidle.entries]
    exact hx
  · rw [hb, hx]

/-- A batch starts a task that may be started. -/
theorem starts (h : Accounts here c c' es (.chosen known task left))
    (hentry : c''.index.tasks here = c'.index.tasks here)
    (hstarted : (c''.node here).runner.started = (c'.node here).runner.started.add task) :
    Accounts here c c'' (es ++ [Exchange.start task]) (.started known task left) := by
  obtain ⟨hnodup, hfirst, hunknown, hmay⟩ := h.careful
  have hstart : (Exchange.start task).started? = some task := rfl
  have hne : ∀ x, x ≠ task → (Exchange.start task).started? ≠ some x := by
    rintro x hx he
    cases he
    exact hx rfl
  constructor
  case kept =>
    rw [hentry]
    exact h.kept
  case started =>
    rw [hstarted, History.toList_add, h.started, startedIn_append, hstart, List.append_assoc]
    rfl
  case new =>
    intro x hx
    rw [startedIn_append, hstart, List.mem_append] at hx
    rcases hx with hx | hx
    · exact h.new x hx
    · obtain rfl := List.mem_singleton.1 hx
      exact fun hc => hunknown (hfirst _ hc)
  case spaced =>
    refine h.spaced.append fun x hx => ?_
    cases hx
    exact hmay task (.head _) hunknown
  case recorded =>
    intro x
    rw [hentry]
    by_cases hx : x = task
    · exact .inr (.inl (congrArg some hx.symm))
    · rcases h.recorded x with hold | hold | hold
      · exact .inl hold
      · cases hold
      · exact .inr (.inr (hold.append (hne x hx)))
  case careful =>
    refine ⟨hnodup, hfirst, fun x hx hk => (hmay x (.tail _ hx) hk).append (hne x ?_)⟩
    rintro rfl
    exact (List.nodup_cons.1 hnodup).1 hx

/-- What was started is recorded now, or may be started again. -/
theorem records (h : Accounts here c c' es (.started known task left))
    {result : Except IndexError Unit} {machine activity : Nat}
    (answered : c'.answer ⟨here, machine, activity⟩ (.addTask here task) = (c'', some result)) :
    Accounts here c c'' (es ++ [⟨.addTask here task, result⟩]) (.deciding known left) := by
  obtain ⟨hnodup, hfirst, hmay⟩ := h.careful
  have hadd : c'.addTask here task = (c'', result) := Cluster.of_replied answered
  refine h.quiet rfl (fun x hx => Cluster.addTask_mem hadd here hx) ?_ (fun x hx => ?_) ?_
  · rw [Cluster.answered_runner answered (by simp [Request.parts])]
  · obtain rfl : task = x := Option.some.inj hx
    cases result with
    | ok _ => exact .inl (Cluster.addTask_ok hadd)
    | error e => exact .inr (.inr (.of_unrecorded rfl))
  · refine ⟨(List.nodup_cons.1 hnodup).2, hfirst, fun x hx hk => (hmay x hx hk).append ?_⟩
    exact (Option.some_ne_none x).symm

/-- An exchange of the departures keeps the accounts right. -/
theorem exchange (h : Accounts here c c' es b) {r : Request} {reply : r.Reply}
    (follows : Departing here b r reply b') {machine activity : Nat}
    (answered : c'.answer ⟨here, machine, activity⟩ r = (c'', some reply)) :
    Accounts here c c'' (es ++ [⟨r, reply⟩]) b' := by
  have hcareful := h.careful
  -- By all exchanges but two a batch only learns something.
  have hidle (hindex : .index ∉ r.parts) (hrunner : .runner ∉ r.parts)
      (hb : b'.unrecorded = b.unrecorded) (hcareful : b'.Careful (c.index.tasks here) es) :
      Accounts here c c'' (es ++ [⟨r, reply⟩]) b' :=
    h.idle (.of_answered answered hindex hrunner) (Exchange.started?_of_runner hrunner) hb hcareful
  cases follows with
  | beside hb hindex hrunner =>
    refine hidle hindex hrunner ?_ trivial
    cases b <;> first | rfl | cases hb
  | batch follows =>
    cases follows with
    | log => exact hidle (by simp [Request.parts]) (by simp [Request.parts]) rfl hcareful
    | unread | nothing | read | enter | refuse | leave | giveUp =>
      exact hidle (by simp [Request.parts]) (by simp [Request.parts]) rfl trivial
    | @remember tasks known =>
      have hask : c'.askTasks here = (c'', .ok known) := Cluster.of_replied answered
      have hknown : c'.index.tasks here = known := Cluster.askTasks_ok hask
      refine hidle (by simp [Request.parts]) (by simp [Request.parts]) rfl ?_
      refine ⟨tasks.nodup_toList, fun x hx => hknown ▸ h.kept x hx, fun x _ hk => ?_⟩
      rcases h.recorded x with hx | hx | hx
      · exact absurd (hknown ▸ hx) hk
      · cases hx
      · exact hx
    | pass =>
      refine hidle (by simp [Request.parts]) (by simp [Request.parts]) rfl ?_
      exact ⟨(List.nodup_cons.1 hcareful.1).2, hcareful.2.1,
        fun x hx => hcareful.2.2 x (.tail _ hx)⟩
    | choose hk =>
      refine hidle (by simp [Request.parts]) (by simp [Request.parts]) rfl ?_
      exact ⟨hcareful.1, hcareful.2.1, hk, hcareful.2.2⟩
    | @startFails known task left e =>
      refine h.idle (Cluster.Idle.of_startFails answered) rfl rfl ?_
      exact ⟨(List.nodup_cons.1 hcareful.1).2, hcareful.2.1,
        fun x hx => hcareful.2.2.2 x (.tail _ hx)⟩
    | start =>
      have hindex := Cluster.answered_index answered (by simp [Request.parts])
      have hstarted := Cluster.startTask_ok (Cluster.of_replied answered) here
      rw [if_pos rfl] at hstarted
      exact h.starts (by rw [hindex]) hstarted
    | record => exact h.records answered

end Accounts

/-! ## 5. Wherever the departures get -/

/-- What may happen beside the departures handled on the node `here`: anything, but that a task is
taken out of its entry or started on it. -/
structure Beside (here : NodeId) (c c' : Cluster) : Prop where
  entry : ∀ x, x ∈ c.index.tasks here → x ∈ c'.index.tasks here
  started : (c'.node here).runner.started = (c.node here).runner.started

namespace Departing

/-- Departures handled one after another by one activity. -/
abbrev Handlings : Type := Team Unit (List (Except HandlerError (List ClusterEvent)))

/-- The exchanges that the handlings have had so far. -/
def Handlings.exchanges (t : Handlings) : List Exchange := t.trace.map (·.2)

variable {here : NodeId} {machine activity : Nat} {c : Cluster} {t t' : Handlings}
  {g g' : Unit → Batch}

theorem move (h : Accounts here c t.cluster t.exchanges (g ()))
    (hm : Team.Move (fun _ => ⟨here, machine, activity⟩) (Beside here) (fun _ => Departing here)
      t g t' g') : Accounts here c t'.cluster t'.exchanges (g' ()) := by
  cases hm with
  | @exchange i r next c' reply b turn answered admitted follows =>
    have hlast : Handlings.exchanges ⟨c', Function.update t.stage i (.going (next reply)),
        t.trace ++ [(i, ⟨r, reply⟩)]⟩ = t.exchanges ++ [⟨r, reply⟩] := by
      simp [Handlings.exchanges]
    rw [hlast, Function.update_self]
    exact h.exchange follows answered
  | @wait i r next c' reply b turn answered refused follows =>
    obtain ⟨name, rfl, rfl⟩ := Cluster.of_refused answered refused
    exact h.elsewhere (fun _ hx => hx) rfl
  | @stop i r next c' turn answered follows =>
    obtain ⟨reply⟩ := r.reply_nonempty
    obtain ⟨b, hb⟩ := follows reply
    cases hb with
    | batch hb => exact absurd (Cluster.clock_of_none answered) hb.timeless
    | beside _ hindex hrunner =>
      have hidle : t.cluster.Idle c' := .of_answered answered hindex hrunner
      refine h.elsewhere (fun x hx => ?_) (hidle.started here)
      show x ∈ c'.index.tasks here
      rw [hidle.entries]
      exact hx
  | elsewhere happened => exact h.elsewhere happened.entry happened.started

theorem accounts_of_reaches {departed : List Member}
    (h : Team.Reaches (fun _ => ⟨here, machine, activity⟩) (Beside here)
      (.start c fun _ => Handler.handleDepartures here departed) t) :
    ∃ b, Accounts here c t.cluster t.exchanges b := by
  have hfollowing : Team.Following (fun _ => Departing here) (fun _ => Handler.Outside)
      (.start c fun _ : Unit => Handler.handleDepartures here departed) fun _ => .fresh := by
    rintro i p hp
    cases hp
    exact Handler.handleDepartures_follows departed rfl
  obtain ⟨g, hg, -⟩ := h.keeps_following
    (P := fun t g => Accounts here c t.cluster (Handlings.exchanges t) (g ())) .start hfollowing
    fun hp _ hm => move hp hm
  exact ⟨g (), hg⟩

/-- Whatever fails, and whatever others do: of the tasks of departed nodes this node starts none
that was recorded there at the begin, and it starts one again only after a recording of it failed.
So if no recording fails, it starts none twice. -/
theorem started_again_only_unrecorded {departed : List Member}
    (h : Team.Reaches (fun _ => ⟨here, machine, activity⟩) (Beside here)
      (.start c fun _ => Handler.handleDepartures here departed) t) :
    (t.cluster.node here).runner.started.toList =
      (c.node here).runner.started.toList ++ startedIn t.exchanges ∧
    (∀ x ∈ startedIn t.exchanges, ¬ x ∈ c.index.tasks here) ∧
    (∀ task before between after,
      t.exchanges = before ++ start task :: (between ++ start task :: after) →
      ∃ e ∈ between, e.unrecorded? = some task) ∧
    ((∀ e ∈ t.exchanges, e.unrecorded? = none) → (startedIn t.exchanges).Nodup) := by
  obtain ⟨b, hb⟩ := accounts_of_reaches h
  exact ⟨hb.started, hb.new, hb.spaced, hb.spaced.nodup⟩

/-- A node that owns a task of a departed one, with an index that does not take the task. -/
def unrecordable : Cluster :=
  { Cluster.empty default "node-tasks" (.memory (.holding none)) with
    substrate := Substrate.empty.setOwner ⟨"t-1"⟩ ⟨"a"⟩
    index := (TaskIndex.named "node-tasks").assign ⟨"b"⟩ [⟨"t-1"⟩]
    faults := Faults.set [] .addTask "t-1" (some "down") }

/-- The same departure told twice. -/
def toldTwice : List Member := [⟨⟨"b"⟩, ⟨"10.0.0.2"⟩⟩, ⟨⟨"b"⟩, ⟨"10.0.0.2"⟩⟩]

theorem unrecordable_reaches : ∃ t : Handlings,
    Team.Reaches (fun _ => ⟨⟨"a"⟩, 0, 0⟩) Team.nothing
      (.start unrecordable fun _ => Handler.handleDepartures ⟨"a"⟩ toldTwice) t ∧ t.Finished ∧
    (t.cluster.node ⟨"a"⟩).runner.started.toList = [⟨"t-1"⟩, ⟨"t-1"⟩] := by
  have hrounds : ∃ c results, Cluster.rounds 4
      [(⟨⟨"a"⟩, 0, 0⟩, .suspended (Handler.handleDepartures ⟨"a"⟩ toldTwice) false)]
      unrecordable = (c, some results) ∧
      (c.node ⟨"a"⟩).runner.started.toList = [⟨"t-1"⟩, ⟨"t-1"⟩] := ⟨_, _, rfl, rfl⟩
  obtain ⟨c, results, hrounds, hstarted⟩ := hrounds
  have hpool : Team.Pooled (fun _ => ⟨⟨"a"⟩, 0, 0⟩)
      (.start unrecordable fun _ => Handler.handleDepartures ⟨"a"⟩ toldTwice) [()]
      [(⟨⟨"a"⟩, 0, 0⟩, .suspended (Handler.handleDepartures ⟨"a"⟩ toldTwice) false)] :=
    .cons ⟨rfl, rfl⟩ .nil
  obtain ⟨t, hreach, rfl, hover⟩ :=
    Cluster.rounds_reaches (List.nodup_singleton ()) hpool hrounds
  refine ⟨t, hreach, fun i => ?_, hstarted⟩
  cases hover with
  | cons hover _ => exact ⟨_, hover⟩

theorem unrecordable_started_twice :
    ¬ ∀ (departed : List Member) (t : Handlings),
      Team.Reaches (fun _ => ⟨⟨"a"⟩, 0, 0⟩) (Beside ⟨"a"⟩)
        (.start unrecordable fun _ => Handler.handleDepartures ⟨"a"⟩ departed) t →
      t.Finished → (startedIn t.exchanges).Nodup := by
  intro h
  obtain ⟨t, hreach, hover, hstarted⟩ := unrecordable_reaches
  have hreach : Team.Reaches _ (Beside ⟨"a"⟩) _ t := hreach.mono fun _ _ => False.elim
  obtain ⟨b, hb⟩ := accounts_of_reaches hreach
  have hin : startedIn t.exchanges = [⟨"t-1"⟩, ⟨"t-1"⟩] := hb.started.symm.trans hstarted
  have hnodup := h toldTwice t hreach hover
  rw [hin] at hnodup
  exact absurd hnodup (by decide)

/-- Where the task is started a second time the index is to blame. -/
theorem unrecordable_blamed : ∃ t : Handlings,
    Team.Reaches (fun _ => ⟨⟨"a"⟩, 0, 0⟩) (Beside ⟨"a"⟩)
      (.start unrecordable fun _ => Handler.handleDepartures ⟨"a"⟩ toldTwice) t ∧ t.Finished ∧
    ∃ e ∈ t.exchanges, e.unrecorded? ≠ none := by
  obtain ⟨t, hreach, hover, hstarted⟩ := unrecordable_reaches
  have hreach : Team.Reaches _ (Beside ⟨"a"⟩) _ t := hreach.mono fun _ _ => False.elim
  obtain ⟨hin, -, -, hnodup⟩ := started_again_only_unrecorded hreach
  refine ⟨t, hreach, hover, Classical.byContradiction fun hnone => ?_⟩
  have hall : ∀ e ∈ t.exchanges, e.unrecorded? = none := by
    intro e he
    exact Classical.byContradiction fun hne => hnone ⟨e, he, hne⟩
  have hnodup := hnodup hall
  rw [show startedIn t.exchanges = [⟨"t-1"⟩, ⟨"t-1"⟩] from hin.symm.trans hstarted] at hnodup
  exact absurd hnodup (by decide)

end Departing

end ClusterKeeper
