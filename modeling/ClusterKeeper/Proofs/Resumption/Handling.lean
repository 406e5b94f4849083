import ClusterKeeper.Proofs.Course
import ClusterKeeper.Proofs.Resumption.Conduct

/-!
# `Proofs/Resumption/Handling.lean` — what becomes of the tasks of a departed node

A node that takes over tasks alone, with an index that answers and owners that are known, goes
through the departed node's tasks in order. It attempts those that it owns and that were not
recorded under it when it began (`attempts`); each of them its runner starts or fails. The events
tell of every attempt, and of nothing else; what was started is recorded, in the same order
(`TookOver`).

Whether a task starts depends on faults and on the tasks that the runner fails, and no request
changes either. So all that a batch does can be read off the cluster that it begins with.
-/

set_option autoImplicit false

namespace ClusterKeeper

namespace Cluster

variable {a : Actor} {c c' c'' : Cluster} {here : NodeId} {new more : List TaskId}

/-! ## 1. What stays as it is -/

/-- Owners and runners answer alike in both. -/
structure AnswersAlike (c c' : Cluster) : Prop where
  owners : ∀ asker task, (c'.askOwner asker task).2 = (c.askOwner asker task).2
  starts : ∀ id task, (c'.startTask id task).2 = (c.startTask id task).2
  available : c.IndexAvailable → c'.IndexAvailable

theorem AnswersAlike.refl (c : Cluster) : AnswersAlike c c :=
  ⟨fun _ _ => rfl, fun _ _ => rfl, id⟩

theorem AnswersAlike.trans (h : AnswersAlike c c') (h' : AnswersAlike c' c'') :
    AnswersAlike c c'' where
  owners asker task := (h'.owners asker task).trans (h.owners asker task)
  starts id task := (h'.starts id task).trans (h.starts id task)
  available hc := h'.available (h.available hc)

/-- No request changes what owners and runners answer. -/
theorem AnswersAlike.of_answered {r : Request} {reply : Option r.Reply}
    (h : c.answer a r = (c', reply)) : AnswersAlike c c' := by
  obtain rfl : (c.answer a r).1 = c' := congrArg Prod.fst h
  exact
    { owners := answer_askOwner c a r
      starts := answer_startTask c a r
      available := fun hc => hc.answer a r }

/-! ## 2. Taking over -/

/-- A cluster after these tasks were started on a node, one after another, and recorded there. -/
structure TookOver (here : NodeId) (new : List TaskId) (c c' : Cluster) : Prop where
  alike : AnswersAlike c c'
  index : c'.index = new.foldl (fun i task => (i.addTask here task).1) c.index
  started : ∀ id, (c'.node id).runner.started.toList =
    (c.node id).runner.started.toList ++ if id = here then new else []

theorem TookOver.refl (here : NodeId) (c : Cluster) : TookOver here [] c c where
  alike := .refl c
  index := rfl
  started := by simp

theorem TookOver.trans (h : TookOver here new c c') (h' : TookOver here more c' c'') :
    TookOver here (new ++ more) c c'' where
  alike := h.alike.trans h'.alike
  index := by rw [h'.index, h.index, List.foldl_append]
  started := by
    intro id
    rw [h'.started, h.started, List.append_assoc]
    split <;> rfl

/-- A request that neither starts a task nor records one. -/
theorem tookOver_answered {r : Request} {reply : Option r.Reply}
    (h : c.answer a r = (c', reply)) (hindex : .index ∉ r.parts) (hrunner : .runner ∉ r.parts) :
    TookOver here [] c c' where
  alike := .of_answered h
  index := answered_index h hindex
  started := by
    intro id
    rw [answered_runner h hrunner, ite_self, List.append_nil]

/-- The tasks of `tasks` that a node attempts: it owns them, and did not know them. -/
def attempts (owner : TaskId → Option NodeId) (here : NodeId) (known : OrderedSet TaskId)
    (tasks : List TaskId) : List TaskId :=
  tasks.filter fun task => owner task = some here ∧ ¬ task ∈ known

/-- Whether the runner of a node starts a task. -/
def starts (c : Cluster) (here : NodeId) (task : TaskId) : Bool := (c.startTask here task).2.isOk

/-- What a node tells of an attempt. -/
def attempted (c : Cluster) (here : NodeId) (task : TaskId) : ClusterEvent :=
  match (c.startTask here task).2 with
  | .ok () => .taskResumed task here
  | .error e => .taskFailed task (ResumeError.notStarted task e).message

theorem AnswersAlike.starts_eq (h : AnswersAlike c c') (here : NodeId) :
    c'.starts here = c.starts here := by
  funext task
  rw [Cluster.starts, h.starts, Cluster.starts]

theorem AnswersAlike.attempted_eq (h : AnswersAlike c c') (here : NodeId) :
    c'.attempted here = c.attempted here := by
  funext task
  rw [Cluster.attempted, h.starts, Cluster.attempted]

end Cluster

/-! ## 3. The handler -/

namespace Handler

open Cluster

variable {a : Actor} {c c' : Cluster} {owner : TaskId → Option NodeId} {task : TaskId}
  {known : OrderedSet TaskId}

theorem log_tookOver (level : LogLevel) (message : String) (fields : LogFields) :
    Yields a (log level message fields) c fun c' _ => TookOver a.node [] c c' := by
  have hanswer : c.answer a (.log ⟨level, message, fields, []⟩) =
      ((c.answer a (.log ⟨level, message, fields, []⟩)).1, some ()) := rfl
  apply yields_request hanswer
  exact tookOver_answered hanswer (by simp [Request.parts]) (by simp [Request.parts])

/-- Log records, and then something else. -/
theorem tookOver_log {α : Type} {level : LogLevel} {message : String} {fields : LogFields}
    {f : Unit → Handler α} {Q : Cluster → α → Prop}
    (hf : ∀ c', TookOver a.node [] c c' → Yields a (f ()) c' Q) :
    Yields a (log level message fields >>= f) c Q :=
  (log_tookOver level message fields).bind fun c' _ h => hf c' h

theorem isOwnedHere_yields (howner : (c.askOwner a.node task).2 = .ok (owner task)) :
    Yields a (isOwnedHere a.node task) c fun c' r =>
      r = .ok (decide (owner task = some a.node)) ∧ TookOver a.node [] c c' := by
  refine yields_ask (by simp [Request.parts]) fun c₁ reply h₁ => ?_
  have hasked : TookOver a.node [] c c₁ :=
    tookOver_answered h₁ (by simp [Request.parts]) (by simp [Request.parts])
  have hreply : (c.askOwner a.node task).2 = reply := congrArg Prod.snd (of_replied h₁)
  rw [← hreply, howner]
  cases hid : owner task with
  | none => exact tookOver_log fun c₂ h₂ => yields_done ⟨by simp, hasked.trans h₂⟩
  | some id =>
    dsimp only
    split
    · next hhere => exact yields_done ⟨by simp [hhere], hasked⟩
    · next hhere => exact tookOver_log fun c₂ h₂ => yields_done ⟨by simp [hhere], hasked.trans h₂⟩

/-- A task that is started is recorded. -/
theorem resume_yields (hindex : c.IndexAvailable) :
    Yields a (resume a.node task) c fun c' r =>
      match (c.startTask a.node task).2 with
      | .ok () => r = .ok () ∧ TookOver a.node [task] c c'
      | .error e => r = .error (.notStarted task e) ∧ TookOver a.node [] c c' := by
  refine yields_ask (by simp [Request.parts]) fun c₁ reply h₁ => ?_
  have hstart : c.startTask a.node task = (c₁, reply) := of_replied h₁
  have halike : AnswersAlike c c₁ := .of_answered h₁
  have hsame : c₁.index = c.index := answered_index h₁ (by simp [Request.parts])
  rw [hstart]
  cases reply with
  | error e =>
    refine yields_done ⟨rfl, halike, hsame, ?_⟩
    intro id
    rw [startTask_error hstart, ite_self, List.append_nil]
  | ok _ =>
    refine yields_ask (by simp [Request.parts]) fun c₂ recorded h₂ => ?_
    have hadd : c₁.addTask a.node task = (c₂, recorded) := of_replied h₂
    rw [(halike.available hindex).addTask] at hadd
    cases hadd
    refine yields_done ⟨rfl, halike.trans (.of_answered h₂), ?_, ?_⟩
    · show (c₁.index.addTask a.node task).1 = _
      rw [hsame]
      rfl
    · intro id
      refine (congrArg History.toList (startTask_ok hstart id)).trans ?_
      split
      · next hid => rw [hid, History.toList_add]
      · rw [List.append_nil]

theorem resumeOwned_yields (hindex : c.IndexAvailable) :
    Yields a (resumeOwned a.node task) c fun c' event =>
      event = c.attempted a.node task ∧
        TookOver a.node ([task].filter (c.starts a.node)) c c' := by
  refine tookOver_log fun c₁ h₁ => ?_
  refine (resume_yields (h₁.alike.available hindex)).bind fun c₂ r h₂ => ?_
  rw [h₁.alike.starts] at h₂
  rw [attempted]
  cases hstart : (c.startTask a.node task).2 with
  | error e =>
    have hnew : [task].filter (c.starts a.node) = [] := by
      simp [starts, hstart, Except.isOk, Except.toBool]
    rw [hstart] at h₂
    obtain ⟨rfl, h₂⟩ := h₂
    rw [hnew]
    exact tookOver_log fun c₃ h₃ => yields_done ⟨rfl, h₁.trans (h₂.trans h₃)⟩
  | ok _ =>
    have hnew : [task].filter (c.starts a.node) = [task] := by
      simp [starts, hstart, Except.isOk, Except.toBool]
    rw [hstart] at h₂
    obtain ⟨rfl, h₂⟩ := h₂
    rw [hnew]
    exact yields_done ⟨rfl, h₁.trans h₂⟩

theorem resumeOne_yields (hindex : c.IndexAvailable)
    (howner : (c.askOwner a.node task).2 = .ok (owner task)) :
    Yields a (resumeOne a.node known task) c fun c' event =>
      event.toList = (attempts owner a.node known [task]).map (c.attempted a.node) ∧
        TookOver a.node ((attempts owner a.node known [task]).filter (c.starts a.node)) c c' := by
  refine (isOwnedHere_yields howner).bind fun c₁ owned h₁ => ?_
  obtain ⟨rfl, h₁⟩ := h₁
  by_cases hhere : owner task = some a.node
  · simp only [hhere, decide_true]
    split
    · next hknown =>
      have hmem : task ∈ known := OrderedSet.contains_iff.1 hknown
      have hnone : attempts owner a.node known [task] = [] := by simp [attempts, hmem]
      rw [hnone]
      exact tookOver_log fun c₂ h₂ => yields_done ⟨rfl, h₁.trans h₂⟩
    · next hknown =>
      have hmem : ¬ task ∈ known := fun h => hknown (OrderedSet.contains_iff.2 h)
      have hone : attempts owner a.node known [task] = [task] := by simp [attempts, hhere, hmem]
      refine (resumeOwned_yields (h₁.alike.available hindex)).bind fun c₂ event h₂ => ?_
      obtain ⟨rfl, h₂⟩ := h₂
      rw [h₁.alike.starts_eq] at h₂
      rw [hone, h₁.alike.attempted_eq]
      exact yields_done ⟨rfl, h₁.trans h₂⟩
  · have hnone : attempts owner a.node known [task] = [] := by simp [attempts, hhere]
    simp only [hhere, decide_false, hnone]
    exact yields_done ⟨rfl, h₁⟩

/-- The tasks are gone through in order, whatever became of those before. -/
theorem resumeEach_yields (tasks : List TaskId) (hindex : c.IndexAvailable)
    (howner : ∀ task, (c.askOwner a.node task).2 = .ok (owner task)) :
    Yields a (resumeEach a.node known tasks) c fun c' events =>
      events = (attempts owner a.node known tasks).map (c.attempted a.node) ∧
        TookOver a.node ((attempts owner a.node known tasks).filter (c.starts a.node)) c c' := by
  induction tasks generalizing c with
  | nil => exact yields_done ⟨rfl, .refl _ c⟩
  | cons task tasks ih =>
    have hsplit : attempts owner a.node known (task :: tasks) =
        attempts owner a.node known [task] ++ attempts owner a.node known tasks :=
      List.filter_append [task] tasks
    refine (resumeOne_yields hindex (howner task)).bind fun c₁ event h₁ => ?_
    obtain ⟨hevent, h₁⟩ := h₁
    have howner₁ : ∀ task, (c₁.askOwner a.node task).2 = .ok (owner task) := by
      intro task
      rw [h₁.alike.owners]
      exact howner task
    refine (ih (h₁.alike.available hindex) howner₁).bind fun c₂ events h₂ => ?_
    obtain ⟨rfl, h₂⟩ := h₂
    rw [h₁.alike.starts_eq] at h₂
    refine yields_done ⟨?_, ?_⟩
    · rw [hsplit, List.map_append, hevent, h₁.alike.attempted_eq]
    · rw [hsplit, List.filter_append]
      exact h₁.trans h₂

/-- The tasks that a node attempts when it hears of a departure. -/
abbrev attemptsOf (owner : TaskId → Option NodeId) (here : NodeId) (departed : Member)
    (c : Cluster) : List TaskId :=
  attempts owner here (c.index.tasks here) (c.index.tasks departed.id).toList

/-- Taking over the tasks of a departed node does not fail, and tells of every attempt. -/
theorem resumeTasks_yields (departed : Member) (hindex : c.IndexAvailable)
    (howner : ∀ task, (c.askOwner a.node task).2 = .ok (owner task)) :
    Yields a (resumeTasks a.node departed).run c fun c' r =>
      r = .ok ((attemptsOf owner a.node departed c).map (c.attempted a.node)) ∧
        TookOver a.node ((attemptsOf owner a.node departed c).filter (c.starts a.node)) c c' := by
  rw [run_resumeTasks]
  refine yields_ask (by simp [Request.parts]) fun c₁ tasks h₁ => ?_
  have hread : c.askTasks departed.id = (c₁, tasks) := of_replied h₁
  rw [hindex.askTasks] at hread
  cases hread
  dsimp only
  split
  · next hempty =>
    have hnone : attemptsOf owner a.node departed c = [] := by
      rw [attemptsOf, List.isEmpty_iff.1 hempty, attempts, List.filter_nil]
    rw [hnone]
    exact tookOver_log fun c₂ h₂ => yields_done ⟨rfl, h₂⟩
  · refine tookOver_log fun c₂ h₂ => ?_
    refine yields_ask (by simp [Request.parts]) fun c₃ _ h₃ => ?_
    have hbegin : TookOver a.node [] c c₃ :=
      h₂.trans (tookOver_answered h₃ (by simp [Request.parts]) (by simp [Request.parts]))
    have hsame : c₃.index = c.index := hbegin.index
    have hdecide : Yields a (decideAll a.node (c.index.tasks departed.id)).run c₃ fun c' r =>
        r = .ok ((attemptsOf owner a.node departed c).map (c.attempted a.node)) ∧
          TookOver a.node ((attemptsOf owner a.node departed c).filter (c.starts a.node)) c c' := by
      have hlocal : c₃.askTasks a.node = (c₃, .ok (c.index.tasks a.node)) := by
        rw [(hbegin.alike.available hindex).askTasks, hsame]
      have howner₃ : ∀ task, (c₃.askOwner a.node task).2 = .ok (owner task) := by
        intro task
        rw [hbegin.alike.owners]
        exact howner task
      rw [decideAll]
      refine Yields.orFail (yields_request (congrArg replied hlocal) ⟨_, rfl, ?_⟩)
      refine (resumeEach_yields _ (hbegin.alike.available hindex) howner₃).bind ?_
      intro c₄ events h₄
      obtain ⟨rfl, h₄⟩ := h₄
      rw [hbegin.alike.starts_eq] at h₄
      rw [hbegin.alike.attempted_eq]
      exact yields_done ⟨rfl, hbegin.trans h₄⟩
    refine hdecide.bind fun c₄ result h₄ => ?_
    obtain ⟨rfl, h₄⟩ := h₄
    refine yields_ask (by simp [Request.parts]) fun c₅ _ h₅ => yields_done ⟨rfl, ?_⟩
    have hreleased : TookOver a.node [] c₄ c₅ :=
      tookOver_answered h₅ (by simp [Request.parts]) (by simp [Request.parts])
    have hleft := h₄.trans hreleased
    rwa [List.append_nil] at hleft

end Handler

end ClusterKeeper
