import ClusterKeeper.Handler.Departure
import ClusterKeeper.Proofs.Locking

/-!
# `Proofs/Resumption/Conduct.lean` — how the tasks of a departed node are taken over

The rule that `Handler.resumeTasks` follows: the departed node's tasks are read, then, with the
lock, the tasks recorded here, and then the tasks are decided on one by one. A task is started only
if its owner was said to be this node and it was not among the tasks read here; and a task that was
started is the next thing to be recorded.

The situation of a batch (`Batch`) has the tasks read here and those still to be decided on, and
nothing of what the program remembers besides. Log records may be made at any time.
-/

set_option autoImplicit false

namespace ClusterKeeper

/-- How far the taking over of a departed node's tasks has come. -/
inductive Batch
  | fresh
  /-- There are tasks to decide on, and the lock is to be taken. -/
  | candidates (tasks : OrderedSet TaskId)
  | admitted (tasks : OrderedSet TaskId)
  /-- `known` was recorded here when the lock was taken; `left` is still to be decided on. -/
  | deciding (known : OrderedSet TaskId) (left : List TaskId)
  /-- The task is owned here and not known here. -/
  | chosen (known : OrderedSet TaskId) (task : TaskId) (left : List TaskId)
  /-- The task was started and is to be recorded. -/
  | started (known : OrderedSet TaskId) (task : TaskId) (left : List TaskId)
  /-- The tasks recorded here could not be read. -/
  | refused
  | finished
  /-- It ended because the index could not be read. -/
  | failed

namespace Batch

def inside : Batch → Bool
  | fresh | candidates _ | finished | failed => false
  | admitted _ | deciding _ _ | chosen _ _ _ | started _ _ _ | refused => true

abbrev OwnerReply := Except SubstrateError (Option NodeId)

/-- The exchanges of a batch on the node `here`, about the tasks of the node `departed`. -/
inductive Conduct (here departed : NodeId) : Rule Request.Reply Batch
  | log {b : Batch} {x : LogRecord} : Conduct here departed b (.log x) () b
  | unread {e : IndexError} :
      Conduct here departed .fresh (.tasksOf departed) (.error e) .failed
  | nothing {tasks : OrderedSet TaskId} (h : tasks.isEmpty = true) :
      Conduct here departed .fresh (.tasksOf departed) (.ok tasks) .finished
  | read {tasks : OrderedSet TaskId} (h : tasks.isEmpty = false) :
      Conduct here departed .fresh (.tasksOf departed) (.ok tasks) (.candidates tasks)
  | enter {tasks : OrderedSet TaskId} :
      Conduct here departed (.candidates tasks) (.acquire .leaveBatch) () (.admitted tasks)
  | refuse {tasks : OrderedSet TaskId} {e : IndexError} :
      Conduct here departed (.admitted tasks) (.tasksOf here) (.error e) .refused
  | remember {tasks known : OrderedSet TaskId} :
      Conduct here departed (.admitted tasks) (.tasksOf here) (.ok known)
        (.deciding known tasks.toList)
  | pass {known : OrderedSet TaskId} {task : TaskId} {left : List TaskId} {owner : OwnerReply}
      (h : owner = .ok (some here) → task ∈ known) :
      Conduct here departed (.deciding known (task :: left)) (.ownerOf task) owner
        (.deciding known left)
  | choose {known : OrderedSet TaskId} {task : TaskId} {left : List TaskId} (h : ¬ task ∈ known) :
      Conduct here departed (.deciding known (task :: left)) (.ownerOf task) (.ok (some here))
        (.chosen known task left)
  | start {known : OrderedSet TaskId} {task : TaskId} {left : List TaskId} :
      Conduct here departed (.chosen known task left) (.startTask task) (.ok ())
        (.started known task left)
  | startFails {known : OrderedSet TaskId} {task : TaskId} {left : List TaskId} {e : StartError} :
      Conduct here departed (.chosen known task left) (.startTask task) (.error e)
        (.deciding known left)
  | record {known : OrderedSet TaskId} {task : TaskId} {left : List TaskId}
      {result : Except IndexError Unit} :
      Conduct here departed (.started known task left) (.addTask here task) result
        (.deciding known left)
  | leave {known : OrderedSet TaskId} :
      Conduct here departed (.deciding known []) (.release .leaveBatch) () .finished
  | giveUp : Conduct here departed .refused (.release .leaveBatch) () .failed

/-- How a batch ends: well if it came to its end, and badly only because of the index. -/
def Ending {α : Type} : Batch → Except HandlerError α → Prop
  | .finished, .ok _ => True
  | .failed, .error (.index _) => True
  | _, _ => False

theorem Ending.inside_eq {α : Type} {b : Batch} {result : Except HandlerError α}
    (h : Ending b result) : b.inside = false := by
  cases b <;> first | rfl | exact h.elim

/-- A batch takes the lock and gives it up. -/
theorem Conduct.locks {here departed : NodeId} {b b' : Batch} {r : Request} {reply : r.Reply}
    (h : Conduct here departed b r reply b') :
    LockRule .leaveBatch b.inside r reply b'.inside := by
  cases h with
  | enter => exact .acquire
  | leave | giveUp => exact .release
  | _ => exact .other (by simp [Request.parts])

end Batch

/-! ## The handler keeps to it -/

namespace Handler

open Batch

variable {here departed : NodeId} {known : OrderedSet TaskId} {task : TaskId} {left : List TaskId}

theorem follows_log {α : Type} {last : Batch → α → Prop} {b : Batch} {level : LogLevel}
    {message : String} {fields : LogFields} {f : Unit → Handler α}
    (h : (f ()).Follows (Conduct here departed) last b) :
    (log level message fields >>= f).Follows (Conduct here departed) last b :=
  Program.Follows.request fun _ => ⟨b, .log, h⟩

theorem resume_follows :
    (resume here task).Follows (Conduct here departed) (fun b _ => b = .deciding known left)
      (.chosen known task left) := by
  refine Program.Follows.request fun started => ?_
  cases started with
  | error cause => exact ⟨_, .startFails, rfl⟩
  | ok _ =>
    refine ⟨_, .start, Program.Follows.request fun recorded => ⟨_, .record, ?_⟩⟩
    cases recorded <;> rfl

theorem resumeOwned_follows :
    (resumeOwned here task).Follows (Conduct here departed) (fun b _ => b = .deciding known left)
      (.chosen known task left) := by
  refine follows_log (resume_follows.bind fun b result hb => ?_)
  subst hb
  cases result with
  | ok _ => rfl
  | error e => exact follows_log rfl

/-- A task whose owner is this node is chosen unless it is known. -/
theorem isOwnedHere_follows :
    (isOwnedHere here task).Follows (Conduct here departed)
      (fun b owned => b = if owned = .ok true ∧ ¬ task ∈ known then .chosen known task left
        else .deciding known left)
      (.deciding known (task :: left)) := by
  refine Program.Follows.request fun owner => ?_
  match owner with
  | .error e =>
    refine ⟨_, .pass (fun h => by cases h), follows_log ?_⟩
    exact (if_neg (fun h => by cases h.1)).symm
  | .ok none =>
    refine ⟨_, .pass (fun h => by cases h), follows_log ?_⟩
    exact (if_neg (fun h => by cases h.1)).symm
  | .ok (some owner) =>
    dsimp only
    split
    · next ho =>
      subst ho
      by_cases hk : task ∈ known
      · exact ⟨_, .pass fun _ => hk, (if_neg fun h => h.2 hk).symm⟩
      · exact ⟨_, .choose hk, (if_pos ⟨rfl, hk⟩).symm⟩
    · next ho =>
      refine ⟨_, .pass (fun h => ?_), follows_log ?_⟩
      · cases h
        exact absurd rfl ho
      · exact (if_neg (fun h => by cases h.1)).symm

theorem resumeOne_follows :
    (resumeOne here known task).Follows (Conduct here departed)
      (fun b _ => b = .deciding known left) (.deciding known (task :: left)) := by
  refine isOwnedHere_follows.bind fun b owned hb => ?_
  match owned with
  | .error reason => exact hb.trans (if_neg (fun h => by cases h.1))
  | .ok false => exact hb.trans (if_neg (fun h => by cases h.1))
  | .ok true =>
    dsimp only
    split
    · next hk =>
      rw [if_neg (fun h => h.2 (OrderedSet.contains_iff.1 hk))] at hb
      exact follows_log hb
    · next hk =>
      rw [if_pos ⟨rfl, mt OrderedSet.contains_iff.2 hk⟩] at hb
      subst hb
      exact resumeOwned_follows.bind fun b _ hb => hb

theorem resumeEach_follows (tasks : List TaskId) :
    (resumeEach here known tasks).Follows (Conduct here departed)
      (fun b _ => b = .deciding known []) (.deciding known tasks) := by
  induction tasks with
  | nil => rfl
  | cons task tasks ih =>
    have hone : (resumeOne here known task).Follows (Conduct here departed)
        (fun b _ => b = .deciding known tasks) (.deciding known (task :: tasks)) :=
      resumeOne_follows
    refine hone.bind fun b _ hb => ?_
    subst hb
    exact ih.bind fun b _ hb => hb

/-- The part of a batch for which the lock is held. -/
def decideAll (here : NodeId) (tasks : OrderedSet TaskId) : Attempt (List ClusterEvent) := do
  let known ← orFail .index (Request.tasksOf here).ask
  resumeEach here known tasks.toList

theorem run_resumeTasks (here : NodeId) (departed : Member) :
    (resumeTasks here departed).run = ((Request.tasksOf departed.id).ask >>= fun
      | .error e => pure (.error (.index e))
      | .ok tasks =>
        if tasks.isEmpty then do
          debug "departed node had no tasks" [("member", departed.display)]
          return .ok []
        else do
          info "tasks are candidates for re-trigger, node left the cluster"
            [("tasks", shownSet tasks), ("member", departed.display)]
          holding .leaveBatch (decideAll here tasks).run) := by
  rw [resumeTasks, run_orFail_bind]
  refine congrArg _ (funext fun r => ?_)
  cases r with
  | error e => rfl
  | ok tasks =>
    dsimp only
    split
    · rw [run_lift_bind]
      rfl
    · rw [run_lift_bind]
      rfl

theorem decideAll_follows {tasks : OrderedSet TaskId} :
    (decideAll here tasks).run.Follows (Conduct here departed)
      (fun b result => match result with
        | .ok _ => ∃ known, b = .deciding known []
        | .error (.index _) => b = .refused
        | .error _ => False)
      (.admitted tasks) := by
  rw [decideAll, run_orFail_bind]
  refine Program.Follows.request fun known => ?_
  cases known with
  | error e => exact ⟨_, .refuse, rfl⟩
  | ok known =>
    refine ⟨_, .remember, ?_⟩
    dsimp only
    exact (resumeEach_follows tasks.toList).bind fun b events hb => ⟨known, hb⟩

/-- Taking over the tasks of a departed node keeps to the rule, from the begin to the end. -/
theorem resumeTasks_follows (here : NodeId) (departed : Member) :
    (resumeTasks here departed).run.Follows (Conduct here departed.id) Ending .fresh := by
  rw [run_resumeTasks]
  refine Program.Follows.request fun tasks => ?_
  cases tasks with
  | error e => exact ⟨_, .unread, trivial⟩
  | ok tasks =>
    dsimp only
    split
    · next he => exact ⟨_, .nothing he, follows_log trivial⟩
    · next he =>
      refine ⟨_, .read (Bool.eq_false_iff.2 he), follows_log ?_⟩
      refine Program.Follows.request fun _ => ⟨_, .enter, decideAll_follows.bind fun b result hb => ?_⟩
      match result with
      | .ok _ =>
        obtain ⟨known, rfl⟩ := hb
        exact Program.Follows.request fun _ => ⟨_, .leave, trivial⟩
      | .error (.index _) =>
        cases hb
        exact Program.Follows.request fun _ => ⟨_, .giveUp, trivial⟩

end Handler

end ClusterKeeper
