import ClusterKeeper.Handler.Transition
import ClusterKeeper.Proofs.Locking

/-!
# `Proofs/Status/Conduct.lean` — how a status is taken on

The rule that `Handler.statusPublished` follows for a value that is a status. With the lock the
local status is read; on the way into maintenance PAUSE is written and drained under; then the new
status is written, and then it is published. Nothing is written after that, and nothing at all is
done once the lock is given up.

The rule leaves open how long a drain goes on, only that it looks at the clock and at the number of
running tasks, and sleeps. A value that is no status is refused without a request.
-/

set_option autoImplicit false

namespace ClusterKeeper

/-- How far the taking on of a status has come. -/
inductive Transition
  | outside
  /-- The lock is held. -/
  | entered
  /-- PAUSE was written, and running tasks are waited for. -/
  | draining
  | settled
  | published
  | left
  deriving DecidableEq

namespace Transition

def inside : Transition → Bool
  | outside | left => false
  | entered | draining | settled | published => true

/-- What a drain does: it looks, and it waits. -/
def Polls : Request → Prop
  | .runningCount | .now | .sleep _ => True
  | _ => False

/-- The statuses written on the way to `target`. -/
def HasWritten (target : Status) (written : List Status) : Transition → Prop
  | outside | entered => written = []
  | draining => written = [.pause]
  | settled | published => written.getLast? = some target
  | left => True

/-- The exchanges on the way to the status `target`, published under `key`. -/
inductive Conduct (key : String) (target : Status) : Rule Request.Reply Transition
  | enter : Conduct key target .outside (.acquire .transition) () .entered
  | read {current : Status} : Conduct key target .entered .readStatus current .entered
  | pause {previous : Status} (h : target = .maintenance) :
      Conduct key target .entered (.writeStatus .pause) previous .draining
  | poll {r : Request} {reply : r.Reply} (h : Polls r) :
      Conduct key target .draining r reply .draining
  | finish {previous : Status} (h : target = .maintenance) :
      Conduct key target .draining (.writeStatus target) previous .settled
  | settle {previous : Status} : Conduct key target .entered (.writeStatus target) previous .settled
  | publish {result : Except SubstrateError Unit} :
      Conduct key target .settled (.publish key target.text) result .published
  | leave : Conduct key target .published (.release .transition) () .left
  | log {p : Transition} {x : LogRecord} (h : p.inside = true) :
      Conduct key target p (.log x) () p

def Ending {α : Type} (p : Transition) (_ : α) : Prop := p = .left

theorem Ending.inside_eq {α : Type} {p : Transition} {x : α} (h : Ending p x) :
    p.inside = false := by
  rw [show p = .left from h]
  rfl

/-- The lock is taken once and given up once. -/
theorem Conduct.locks {key : String} {target : Status} {p p' : Transition} {r : Request}
    {reply : r.Reply} (h : Conduct key target p r reply p') :
    LockRule .transition p.inside r reply p'.inside := by
  cases h with
  | enter => exact .acquire
  | leave => exact .release
  | poll hr => exact .other (by cases r <;> simp_all [Request.parts, Polls])
  | _ => exact .other (by simp [Request.parts])

end Transition

/-! ## The handler keeps to it -/

namespace Handler

open Transition

variable {key : String} {target : Status}

theorem follows_log_inside {α : Type} {last : Transition → α → Prop} {p : Transition}
    {level : LogLevel} {message : String} {fields : LogFields} {f : Unit → Handler α}
    (hp : p.inside = true) (h : (f ()).Follows (Conduct key target) last p) :
    (log level message fields >>= f).Follows (Conduct key target) last p :=
  Program.Follows.request fun _ => ⟨p, .log hp, h⟩

/-- What was written is told, if it is new. -/
theorem setLocal_follows {s : Status} {p q : Transition} (hq : q.inside = true)
    (hwrite : ∀ previous, Conduct key target p (.writeStatus s) previous q) :
    (setLocal s).Follows (Conduct key target) (fun p' _ => p' = q) p := by
  refine Program.Follows.request fun previous => ⟨q, hwrite previous, ?_⟩
  split
  · rfl
  · exact follows_log_inside hq rfl

theorem poll_polls (wait : BoundedWait) (satisfies : Nat → Bool) (deadline : Option Instant)
    (remaining polls : Nat) :
    (wait.poll drainSurroundings satisfies deadline remaining polls).Asks Polls := by
  -- The induction is on the looks that are left; neither deadline nor counts matter.
  induction remaining generalizing polls with
  | zero =>
    refine .request trivial fun seen => ?_
    split
    · trivial
    · exact .request trivial fun now => trivial
  | succ remaining ih =>
    refine .request trivial fun seen => ?_
    split
    · trivial
    · refine .request trivial fun now => ?_
      split
      · trivial
      · exact .request trivial fun _ => ih (polls + 1)

theorem await_polls (wait : BoundedWait) (satisfies : Nat → Bool) :
    (wait.await drainSurroundings satisfies).Asks Polls :=
  .request trivial fun _ => poll_polls _ _ _ _ _

theorem await_follows (wait : BoundedWait) (satisfies : Nat → Bool) :
    (wait.await drainSurroundings satisfies).Follows (Conduct key target)
      (fun p _ => p = .draining) .draining := by
  refine (await_polls wait satisfies).follows (P := fun p : Transition => p = .draining) ?_ rfl
  rintro p r reply rfl hr
  exact ⟨_, .poll hr, rfl⟩

theorem drain_follows (settings : Settings) :
    (drain settings).Follows (Conduct key target) (fun p _ => p = .draining) .draining := by
  refine follows_log_inside rfl (Program.Follows.request fun start => ⟨_, .poll trivial, ?_⟩)
  refine (await_follows _ _).bind fun p seen hp => ?_
  subst hp
  refine Program.Follows.request fun finish => ⟨_, .poll trivial, ?_⟩
  split
  · exact follows_log_inside rfl rfl
  · exact follows_log_inside rfl rfl

/-- Publishing is the last thing that is done with the lock. -/
theorem publish_follows {α : Type} (settings : Settings) (x : α) :
    (publish settings target >>= fun _ => (pure x : Attempt α)).run.Follows
      (Conduct settings.statusAttribute target) (fun p _ => p = .published) .settled := by
  rw [publish, run_orFail_bind]
  refine Program.Follows.request fun result => ⟨_, .publish, ?_⟩
  cases result <;> rfl

theorem enterMaintenance_follows (settings : Settings) :
    (enterMaintenance settings).run.Follows (Conduct settings.statusAttribute .maintenance)
      (fun p _ => p = .published) .entered := by
  rw [enterMaintenance, run_lift_bind]
  refine (setLocal_follows (q := .draining) rfl fun _ => .pause rfl).bind fun p paused hp => ?_
  subst hp
  rw [run_lift_bind]
  refine (drain_follows settings).bind fun p drained hp => ?_
  subst hp
  rw [run_lift_bind]
  refine (setLocal_follows (q := .settled) rfl fun _ => .finish rfl).bind fun p entered hp => ?_
  subst hp
  exact publish_follows settings _

theorem takeOn_follows (settings : Settings) (target : Status) :
    (takeOn settings target).run.Follows (Conduct settings.statusAttribute target)
      (fun p _ => p = .published) .entered := by
  rw [takeOn, run_lift_bind]
  refine Program.Follows.request fun current => ⟨_, .read, ?_⟩
  split
  · next h =>
    obtain ⟨rfl, -⟩ := h
    exact enterMaintenance_follows settings
  · rw [run_lift_bind]
    refine (setLocal_follows (q := .settled) rfl fun _ => .settle).bind fun p events hp => ?_
    subst hp
    exact publish_follows settings _

theorem run_statusPublished (settings : Settings) (value : String) :
    (statusPublished settings value).run = match Status.ofText? value with
      | none => .done (.error (.unknownStatus value))
      | some target => holding .transition (takeOn settings target).run := by
  rw [statusPublished]
  cases Status.ofText? value <;> rfl

/-- Taking on a status keeps to the rule, from before the lock is asked for. -/
theorem statusPublished_follows (settings : Settings) {value : String}
    (h : Status.ofText? value = some target) :
    (statusPublished settings value).run.Follows (Conduct settings.statusAttribute target)
      Ending .outside := by
  rw [run_statusPublished, h]
  refine Program.Follows.request fun _ => ⟨_, .enter, ?_⟩
  refine (takeOn_follows settings target).bind fun p result hp => ?_
  subst hp
  exact Program.Follows.request fun _ => ⟨_, .leave, rfl⟩

end Handler

end ClusterKeeper
