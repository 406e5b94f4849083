import ClusterKeeper.Proofs.Rule
import ClusterKeeper.Store.File
import ClusterKeeper.Store.Memory

/-!
# `Proofs/Store/Calls.lean` — the calls of a store in a file, step by step

A call reads the file, or it writes a record: makes the directory, opens the temporary file, writes
it and renames it. A step that fails ends the call with that failure (`FileStore.onOk`). Where a
call has come to is its `Phase`, and `FileStore.Conduct` says which steps, with which replies, lead
from one to the next; every call keeps to that (`FileStore.call_follows`), and none takes more than
five steps (`FileStore.call_within`).
-/

set_option autoImplicit false

namespace ClusterKeeper

local instance decidableEqExcept {ε α : Type} [DecidableEq ε] [DecidableEq α] :
    DecidableEq (Except ε α)
  | .ok x, .ok y => decidable_of_iff (x = y) (by simp)
  | .error e, .error d => decidable_of_iff (e = d) (by simp)
  | .ok _, .error _ => .isFalse nofun
  | .error _, .ok _ => .isFalse nofun

/-! ## 1. Calls as programs -/

inductive StoreReply
  | got (r : Except StoreError (Option HostRecord))
  | wrote (r : Except StoreError Unit)
  deriving DecidableEq

/-- The record that a call writes. -/
def StoreCall.record? : StoreCall → Option HostRecord
  | .get => none
  | .add r => some r
  | .update r => some r

namespace StoreCall

theorem record?_of_get {c : StoreCall} (h : c = .get) (r : HostRecord) : c.record? ≠ some r := by
  rw [h]
  exact nofun

theorem get_of_record? {c : StoreCall} (h : c.record? = none) : c = .get := by
  cases c with
  | get => rfl
  | _ => cases h

end StoreCall

theorem FileSystem.run_ask {α : Type} (fs : FileSystem) (op : FileStep)
    (next : op.Reply → FileProgram α) :
    fs.run (.ask op next) = (fs.step op).1.run (next (fs.step op).2) := rfl

namespace FileStore

def call (s : FileStore) : StoreCall → FileProgram StoreReply
  | .get => .got <$> s.get
  | .add r => .wrote <$> s.add r
  | .update r => .wrote <$> s.update r

/-- What a reader makes of what it has read. -/
def answer : Except FileError ByteArray → Except StoreError (Option HostRecord)
  | .ok bytes => some <$> recordOf bytes
  | .error .notFound => .ok none
  | .error e => .error (.file e)

theorem get_eq (s : FileStore) :
    s.get = .ask (.read s.path) fun reply => .done (answer reply) := by
  refine congrArg (Program.ask _) (funext fun reply => ?_)
  cases reply with
  | ok bytes => rfl
  | error e => cases e <;> rfl

theorem run_get (s : FileStore) (fs : FileSystem) :
    fs.run s.get = (fs, answer (fs.read s.path)) := by
  rw [get_eq]
  rfl

/-- Where a record can be read, its file is there. -/
theorem doesExist_of_read {s : FileStore} {fs : FileSystem} {r : HostRecord}
    (h : answer (fs.read s.path) = .ok (some r)) :
    fs.doesExist s.path = .ok true := by
  unfold FileSystem.read at h
  unfold FileSystem.doesExist
  cases hf : fs.find s.path with
  | ok e => rfl
  | error e =>
    rw [hf] at h
    cases e <;> cases h

section
variable {α β : Type}

/-- Goes on after a step that has not failed. -/
def onOk (next : α → FileProgram (Except StoreError β)) :
    Except FileError α → FileProgram (Except StoreError β)
  | .ok x => next x
  | .error e => .done (.error (.file e))

theorem run_attempt_bind (p : FileProgram (Except FileError α))
    (f : α → ExceptT StoreError FileProgram β) :
    (attempt p >>= f).run = p >>= onOk fun x => (f x).run := by
  rw [ExceptT.run_bind, attempt, ExceptT.run_mk, bind_assoc]
  refine congrArg (p >>= ·) (funext fun r => ?_)
  cases r <;> rfl

theorem run_attempt (p : FileProgram (Except FileError α)) :
    (attempt p).run = p >>= onOk fun x => .done (.ok x) := by
  rw [attempt, ExceptT.run_mk]
  refine congrArg (p >>= ·) (funext fun r => ?_)
  cases r <;> rfl

/-- An activity that has not failed has not failed at its first step. -/
theorem run_onOk {fs : FileSystem} {reply : Except FileError α}
    {next : α → FileProgram (Except StoreError β)} {y : β}
    (h : (fs.run (onOk next reply)).2 = .ok y) :
    ∃ x, reply = .ok x ∧ (fs.run (next x)).2 = .ok y := by
  cases reply with
  | error e => cases h
  | ok x => exact ⟨x, rfl, h⟩

end

theorem run_write (s : FileStore) (r : HostRecord) :
    (s.write r).run = .ask (.makeDirectories s.path.parent) (onOk fun _ =>
      .ask (.openEmpty s.temporary) (onOk fun id =>
        .ask (.write id r.renderFile.toUTF8) (onOk fun _ =>
          .ask (.rename s.temporary s.path) (onOk fun _ => .done (.ok ()))))) := by
  simp only [write, run_attempt_bind, run_attempt]
  rfl

theorem update_eq (s : FileStore) (r : HostRecord) :
    s.update r = .ask (.doesExist s.path) (onOk fun there =>
      if there then (s.write r).run else .done (.error .notFound)) := by
  rw [update, run_attempt_bind]
  refine congrArg (Program.ask _) (funext fun reply => ?_)
  cases reply with
  | error e => rfl
  | ok there => cases there <;> rfl

/-! ## 2. Phases of a call -/

/-- Where a call has come to. -/
inductive Phase
  | start
  /-- The directory has been made. -/
  | ready
  /-- The temporary file is open and has not been written. -/
  | opened (id : ContentId)
  | written (id : ContentId)
  | over (reply : StoreReply)

/-- From the opening of the temporary file to its renaming. -/
def Phase.Busy : Phase → Prop
  | opened _ => True
  | written _ => True
  | _ => False

/-- The phase that follows a step of a write; if the step failed, the call is over. -/
def onward {α : Type} (next : α → Phase) : Except FileError α → Phase
  | .ok x => next x
  | .error e => .over (.wrote (.error (.file e)))

theorem not_busy_onward (reply : Except FileError Bool) :
    ¬ (onward (fun there => if there then Phase.start else .over (.wrote (.error .notFound)))
      reply).Busy := by
  cases reply with
  | error e => exact id
  | ok there => cases there <;> exact id

/-- The steps of a call, in which phase they are taken and where they lead. -/
inductive Conduct (s : FileStore) (c : StoreCall) : Rule FileStep.Reply Phase
  | read (h : c = .get) (reply : Except FileError ByteArray) :
      Conduct s c .start (.read s.path) reply (.over (.got (answer reply)))
  | doesExist {r : HostRecord} (h : c = .update r) (reply : Except FileError Bool) :
      Conduct s c .start (.doesExist s.path) reply
        (onward (fun there => if there then .start else .over (.wrote (.error .notFound))) reply)
  | makeDirectories {r : HostRecord} (h : c.record? = some r) (reply : Except FileError Unit) :
      Conduct s c .start (.makeDirectories s.path.parent) reply (onward (fun _ => .ready) reply)
  | openEmpty (reply : Except FileError ContentId) :
      Conduct s c .ready (.openEmpty s.temporary) reply (onward .opened reply)
  | write {r : HostRecord} (h : c.record? = some r) (id : ContentId)
      (reply : Except FileError Unit) :
      Conduct s c (.opened id) (.write id r.renderFile.toUTF8) reply
        (onward (fun _ => .written id) reply)
  | rename (id : ContentId) (reply : Except FileError Unit) :
      Conduct s c (.written id) (.rename s.temporary s.path) reply
        (onward (fun _ => .over (.wrote (.ok ()))) reply)

/-- A call ends in the phase that has its reply. -/
def Ending (g : Phase) (x : StoreReply) : Prop := g = .over x

section
variable {s : FileStore} {c : StoreCall}

theorem onOk_follows {α : Type} {last : Phase → Except StoreError Unit → Prop} {next : α → Phase}
    {f : α → FileProgram (Except StoreError Unit)}
    (hend : ∀ e, last (.over (.wrote (.error e))) (.error e))
    (hf : ∀ x, (f x).Follows (Conduct s c) last (next x)) (reply : Except FileError α) :
    (onOk f reply).Follows (Conduct s c) last (onward next reply) := by
  cases reply with
  | ok x => exact hf x
  | error e => exact hend _

theorem write_follows {r : HostRecord} (hr : c.record? = some r) :
    (s.write r).run.Follows (Conduct s c) (fun g x => g = .over (.wrote x)) .start := by
  rw [run_write]
  refine fun made => ⟨_, .makeDirectories hr made, onOk_follows (fun _ => rfl) (fun _ => ?_) made⟩
  refine fun opened => ⟨_, .openEmpty opened, onOk_follows (fun _ => rfl) (fun id => ?_) opened⟩
  refine fun written => ⟨_, .write hr id written, onOk_follows (fun _ => rfl) (fun _ => ?_) written⟩
  refine fun renamed => ⟨_, .rename id renamed, onOk_follows (fun _ => rfl) (fun _ => ?_) renamed⟩
  exact rfl

theorem update_follows {r : HostRecord} :
    (s.update r).Follows (Conduct s (.update r)) (fun g x => g = .over (.wrote x)) .start := by
  rw [update_eq]
  refine fun found => ⟨_, .doesExist rfl found, onOk_follows (fun _ => rfl) (fun there => ?_) found⟩
  cases there with
  | true => exact write_follows rfl
  | false => rfl

/-- Every call keeps to its conduct. -/
theorem call_follows (s : FileStore) (c : StoreCall) :
    (s.call c).Follows (Conduct s c) Ending .start := by
  cases c with
  | get =>
    rw [call, get_eq]
    exact fun reply => ⟨_, .read rfl reply, rfl⟩
  | add r => exact (write_follows rfl).bind fun g x hg => hg
  | update r => exact update_follows.bind fun g x hg => hg

end

/-! ## 3. The number of steps -/

/-- The program takes at most so many steps. -/
def Within {α : Type} : Nat → FileProgram α → Prop
  | _, .done _ => True
  | 0, .ask _ _ => False
  | n + 1, .ask _ next => ∀ reply, Within n (next reply)

theorem Within.mono {α : Type} {m n : Nat} {p : FileProgram α} (hmn : m ≤ n) (h : Within m p) :
    Within n p := by
  induction p generalizing m n with
  | done x => cases n <;> trivial
  | ask op next ih =>
    cases m with
    | zero => exact absurd h id
    | succ m =>
      cases n with
      | zero => exact absurd hmn (Nat.not_succ_le_zero m)
      | succ n => exact fun reply => ih reply (Nat.le_of_succ_le_succ hmn) (h reply)

theorem Within.map {α β : Type} {n : Nat} {p : FileProgram α} (h : Within n p) (f : α → β) :
    Within n (f <$> p) := by
  induction p generalizing n with
  | done x => cases n <;> trivial
  | ask op next ih =>
    cases n with
    | zero => exact h
    | succ n => exact fun reply => ih reply (h reply)

theorem onOk_within {α β : Type} {n : Nat} {f : α → FileProgram (Except StoreError β)}
    (hf : ∀ x, Within n (f x)) (reply : Except FileError α) : Within n (onOk f reply) := by
  cases reply with
  | ok x => exact hf x
  | error e => cases n <;> trivial

theorem write_within (s : FileStore) (r : HostRecord) : Within 4 (s.write r).run := by
  rw [run_write]
  refine fun made => onOk_within (fun _ => ?_) made
  refine fun opened => onOk_within (fun id => ?_) opened
  refine fun written => onOk_within (fun _ => ?_) written
  refine fun renamed => onOk_within (fun _ => ?_) renamed
  trivial

/-- No call takes more than five steps, whatever it is answered. -/
theorem call_within (s : FileStore) (c : StoreCall) : Within 5 (s.call c) := by
  cases c with
  | get =>
    rw [call, get_eq]
    exact fun reply => trivial
  | add r => exact ((write_within s r).mono (Nat.le_succ 4)).map _
  | update r =>
    refine Within.map ?_ _
    rw [update_eq]
    refine fun found => onOk_within (fun there => ?_) found
    cases there with
    | true => exact write_within s r
    | false => trivial

end FileStore

end ClusterKeeper
