import ClusterKeeper.Proofs.Store.Calls
import Mathlib.Data.Fintype.Basic
import Mathlib.Logic.Function.Basic

/-!
# `Proofs/Store/Sharing.lean` — several users of one file

The users of a store take turns on one file system. Each of them wants one call done, and each turn
is a single step of one call: a `FileTeam` is the file system with what every user has left to do,
and a list of turns is one way to interleave them (`FileTeam.run`). All are through after five turns
of each (`FileTeam.finished_of_turns`).

A writer is *at work* from its opening of the temporary file to its renaming (`FileTeam.AtWork`),
and the file has one name for all writers. Whether one of them has opened it while another one was
at work can be read off the steps that have been taken (`FileTeam.Overlapping`).

What every step of the conduct of a call keeps, any run keeps (`FileTeam.Following.run`).
-/

set_option autoImplicit false

namespace ClusterKeeper

open FileStore

/-! ## 1. Users and turns -/

/-- A file system, and what its users have left to do. -/
structure FileTeam (ι : Type) where
  files : FileSystem
  rest : ι → FileProgram StoreReply
  /-- The steps so far, the latest first. -/
  trace : List (ι × FileStep)

namespace FileTeam

variable {ι : Type}

def start (s : FileStore) (fs : FileSystem) (call : ι → StoreCall) : FileTeam ι :=
  ⟨fs, fun i => s.call (call i), []⟩

/-- The reply to the user's call, if it is over. -/
def reply? (t : FileTeam ι) (i : ι) : Option StoreReply :=
  match t.rest i with
  | .done x => some x
  | .ask _ _ => none

def Finished (t : FileTeam ι) : Prop := ∀ i, (t.reply? i).isSome

instance [Fintype ι] (t : FileTeam ι) : Decidable t.Finished :=
  inferInstanceAs (Decidable (∀ i, (t.reply? i).isSome))

theorem reply?_of_done {t : FileTeam ι} {i : ι} {x : StoreReply} (h : t.rest i = .done x) :
    t.reply? i = some x := by
  rw [reply?, h]

/-- The user has opened the temporary file and has not come to its renaming. -/
def AtWork : List (ι × FileStep) → ι → Prop
  | [], _ => False
  | (i, .openEmpty _) :: steps, j => i = j ∨ AtWork steps j
  | (i, .rename _ _) :: steps, j => i ≠ j ∧ AtWork steps j
  | _ :: steps, j => AtWork steps j

/-- A user has opened the temporary file while another one was at work. -/
def Overlapping : List (ι × FileStep) → Prop
  | [] => False
  | (i, .openEmpty _) :: steps => Overlapping steps ∨ ∃ j, j ≠ i ∧ AtWork steps j
  | _ :: steps => Overlapping steps

instance decidableAtWork [DecidableEq ι] :
    ∀ (trace : List (ι × FileStep)) (j : ι), Decidable (AtWork trace j)
  | [], _ => .isFalse id
  | (i, .openEmpty _) :: steps, j =>
    have := decidableAtWork steps j
    inferInstanceAs (Decidable (i = j ∨ AtWork steps j))
  | (i, .rename _ _) :: steps, j =>
    have := decidableAtWork steps j
    inferInstanceAs (Decidable (i ≠ j ∧ AtWork steps j))
  | (_, .doesExist _) :: steps, j => decidableAtWork steps j
  | (_, .makeDirectories _) :: steps, j => decidableAtWork steps j
  | (_, .write _ _) :: steps, j => decidableAtWork steps j
  | (_, .read _) :: steps, j => decidableAtWork steps j

instance decidableOverlapping [DecidableEq ι] [Fintype ι] :
    ∀ trace : List (ι × FileStep), Decidable (Overlapping trace)
  | [] => .isFalse id
  | (i, .openEmpty _) :: steps =>
    have := decidableOverlapping steps
    inferInstanceAs (Decidable (Overlapping steps ∨ ∃ j, j ≠ i ∧ AtWork steps j))
  | (_, .doesExist _) :: steps => decidableOverlapping steps
  | (_, .makeDirectories _) :: steps => decidableOverlapping steps
  | (_, .write _ _) :: steps => decidableOverlapping steps
  | (_, .rename _ _) :: steps => decidableOverlapping steps
  | (_, .read _) :: steps => decidableOverlapping steps

theorem overlapping_cons {i : ι} {op : FileStep} {trace : List (ι × FileStep)} :
    Overlapping ((i, op) :: trace) ↔
      Overlapping trace ∨ (∃ p, op = .openEmpty p) ∧ ∃ j, j ≠ i ∧ AtWork trace j := by
  cases op <;> simp [Overlapping]

/-- The record is one that a user writes. -/
def Written (call : ι → StoreCall) (r : Option HostRecord) : Prop :=
  ∃ i r', (call i).record? = some r' ∧ r = some r'

/-- Every reader has got the record of before or one that is written, every write is done, and if
there is one then one of them is what is left. -/
structure Intact (s : FileStore) (call : ι → StoreCall) (record : Option HostRecord)
    (t : FileTeam ι) : Prop where
  gets : ∀ i, call i = .get →
    ∃ r, t.reply? i = some (.got (.ok r)) ∧ (r = record ∨ Written call r)
  writes : ∀ i r, (call i).record? = some r → t.reply? i = some (.wrote (.ok ()))
  left : ∀ i r, (call i).record? = some r →
    ∃ r', (t.files.run s.get).2 = .ok r' ∧ Written call r'

section
variable [DecidableEq ι]

/-- A user's turn: its next step. -/
def advance (t : FileTeam ι) (i : ι) : FileTeam ι :=
  match t.rest i with
  | .done _ => t
  | .ask op next =>
    ⟨(t.files.step op).1, Function.update t.rest i (next (t.files.step op).2), (i, op) :: t.trace⟩

def run (t : FileTeam ι) (turns : List ι) : FileTeam ι := turns.foldl advance t

/-- Everybody is through who has had as many turns as there are steps left. -/
theorem finished_of_turns {t : FileTeam ι} {turns : List ι}
    (h : ∀ i, Within (turns.count i) (t.rest i)) : (t.run turns).Finished := by
  induction turns generalizing t with
  | nil =>
    intro i
    have hi := h i
    cases hr : t.rest i with
    | done x =>
      show (t.reply? i).isSome
      rw [reply?_of_done hr]
      rfl
    | ask op next =>
      rw [hr] at hi
      exact absurd hi id
  | cons i turns ih =>
    refine ih fun j => ?_
    have hj := h j
    unfold advance
    cases hr : t.rest i with
    | done x =>
      by_cases hji : j = i
      · subst hji
        rw [hr]
        cases turns.count j <;> trivial
      · rwa [List.count_cons_of_ne (Ne.symm hji)] at hj
    | ask op next =>
      by_cases hji : j = i
      · subst hji
        rw [hr, List.count_cons_self] at hj
        simpa using hj (t.files.step op).2
      · rw [List.count_cons_of_ne (Ne.symm hji)] at hj
        simpa [hji] using hj

/-- Five turns of each are enough. -/
theorem finished_start (s : FileStore) (fs : FileSystem) (call : ι → StoreCall) {turns : List ι}
    (h : ∀ i, 5 ≤ turns.count i) : ((start s fs call).run turns).Finished :=
  finished_of_turns fun i => (call_within s (call i)).mono (h i)

end

/-! ## 2. Users keep to their conduct -/

section
variable {s : FileStore} {call : ι → StoreCall} {t : FileTeam ι} {g : ι → Phase}

/-- What every user has left to do is the rest of its call from its phase on. -/
def Following (s : FileStore) (call : ι → StoreCall) (t : FileTeam ι) (g : ι → Phase) : Prop :=
  ∀ i, (t.rest i).Follows (Conduct s (call i)) Ending (g i)

theorem following_start (s : FileStore) (fs : FileSystem) (call : ι → StoreCall) :
    Following s call (start s fs call) fun _ => .start := fun i => call_follows s (call i)

/-- Who is done is over, with the same reply. -/
theorem Following.over (h : Following s call t g) {i : ι} {x : StoreReply}
    (hx : t.reply? i = some x) : g i = .over x := by
  have hi := h i
  unfold reply? at hx
  split at hx
  · next y hy =>
    cases hx
    rw [hy] at hi
    exact hi
  · cases hx

/-- What every step of the conduct keeps holds, in some phases, after any turns. -/
theorem Following.run [DecidableEq ι]
    {P : FileSystem → List (ι × FileStep) → (ι → Phase) → Prop}
    (hstep : ∀ {fs trace g i op reply fs' g'}, P fs trace g →
      Conduct s (call i) (g i) op reply g' → fs.step op = (fs', reply) →
      P fs' ((i, op) :: trace) (Function.update g i g'))
    (h : Following s call t g) (hp : P t.files t.trace g) (turns : List ι) :
    ∃ g', Following s call (t.run turns) g' ∧ P (t.run turns).files (t.run turns).trace g' := by
  induction turns generalizing t g with
  | nil => exact ⟨g, h, hp⟩
  | cons i turns ih =>
    have hone : ∃ g', Following s call (t.advance i) g' ∧
        P (t.advance i).files (t.advance i).trace g' := by
      unfold advance
      cases hr : t.rest i with
      | done x => exact ⟨g, h, hp⟩
      | ask op next =>
        have hi := h i
        rw [hr] at hi
        obtain ⟨g', hc, hn⟩ := hi.ask (t.files.step op).2
        refine ⟨Function.update g i g', fun j => ?_, hstep hp hc rfl⟩
        by_cases hj : j = i
        · subst hj
          simpa using hn
        · simpa [hj] using h j
    obtain ⟨g', hf, hp'⟩ := hone
    exact ih hf hp'

end

end FileTeam

end ClusterKeeper
