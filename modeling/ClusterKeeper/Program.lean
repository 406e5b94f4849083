/-!
# `Program.lean` — activities as trees of requests

A program either is done or asks its surroundings for something and goes on with the reply. It
says nothing about how requests are answered, so one and the same program can be run to its end
against a state (`Program.interpret`), rewritten request by request into another program
(`interpret` again, with programs as the monad), or advanced one request at a time among others:
an interleaving of several programs is a list of choices which of them is to go on.

The replies to a request have the type that `Reply` assigns to it. Every subtree is smaller than
the tree, whatever the reply, so all programs end and everything here recurses on the tree.
-/

set_option autoImplicit false

namespace ClusterKeeper

/-- An activity that asks for requests of `Op` and ends with an `α`. -/
inductive Program {Op : Type} (Reply : Op → Type) (α : Type) : Type
  | done (a : α)
  | ask (op : Op) (next : Reply op → Program Reply α)

namespace Program

variable {Op : Type} {Reply : Op → Type} {α β γ : Type}

/-- Goes on with `f` where `p` is done. -/
def bind : Program Reply α → (α → Program Reply β) → Program Reply β
  | done a, f => f a
  | ask op next, f => ask op fun r => (next r).bind f

instance : Monad (Program Reply) where
  pure := done
  bind := bind

/-- The program that makes one request and ends with the reply. -/
def request (op : Op) : Program Reply (Reply op) := ask op done

@[simp] theorem pure_def (a : α) : (pure a : Program Reply α) = done a := rfl

@[simp] theorem done_bind (a : α) (f : α → Program Reply β) : (done a >>= f) = f a := rfl

@[simp] theorem ask_bind (op : Op) (next : Reply op → Program Reply α) (f : α → Program Reply β) :
    (ask op next >>= f) = ask op (fun r => next r >>= f) := rfl

@[simp] theorem request_bind (op : Op) (f : Reply op → Program Reply β) :
    (request op >>= f) = ask op f := rfl

theorem bind_done (p : Program Reply α) : (p >>= done) = p := by
  induction p with
  | done a => rfl
  | ask op next ih =>
    rw [ask_bind]
    exact congrArg (ask op) (funext ih)

theorem bind_assoc (p : Program Reply α) (f : α → Program Reply β) (g : β → Program Reply γ) :
    (p >>= f >>= g) = (p >>= fun a => f a >>= g) := by
  induction p with
  | done a => rfl
  | ask op next ih =>
    simp only [ask_bind]
    exact congrArg (ask op) (funext ih)

instance : LawfulMonad (Program Reply) :=
  .mk' _ bind_done (fun _ _ => rfl) bind_assoc

/-- Answers every request with `f`. -/
def interpret {m : Type → Type} [Monad m] (f : (op : Op) → m (Reply op)) :
    Program Reply α → m α
  | done a => pure a
  | ask op next => do
    let r ← f op
    (next r).interpret f

@[simp] theorem interpret_done {m : Type → Type} [Monad m] (f : (op : Op) → m (Reply op)) (a : α) :
    (done a : Program Reply α).interpret f = pure a := rfl

@[simp] theorem interpret_ask {m : Type → Type} [Monad m] (f : (op : Op) → m (Reply op)) (op : Op)
    (next : Reply op → Program Reply α) :
    (ask op next).interpret f = f op >>= fun r => (next r).interpret f := rfl

/-- Interpreting goes through sequences. -/
theorem interpret_bind {m : Type → Type} [Monad m] [LawfulMonad m]
    (f : (op : Op) → m (Reply op)) (p : Program Reply α) (g : α → Program Reply β) :
    (p >>= g).interpret f = p.interpret f >>= fun a => (g a).interpret f := by
  induction p with
  | done a => simp
  | ask op next ih => simp [ih]

/-- Rewriting a program twice rewrites each request twice. -/
theorem interpret_interpret {m : Type → Type} [Monad m] [LawfulMonad m]
    (f : (op : Op) → Program Reply (Reply op)) (g : (op : Op) → m (Reply op))
    (p : Program Reply α) :
    (p.interpret f : Program Reply α).interpret g = p.interpret fun op => (f op).interpret g := by
  induction p with
  | done a => rfl
  | ask op next ih =>
    rw [interpret_ask, interpret_bind, interpret_ask]
    exact congrArg _ (funext ih)

/-- A program whose requests are answered by themselves is unchanged. -/
theorem interpret_request (p : Program Reply α) : p.interpret request = p := by
  induction p with
  | done a => rfl
  | ask op next ih =>
    rw [interpret_ask, request_bind]
    exact congrArg (ask op) (funext ih)

end Program

end ClusterKeeper
