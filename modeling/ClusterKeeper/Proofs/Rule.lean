import ClusterKeeper.Program

/-!
# `Proofs/Rule.lean` — programs that follow a rule

What can be said of an activity among others has to be said of it in the middle of its work, where
all that is left of it is the rest of a tree. A *rule* describes that without the tree: it has
situations of its own (nothing read yet, lock taken, task started, …) and says which request, with
which reply, leads from one to the next. `Program.Follows` says that a program keeps to a rule from
a situation on, whatever it is answered.

The programs are looked at once, to see which rule they follow. Everything after that is about the
rule: what one exchange does (`Follows.ask`), and from there what any interleaving does.
-/

set_option autoImplicit false

namespace ClusterKeeper

/-- A rule: the situations that an exchange in a situation may lead to. -/
abbrev Rule {Op : Type} (Reply : Op → Type) (Γ : Type) : Type :=
  Γ → (op : Op) → Reply op → Γ → Prop

namespace Program

variable {Op : Type} {Reply : Op → Type} {α β Γ Δ : Type}

/-- Every request that the program can come to is one of these. -/
def Asks (allowed : Op → Prop) : Program Reply α → Prop
  | done _ => True
  | ask op next => allowed op ∧ ∀ r, (next r).Asks allowed

/-- From the situation `g` on the program keeps to the rule, and it ends only where `ending` says. -/
def Follows (rule : Rule Reply Γ) (ending : Γ → α → Prop) : Γ → Program Reply α → Prop
  | g, done a => ending g a
  | g, ask op next => ∀ r, ∃ g', rule g op r g' ∧ (next r).Follows rule ending g'

/-! ## 1. Requests -/

theorem Asks.mono {allowed more : Op → Prop} (h : ∀ op, allowed op → more op)
    {p : Program Reply α} (hp : p.Asks allowed) : p.Asks more := by
  induction p with
  | done a => trivial
  | ask op next ih => exact ⟨h op hp.1, fun r => ih r (hp.2 r)⟩

theorem asks_any (p : Program Reply α) : p.Asks fun _ => True := by
  induction p with
  | done a => trivial
  | ask op next ih => exact ⟨trivial, ih⟩

theorem Asks.bind {allowed : Op → Prop} {p : Program Reply α} {f : α → Program Reply β}
    (hp : p.Asks allowed) (hf : ∀ a, (f a).Asks allowed) : (p >>= f).Asks allowed := by
  induction p with
  | done a => exact hf a
  | ask op next ih => exact ⟨hp.1, fun r => ih r (hp.2 r)⟩

theorem Asks.request {allowed : Op → Prop} {op : Op} {f : Reply op → Program Reply β}
    (h : allowed op) (hf : ∀ r, (f r).Asks allowed) : (Program.request op >>= f).Asks allowed :=
  ⟨h, hf⟩

/-- A program whose requests are all rewritten asks what they are rewritten to. -/
theorem Asks.interpret {allowed more : Op → Prop} {f : (op : Op) → Program Reply (Reply op)}
    (hf : ∀ op, allowed op → (f op).Asks more) {p : Program Reply α} (hp : p.Asks allowed) :
    (p.interpret f : Program Reply α).Asks more := by
  induction p with
  | done a => trivial
  | ask op next ih => exact (hf op hp.1).bind fun r => ih r (hp.2 r)

/-! ## 2. Rules -/

section
variable {rule : Rule Reply Γ} {ending : Γ → α → Prop}

/-- A request of a program that follows a rule, with any reply, is an exchange of the rule. -/
theorem Follows.ask {g : Γ} {op : Op} {next : Reply op → Program Reply α}
    (h : (Program.ask op next).Follows rule ending g) (r : Reply op) :
    ∃ g', rule g op r g' ∧ (next r).Follows rule ending g' := h r

theorem Follows.bind {middle : Γ → α → Prop} {last : Γ → β → Prop} {g : Γ}
    {p : Program Reply α} {f : α → Program Reply β} (hp : p.Follows rule middle g)
    (hf : ∀ g a, middle g a → (f a).Follows rule last g) : (p >>= f).Follows rule last g := by
  induction p generalizing g with
  | done a => exact hf g a hp
  | ask op next ih =>
    intro r
    obtain ⟨g', hg, hn⟩ := hp r
    exact ⟨g', hg, ih r hn⟩

theorem Follows.request {last : Γ → β → Prop} {g : Γ} {op : Op} {f : Reply op → Program Reply β}
    (h : ∀ r, ∃ g', rule g op r g' ∧ (f r).Follows rule last g') :
    (Program.request op >>= f).Follows rule last g := h

/-- A rule may be seen through another one that knows less. -/
theorem Follows.map {coarse : Rule Reply Δ} {last : Δ → α → Prop} (view : Γ → Δ)
    (hrule : ∀ {g op r g'}, rule g op r g' → coarse (view g) op r (view g'))
    (hend : ∀ {g a}, ending g a → last (view g) a) {g : Γ} {p : Program Reply α}
    (h : p.Follows rule ending g) : p.Follows coarse last (view g) := by
  induction p generalizing g with
  | done a => exact hend h
  | ask op next ih =>
    intro r
    obtain ⟨g', hg, hn⟩ := h r
    exact ⟨view g', hrule hg, ih r hn⟩

/-- A program keeps to a rule that has an exchange for whatever it may ask, in every situation that
such exchanges lead to. -/
theorem Asks.follows {allowed : Op → Prop} {P : Γ → Prop}
    (hrule : ∀ {g op} (r : Reply op), P g → allowed op → ∃ g', rule g op r g' ∧ P g')
    {p : Program Reply α} (hp : p.Asks allowed) {g : Γ} (hg : P g) :
    p.Follows rule (fun g _ => P g) g := by
  induction p generalizing g with
  | done a => exact hg
  | ask op next ih =>
    intro r
    obtain ⟨g', hr, hg'⟩ := hrule r hg hp.1
    exact ⟨g', hr, ih r (hp.2 r) hg'⟩

/-- A program that follows a rule makes only the requests of the rule. -/
theorem Follows.asks {allowed : Op → Prop} (hreply : ∀ op, Nonempty (Reply op))
    (hrule : ∀ {g op r g'}, rule g op r g' → allowed op) {g : Γ} {p : Program Reply α}
    (h : p.Follows rule ending g) : p.Asks allowed := by
  induction p generalizing g with
  | done a => trivial
  | ask op next ih =>
    constructor
    · obtain ⟨r⟩ := hreply op
      obtain ⟨g', hg, -⟩ := h r
      exact hrule hg
    · intro r
      obtain ⟨g', -, hn⟩ := h r
      exact ih r hn

end

end Program

end ClusterKeeper
