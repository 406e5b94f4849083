import ClusterKeeper.Proofs.Tracing

/-!
# `Proofs/Environment.lean` — activities in any surroundings

A cluster answers requests in one way. Other adapters may fail by turns, or be changed from outside
between two requests. An `Environment` is anything that answers: its states may be of any type, and
what a request is answered and what it does to the state may be anything. Only two things are asked
of it. Nothing depends on what is logged, and only a clock leaves a request without a reply.

A run in an environment is an `Episode`. Its exchanges are the calls of all adapters and the log
records in between, in order. Whatever holds of a handler for all replies (`Handler.Always`) holds
of its episodes in every environment. A cluster is one (`Cluster.environment`).
-/

set_option autoImplicit false

namespace ClusterKeeper

variable {α β σ : Type}

/-! ## 1. Whatever the replies -/

namespace Handler

/-- Wherever the handler ends, this holds of the exchanges it has had and of its result. -/
def Always : Handler α → (List Exchange → α → Prop) → Prop
  | .done x, Q => Q [] x
  | .ask r next, Q => ∀ reply, Always (next reply) fun es => Q (⟨r, reply⟩ :: es)

variable {p : Handler α} {Q Q' : List Exchange → α → Prop}

theorem Always.done {x : α} (h : Q [] x) : Always (pure x) Q := h

theorem Always.mono (h : Always p Q) (hQ : ∀ es x, Q es x → Q' es x) : Always p Q' := by
  induction p generalizing Q Q' with
  | done x => exact hQ _ _ h
  | ask r next ih => exact fun reply => ih reply (h reply) fun es x => hQ _ _

theorem Always.bind {f : α → Handler β} {R : List Exchange → β → Prop} (h : Always p Q)
    (hf : ∀ es x, Q es x → Always (f x) fun es' => R (es ++ es')) : Always (p >>= f) R := by
  induction p generalizing Q R with
  | done x => exact hf _ _ h
  | ask r next ih => exact fun reply => ih reply (h reply) fun es x => hf _ _

theorem Always.request {r : Request} {f : r.Reply → Handler β} {R : List Exchange → β → Prop}
    (h : ∀ reply, Always (f reply) fun es => R (⟨r, reply⟩ :: es)) : Always (r.ask >>= f) R := h

theorem Always.log {level : LogLevel} {message : String} {fields : LogFields}
    {f : Unit → Handler β} {R : List Exchange → β → Prop}
    (h : Always (f ()) fun es => R (⟨.log ⟨level, message, fields, []⟩, ()⟩ :: es)) :
    Always (Handler.log level message fields >>= f) R := fun _ => h

theorem Always.orFail {ε : Type} {cause : ε → HandlerError} {body : Handler (Except ε α)}
    {f : α → Attempt β} {R : List Exchange → Except HandlerError β → Prop}
    (h : Always body fun es reply => match reply with
      | .ok x => Always (f x).run fun es' => R (es ++ es')
      | .error e => R es (.error (cause e))) : Always (Handler.orFail cause body >>= f).run R := by
  rw [run_orFail_bind]
  refine h.bind fun es reply hreply => ?_
  cases reply with
  | ok x => exact hreply
  | error e => exact .done ((List.append_nil es).symm ▸ hreply)

theorem Always.holding {lock : LockName} {body : Handler α} {R : List Exchange → α → Prop}
    (h : Always body fun es x => R (⟨.acquire lock, ()⟩ :: es ++ [⟨.release lock, ()⟩]) x) :
    Always (Handler.holding lock body) R :=
  fun _ => h.bind fun _ _ hx _ => hx

theorem Always.and (h : Always p Q) (h' : Always p Q') : Always p fun es x => Q es x ∧ Q' es x := by
  induction p generalizing Q Q' with
  | done x => exact ⟨h, h'⟩
  | ask r next ih => exact fun reply => ih reply (h reply) (h' reply)

/-- What is true of all requests that a handler can come to is true of its exchanges. -/
theorem always_of_asks {allowed : Request → Prop} (h : p.Asks allowed) :
    Always p fun es _ => ∀ e ∈ es, allowed e.request := by
  induction p with
  | done x => exact fun e he => absurd he List.not_mem_nil
  | ask r next ih =>
    refine fun reply => (ih reply (h.2 reply)).mono fun es _ hes e he => ?_
    rcases List.mem_cons.1 he with rfl | he
    · exact h.1
    · exact hes e he

end Handler

/-! ## 2. Environments -/

/-- Anything that answers requests. -/
structure Environment (σ : Type) where
  answer : σ → (r : Request) → σ × Option r.Reply
  /-- Nothing depends on what is logged. -/
  log : ∀ s x, answer s (.log x) = (s, some ())
  /-- Only a clock leaves a request without a reply. -/
  clock : ∀ s r, (answer s r).2 = none → .clock ∈ r.parts

/-- A run: its exchanges, the state that it leaves, and its result unless a clock has stopped it. -/
structure Episode (σ α : Type) where
  exchanges : List Exchange
  left : σ
  result : Option α

/-- The episode that begins with an exchange. -/
def Episode.after (e : Exchange) (rest : Episode σ α) : Episode σ α :=
  { rest with exchanges := e :: rest.exchanges }

namespace Environment

variable (env : Environment σ)

def run : Handler α → σ → Episode σ α
  | .done x, s => ⟨[], s, some x⟩
  | .ask r next, s =>
    match env.answer s r with
    | (s, some reply) => (run (next reply) s).after ⟨r, reply⟩
    | (s, none) => ⟨[], s, none⟩

variable {env} {s s' : σ}

theorem run_ask_some {r : Request} {next : r.Reply → Handler α} {reply : r.Reply}
    (h : env.answer s r = (s', some reply)) :
    env.run (.ask r next) s = (env.run (next reply) s').after ⟨r, reply⟩ := by
  rw [run, h]

theorem run_ask_none {r : Request} {next : r.Reply → Handler α}
    (h : env.answer s r = (s', none)) : env.run (.ask r next) s = ⟨[], s', none⟩ := by
  rw [run, h]

theorem run_log {x : LogRecord} {next : Unit → Handler α} :
    env.run (.ask (.log x) next) s = (env.run (next ()) s).after ⟨.log x, ()⟩ :=
  run_ask_some (env.log s x)

/-- Where no request takes time, a run has a result. -/
theorem run_result (env : Environment σ) {p : Handler α} (hp : p.Asks fun r => .clock ∉ r.parts)
    (s : σ) : ∃ x, (env.run p s).result = some x := by
  induction p generalizing s with
  | done x => exact ⟨x, rfl⟩
  | ask r next ih =>
    cases hs : env.answer s r with
    | mk s' reply =>
      cases reply with
      | none =>
        have hreply : (env.answer s r).2 = none := congrArg Prod.snd hs
        exact absurd (env.clock s r hreply) hp.1
      | some reply =>
        rw [run_ask_some hs]
        exact ih reply (hp.2 reply) s'

/-- What holds whatever the replies holds of every run with a result. -/
theorem run_always {p : Handler α} {Q : List Exchange → α → Prop} (h : p.Always Q) {s : σ} {x : α}
    (hx : (env.run p s).result = some x) : Q (env.run p s).exchanges x := by
  induction p generalizing s Q with
  | done y =>
    cases hx
    exact h
  | ask r next ih =>
    cases hs : env.answer s r with
    | mk s' reply =>
      cases reply with
      | none =>
        rw [run_ask_none hs] at hx
        cases hx
      | some reply =>
        rw [run_ask_some hs] at hx ⊢
        exact ih reply (h reply) hx

end Environment

/-! ## 3. Clusters -/

namespace Exchange

/-- The log record that was made. -/
def logged? : Exchange → Option LogRecord
  | ⟨.log x, _⟩ => some x
  | _ => none

end Exchange

def loggedIn (es : List Exchange) : List LogRecord := es.filterMap Exchange.logged?

theorem Request.eq_log {r : Request} (h : .log ∈ r.parts) : ∃ x, r = .log x := by
  cases r with
  | log x => exact ⟨x, rfl⟩
  | _ => simp [Request.parts] at h

theorem Exchange.logged?_of_quiet {r : Request} {reply : r.Reply} (h : .log ∉ r.parts) :
    logged? ⟨r, reply⟩ = none := by
  cases r with
  | log x => exact absurd (.head _) h
  | _ => rfl

namespace Cluster

variable {a : Actor} {c d : Cluster}

/-- A cluster, to one of its nodes. Log records are left to the episode. -/
def environment (a : Actor) : Environment Cluster where
  answer c
    | .log _ => (c, some ())
    | r => c.answer a r
  log _ _ := rfl
  clock c r h := by
    cases r with
    | log x => cases h
    | _ => exact clock_of_none (Prod.ext rfl h)

theorem environment_answer (h : c.unlogged = d.unlogged) (r : Request) :
    quietly ((environment a).answer c r) = quietly (d.answer a r) := by
  cases r with
  | log x => exact Prod.ext h rfl
  | _ => exact answer_congr h a _

/-- A run of an activity that has the cluster to itself is an episode. -/
theorem run_environment (h : c.unlogged = d.unlogged) (p : Handler α) :
    ((environment a).run p c).exchanges = exchanges a p d ∧
      ((environment a).run p c).left.unlogged = (run a p d).1.unlogged ∧
      ((environment a).run p c).result = (run a p d).2 := by
  induction p generalizing c d with
  | done x => exact ⟨rfl, h, rfl⟩
  | ask r next ih =>
    have hanswer := environment_answer (a := a) h r
    cases hc : (environment a).answer c r with
    | mk c' reply =>
      cases hd : d.answer a r with
      | mk d' reply' =>
        rw [hc, hd] at hanswer
        have hleft : c'.unlogged = d'.unlogged := fst_of_quietly hanswer
        obtain rfl : reply = reply' := snd_of_quietly hanswer
        cases reply with
        | none =>
          rw [Environment.run_ask_none hc, run_ask_none hd, exchanges, hd]
          exact ⟨rfl, hleft, rfl⟩
        | some reply =>
          obtain ⟨hexchanges, hrest⟩ := ih reply hleft
          rw [Environment.run_ask_some hc, run_ask_some hd, exchanges_ask hd]
          exact ⟨congrArg _ hexchanges, hrest⟩

theorem answer_log {r : Request} (h : .log ∉ r.parts) : (c.answer a r).1.log = c.log :=
  answer_eq (·.log) (fun _ _ _ _ _ => rfl) (fun _ _ _ _ => rfl) (fun _ _ => rfl) (fun _ _ => rfl)
    (fun _ _ => rfl) fun h' => absurd h' h

theorem answered_log {r : Request} {c' : Cluster} {reply : r.Reply}
    (h : c.answer a r = (c', some reply)) :
    c'.log.toList = c.log.toList ++ (Exchange.logged? ⟨r, reply⟩).toList := by
  by_cases hr : .log ∈ r.parts
  · obtain ⟨x, rfl⟩ := Request.eq_log hr
    cases h
    exact History.toList_add _ _
  · have hlog := answer_log (c := c) (a := a) hr
    rw [h] at hlog
    rw [Exchange.logged?_of_quiet hr, Option.toList_none, List.append_nil, hlog]

/-- The log of a cluster is what was logged in the exchanges. -/
theorem log_exchanges (p : Handler α) (c : Cluster) :
    (run a p c).1.log.toList = c.log.toList ++ loggedIn (exchanges a p c) := by
  refine run_adds (fun c => c.log.toList) answered_log (fun {r c c'} hc => ?_) p c
  have hquiet : .log ∉ r.parts := fun hr => by
    obtain ⟨x, rfl⟩ := Request.eq_log hr
    cases hc
  have hlog := answer_log (c := c) (a := a) hquiet
  rw [hc] at hlog
  rw [hlog]

end Cluster

end ClusterKeeper
