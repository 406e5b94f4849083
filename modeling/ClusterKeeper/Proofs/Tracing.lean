import ClusterKeeper.Handler.Membership
import ClusterKeeper.Proofs.Course

/-!
# `Proofs/Tracing.lean` — tracing changes the log and nothing else

A handler may be put in a span, and its requests to runner and store may be traced. Both rewrite the
program request by request, and both make of every request one that is answered alike and leaves the
cluster alike, but for the log (`Faithful`). So whatever is true of a handler and does not depend on
the log is true of the handler in a span and traced as well.
-/

set_option autoImplicit false

namespace ClusterKeeper

namespace Cluster

variable {α : Type} {a : Actor} {c d : Cluster}

/-! ## 1. Without the log -/

def unlogged (c : Cluster) : Cluster := { c with log := ∅ }

/-- An answer, or what a run comes to, without the log. -/
def quietly (x : Cluster × α) : Cluster × α := (x.1.unlogged, x.2)

theorem fst_of_quietly {x y : Cluster × α} (h : quietly x = quietly y) :
    x.1.unlogged = y.1.unlogged := by
  have hfst : (quietly x).1 = (quietly y).1 := congrArg Prod.fst h
  exact hfst

theorem snd_of_quietly {x y : Cluster × α} (h : quietly x = quietly y) : x.2 = y.2 := by
  have hsnd : (quietly x).2 = (quietly y).2 := congrArg Prod.snd h
  exact hsnd

theorem quietly_replied {x y : Cluster × α} (h : quietly x = quietly y) :
    quietly (replied x) = quietly (replied y) := by
  have hfst := fst_of_quietly h
  have hsnd := snd_of_quietly h
  exact Prod.ext hfst (congrArg some hsnd)

theorem quietly_faulty {ε : Type} {site : FaultSite} {key : String} {failure : String → ε}
    {ask ask' : Cluster × Except ε α} (h : quietly ask' = quietly ask) :
    quietly (c.unlogged.faulty site key failure ask') =
      quietly (c.faulty site key failure ask) := by
  have hfaults : c.unlogged.faults = c.faults := rfl
  rw [faulty, faulty, hfaults]
  cases c.faults.reason? site key with
  | some reason => rfl
  | none => exact h

/-- The log of a cluster matters neither to its answer nor to what becomes of the rest of it. -/
theorem answer_unlogged (c : Cluster) (a : Actor) (r : Request) :
    quietly (c.unlogged.answer a r) = quietly (c.answer a r) := by
  cases r with
  | runningCount =>
    have hnode : c.unlogged.node a.node = c.node a.node := rfl
    rw [answer, answer, askCount, askCount, hnode]
    dsimp only
    cases (c.node a.node).clock.advance? (c.node a.node).countDelay <;> rfl
  | startTask task => exact quietly_replied (quietly_faulty (quietly_faulty rfl))
  | members | ownerOf | publish | tasksOf | addTask | loadRecord | addRecord | updateRecord =>
    exact quietly_replied (quietly_faulty rfl)
  | _ => rfl

/-- Clusters alike but for their logs give the same answers, and stay alike. -/
theorem answer_congr (h : c.unlogged = d.unlogged) (a : Actor) (r : Request) :
    quietly (c.answer a r) = quietly (d.answer a r) := by
  rw [← answer_unlogged c, h, answer_unlogged]

/-! ## 2. Rewriting every request -/

/-- Every request becomes a program that is answered as the request is, but for the log. -/
def Faithful (f : (r : Request) → Handler r.Reply) : Prop :=
  ∀ a r c, quietly (run a (f r) c) = quietly (c.answer a r)

theorem run_interpret {f : (r : Request) → Handler r.Reply} (hf : Faithful f)
    (h : c.unlogged = d.unlogged) (p : Handler α) :
    quietly (run a (p.interpret f) c) = quietly (run a p d) := by
  induction p generalizing c d with
  | done x => exact Prod.ext h rfl
  | ask r next ih =>
    have hanswer := (hf a r c).trans (answer_congr h a r)
    rw [Program.interpret_ask]
    cases hc : run a (f r) c with
    | mk c' reply =>
      cases hd : d.answer a r with
      | mk d' reply' =>
        rw [hc, hd] at hanswer
        have hfst : c'.unlogged = d'.unlogged := fst_of_quietly hanswer
        obtain rfl : reply = reply' := snd_of_quietly hanswer
        cases reply with
        | none =>
          rw [run_bind_none hc, run_ask_none hd]
          exact Prod.ext hfst rfl
        | some reply =>
          rw [run_bind hc, run_ask_some hd]
          exact ih reply hfst

theorem faithful_request : Faithful Request.ask := by
  intro a r c
  cases hc : c.answer a r with
  | mk c' reply =>
    cases reply with
    | none => exact congrArg quietly (run_ask_none hc)
    | some reply => exact congrArg quietly (run_ask_some hc)

/-- Runs from clusters alike but for their logs. -/
theorem run_congr (h : c.unlogged = d.unlogged) (p : Handler α) :
    quietly (run a p c) = quietly (run a p d) := by
  have hrun := run_interpret (a := a) faithful_request h p
  rwa [show p.interpret Request.ask = p from p.interpret_request] at hrun

/-- What does not depend on the log. -/
def Unlogged (Q : Cluster → Option α → Prop) : Prop :=
  ∀ {c d : Cluster} {x : Option α}, c.unlogged = d.unlogged → Q c x → Q d x

theorem Ends.interpret {f : (r : Request) → Handler r.Reply} (hf : Faithful f) {p : Handler α}
    {Q : Cluster → Option α → Prop} (hQ : Unlogged Q) (h : Ends a p c Q) :
    Ends a (p.interpret f) c Q := by
  have hrun := run_interpret (a := a) hf (rfl : c.unlogged = c.unlogged) p
  rw [Ends, snd_of_quietly hrun]
  exact hQ (fst_of_quietly hrun).symm h

/-! ## 3. Spans and traces -/

/-- Log records before a program. -/
theorem quietly_log_bind {level : LogLevel} {message : String} {fields : LogFields}
    {f : Unit → Handler α} : quietly (run a (Handler.log level message fields >>= f) c) =
      quietly (run a (f ()) c) := by
  have hrun : run a (Handler.log level message fields >>= f) c =
      run a (f ()) (c.answer a (.log ⟨level, message, fields, []⟩)).1 := run_ask_some rfl
  have hlog : (c.answer a (.log ⟨level, message, fields, []⟩)).1.unlogged = c.unlogged := rfl
  rw [hrun]
  exact run_congr hlog (f ())

/-- A request and then nothing but log records. -/
theorem quietly_ask_bind {r : Request} {f : r.Reply → Handler r.Reply}
    (hf : ∀ reply d, quietly (run a (f reply) d) = quietly (d, some reply)) (c : Cluster) :
    quietly (run a (r.ask >>= f) c) = quietly (c.answer a r) := by
  cases hc : c.answer a r with
  | mk c' reply =>
    cases reply with
    | none =>
      have hrun : run a r.ask c = (c', none) := run_ask_none hc
      rw [run_bind_none hrun]
    | some reply =>
      have hrun : run a r.ask c = (c', some reply) := run_ask_some hc
      rw [run_bind hrun]
      exact hf reply c'

theorem quietly_ask (r : Request) (c : Cluster) :
    quietly (run a r.ask c) = quietly (c.answer a r) := by
  have hbind : (r.ask >>= fun reply => pure reply) = r.ask := bind_pure r.ask
  rw [← hbind]
  exact quietly_ask_bind (fun reply d => rfl) c

theorem faithful_span (span : LogSpan) : Faithful fun
    | .log r => (Request.log (r.within span)).ask
    | r => r.ask := by
  intro a r c
  cases r with
  | log x => rfl
  | _ => exact quietly_ask _ c

theorem quietly_inSpan (span : LogSpan) (body : Handler α) (c : Cluster) :
    quietly (run a (Handler.inSpan span body) c) = quietly (run a body c) :=
  run_interpret (faithful_span span) rfl body

theorem quietly_logOutcome {ε : Type} (message : ε → String) (well badly : String)
    (result : Except ε Unit) (d : Cluster) :
    quietly (run a (Handler.logOutcome message well badly result >>= fun _ => pure result) d) =
      quietly (d, some result) := by
  cases result <;> exact quietly_log_bind

theorem faithful_traced : Faithful Handler.tracedRequest := by
  intro a r c
  cases r with
  | runningCount => exact quietly_ask_bind (fun count d => quietly_log_bind) c
  | loadRecord => exact quietly_ask_bind (fun result d => quietly_log_bind) c
  | startTask task =>
    rw [Handler.tracedRequest, quietly_inSpan]
    exact quietly_log_bind.trans (quietly_ask_bind (quietly_logOutcome _ _ _) c)
  | addRecord x =>
    rw [Handler.tracedRequest, quietly_inSpan]
    exact quietly_ask_bind (quietly_logOutcome _ _ _) c
  | updateRecord x =>
    rw [Handler.tracedRequest, quietly_inSpan]
    exact quietly_ask_bind (quietly_logOutcome _ _ _) c
  | _ => exact quietly_ask _ c

/-- What is true of a handler and does not depend on the log is true of what a node does about an
event, with or without tracing. -/
theorem Ends.membershipEvent {tracing : Handler.Tracing} {here : NodeId} {settings : Settings}
    {e : MembershipEvent} {Q : Cluster → Option (Except HandlerError (List ClusterEvent)) → Prop}
    (hQ : Unlogged Q) (h : Ends a (Handler.dispatch here settings e).run c Q) :
    Ends a (Handler.membershipEvent tracing here settings e) c Q := by
  refine Ends.interpret (faithful_span _) hQ ?_
  cases tracing with
  | on => exact h.interpret faithful_traced hQ
  | off => exact h

end Cluster

end ClusterKeeper
