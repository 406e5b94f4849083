import ClusterKeeper.Proofs.Environment
import ClusterKeeper.Proofs.Messages

/-!
# `Proofs/Transparency.lean` — traces taken away again

Tracing puts log records around the requests to runner and store. Taken away again, they leave
nothing behind: the handler that remains is the one that was traced, as a tree, with every request
in its place (`Handler.untraced_traced`). So in any environment the two have the same run, request
by request, but for these records; and where one event is handled after another, the next one finds
the same state (`Environment.handle_traced`).

What a trace logs is known by its message. None of the handlers logs one of these.
-/

set_option autoImplicit false

namespace ClusterKeeper

variable {α σ : Type}

/-! ## 1. Records of traces -/

def traceMessages : List String :=
  ["running tasks", "triggering", "triggered", "trigger failed", "loaded cluster config",
    "cluster config saved", "save failed", "cluster config updated", "update failed"]

namespace LogRecord

def isTrace (x : LogRecord) : Bool := x.message ∈ traceMessages

@[simp] theorem isTrace_within (span : LogSpan) (x : LogRecord) :
    (x.within span).isTrace = x.isTrace := rfl

/-- No message is both a trace's and a handler's. -/
theorem isTrace_of_engine {x : LogRecord} (h : x.kind ∈ Handler.engineKinds) :
    x.isTrace = false := by
  have hnone : ∀ k ∈ Handler.engineKinds, k.2 ∉ traceMessages := by decide
  exact decide_eq_false (hnone _ h)

end LogRecord

/-! ## 2. Handlers -/

namespace Handler

/-- A request, unless it is for the record of a trace. -/
def untracedRequest : (r : Request) → Handler r.Reply
  | .log x => if x.isTrace then .done () else (Request.log x).ask
  | r => r.ask

/-- The handler without the records of traces. -/
def untraced (body : Handler α) : Handler α := body.interpret untracedRequest

theorem untraced_inSpan (span : LogSpan) (body : Handler α) :
    untraced (inSpan span body) = inSpan span (untraced body) := by
  rw [untraced, inSpan, Program.interpret_interpret, untraced, inSpan, Program.interpret_interpret]
  refine congrArg (body.interpret ·) (funext fun r => ?_)
  cases r with
  | log x =>
    show untracedRequest (.log (x.within span)) >>= Program.done = _
    rw [Program.bind_done, untracedRequest, untracedRequest, LogRecord.isTrace_within]
    cases x.isTrace <;> rfl
  | _ => rfl

theorem untraced_logOutcome {ε : Type} (message : ε → String) {well badly : String}
    (hwell : well ∈ traceMessages) (hbadly : badly ∈ traceMessages) (result : Except ε Unit) :
    untraced (logOutcome message well badly result >>= fun _ => pure result) = .done result := by
  cases result with
  | ok _ =>
    show (if decide (well ∈ traceMessages) then _ else _ : Handler Unit) >>= _ = _
    rw [decide_eq_true hwell]
    rfl
  | error e =>
    show (if decide (badly ∈ traceMessages) then _ else _ : Handler Unit) >>= _ = _
    rw [decide_eq_true hbadly]
    rfl

/-- A request of which only the outcome is logged. -/
theorem untraced_ask {r : Request} {f : r.Reply → Handler r.Reply} (hr : untracedRequest r = r.ask)
    (hf : ∀ reply, untraced (f reply) = .done reply) : untraced (r.ask >>= f) = r.ask := by
  show untracedRequest r >>= (fun reply => untraced (f reply)) = r.ask
  rw [hr, funext hf]
  exact Program.bind_done _

theorem untraced_tracedRequest {r : Request} (h : Says engineKinds r) :
    untraced (tracedRequest r) = r.ask := by
  cases r with
  | log x =>
    show (if x.isTrace then _ else _ : Handler Unit) >>= _ = _
    rw [LogRecord.isTrace_of_engine h]
    rfl
  | runningCount => rfl
  | loadRecord => rfl
  | startTask task =>
    rw [tracedRequest, untraced_inSpan]
    refine congrArg _ (untraced_ask rfl fun result => ?_)
    exact untraced_logOutcome _ (by decide) (by decide) result
  | addRecord x =>
    rw [tracedRequest, untraced_inSpan]
    refine congrArg _ (untraced_ask rfl fun result => ?_)
    exact untraced_logOutcome _ (by decide) (by decide) result
  | updateRecord x =>
    rw [tracedRequest, untraced_inSpan]
    refine congrArg _ (untraced_ask rfl fun result => ?_)
    exact untraced_logOutcome _ (by decide) (by decide) result
  | _ => rfl

theorem untraced_traced {p : Handler α} (h : p.Asks (Says engineKinds)) :
    untraced (traced p) = p := by
  rw [untraced, traced, Program.interpret_interpret]
  induction p with
  | done x => rfl
  | ask r next ih =>
    rw [Program.interpret_ask, show (tracedRequest r).interpret untracedRequest = r.ask from
      untraced_tracedRequest h.1]
    exact congrArg (Program.ask r) (funext fun reply => ih reply (h.2 reply))

/-- What is left of a traced event is the event without tracing. -/
theorem untraced_membershipEvent (here : NodeId) (settings : Settings) (e : MembershipEvent) :
    untraced (membershipEvent .on here settings e) = membershipEvent .off here settings e := by
  rw [membershipEvent, untraced_inSpan]
  exact congrArg _ (untraced_traced (dispatch_kinds here settings e))

end Handler

/-! ## 3. Episodes -/

namespace Exchange

def isTrace : Exchange → Bool
  | ⟨.log x, _⟩ => x.isTrace
  | _ => false

end Exchange

/-- The episode without the records of traces. -/
def Episode.untraced (e : Episode σ α) : Episode σ α :=
  { e with exchanges := e.exchanges.filter fun x => !x.isTrace }

theorem Episode.untraced_after (x : Exchange) (rest : Episode σ α) :
    (rest.after x).untraced = if x.isTrace then rest.untraced else rest.untraced.after x := by
  rw [untraced, after, untraced, after, List.filter_cons]
  cases x.isTrace <;> rfl

namespace Environment

/-- A handler and an episode lose the same records. -/
theorem run_untraced (env : Environment σ) (p : Handler α) (s : σ) :
    env.run (Handler.untraced p) s = (env.run p s).untraced := by
  induction p generalizing s with
  | done x => rfl
  | ask r next ih =>
    -- Only a request to log can be lost. Any other one is answered as it was, and kept.
    by_cases hlog : ∃ x, r = .log x
    · obtain ⟨x, rfl⟩ := hlog
      have hnext := ih () s
      rw [run_log, Episode.untraced_after, ← hnext, Exchange.isTrace]
      show env.run ((if x.isTrace then .done () else (Request.log x).ask) >>= _) s = _
      cases x.isTrace with
      | true => rfl
      | false => exact run_log
    · have hreq : Handler.untracedRequest r = r.ask := by
        cases r with
        | log x => exact absurd ⟨x, rfl⟩ hlog
        | _ => rfl
      have hkept : ∀ reply, Exchange.isTrace ⟨r, reply⟩ = false := by
        cases r with
        | log x => exact absurd ⟨x, rfl⟩ hlog
        | _ => exact fun _ => rfl
      have huntraced : Handler.untraced (.ask r next) =
          .ask r fun reply => Handler.untraced (next reply) := by
        rw [Handler.untraced, Program.interpret_ask, hreq]
        rfl
      rw [huntraced]
      cases hs : env.answer s r with
      | mk s' reply =>
        cases reply with
        | none =>
          rw [run_ask_none hs, run_ask_none hs]
          rfl
        | some reply =>
          rw [run_ask_some hs, run_ask_some hs, Episode.untraced_after, hkept, ih]
          rfl

/-- Events handled one after another, each from the state that the one before has left. -/
def handle (env : Environment σ) (tracing : Handler.Tracing) (here : NodeId) (settings : Settings) :
    List MembershipEvent → σ → List (Episode σ (Except HandlerError (List ClusterEvent)))
  | [], _ => []
  | e :: events, s =>
    let episode := env.run (Handler.membershipEvent tracing here settings e) s
    episode :: handle env tracing here settings events episode.left

/-- For every event the adapters are asked for the same, with the same replies, and between these
the same is logged but for the traces; the result is the same, and the state that is left. -/
theorem handle_traced (env : Environment σ) (here : NodeId) (settings : Settings)
    (events : List MembershipEvent) (s : σ) :
    (env.handle .on here settings events s).map Episode.untraced =
      env.handle .off here settings events s := by
  induction events generalizing s with
  | nil => rfl
  | cons e events ih =>
    have hepisode := run_untraced env (Handler.membershipEvent .on here settings e) s
    rw [Handler.untraced_membershipEvent] at hepisode
    have hleft : (env.run (Handler.membershipEvent .on here settings e) s).left =
        (env.run (Handler.membershipEvent .off here settings e) s).left := by
      rw [hepisode]
      rfl
    rw [handle, handle, List.map_cons, ih, ← hepisode, hleft]

end Environment

namespace Cluster

/-- In a cluster, too, an event is handled by the same exchanges but for the traces. -/
theorem exchanges_traced (a : Actor) (settings : Settings) (e : MembershipEvent) (c : Cluster) :
    (exchanges a (Handler.membershipEvent .on a.node settings e) c).filter (fun x => !x.isTrace) =
      exchanges a (Handler.membershipEvent .off a.node settings e) c := by
  have hepisode := (environment a).run_untraced (Handler.membershipEvent .on a.node settings e) c
  rw [Handler.untraced_membershipEvent] at hepisode
  have hexchanges := congrArg Episode.exchanges hepisode
  have hsame : ∀ tracing, ((environment a).run
      (Handler.membershipEvent tracing a.node settings e) c).exchanges =
        exchanges a (Handler.membershipEvent tracing a.node settings e) c :=
    fun tracing => (run_environment rfl _).1
  rw [hsame] at hexchanges
  rw [hexchanges, ← hsame]
  rfl

end Cluster

end ClusterKeeper
