import ClusterKeeper.Proofs.Status.Adoption
import ClusterKeeper.Proofs.Status.Handling
import ClusterKeeper.Proofs.Tracing

/-!
# `Proofs/Status/Echo.lean` — a node hears of its own publication

A substrate tells every node of an attribute that has changed, the node that published it too. By
then the node has the status that it hears of and publishes it already (`Settled`), so there is
nothing to take on: no event is told, neither runner nor clock is asked, and every attribute stays
what it was. But the status is written all the same, and published once more (`Echoed`). Those who
watch the status are told of a change that was none, and a substrate that echoes whatever is
published has one more publication to echo.

Nothing ends that. As long as all that is left to echo is the status that the node has, each echo
takes one publication off and puts one on (`Echoing.resounded`, `Echoing.goes_on`).
-/

set_option autoImplicit false

namespace ClusterKeeper

namespace Substrate

/-- What a node has asked the substrate to publish, in order. -/
def publications (s : Substrate) (id : NodeId) : List (String × String) :=
  s.calls.toList.filterMap fun
    | .publish asker key value => if asker = id then some (key, value) else none
    | _ => none

/-- Publishing what is published is noted, and makes no other difference. -/
theorem publish_again {s : Substrate} {id : NodeId} {key value : String}
    (hpublished : s.attribute? id key = some value) (hup : s.offline = false) :
    s.publish id key value = (s.noting (.publish id key value), .ok ()) := by
  have hattributes : (s.setAttribute id key value).attributes = s.attributes := by
    apply OrderedMap.ext_get?
    intro x
    rw [setAttribute, OrderedMap.get?_put]
    split
    · next hx =>
      subst hx
      unfold attribute? at hpublished
      cases hown : s.attributes.get? x with
      | none =>
        rw [hown] at hpublished
        cases hpublished
      | some own =>
        rw [hown] at hpublished
        -- The node's own attributes hold this value already.
        have hown' : own.put key value = own := by
          apply OrderedMap.ext_get?
          intro k
          rw [OrderedMap.get?_put]
          split
          · next hk => rw [hk]; exact hpublished.symm
          · rfl
        rw [Option.getD_some, hown']
    · rfl
  have hsame : (s.noting (.publish id key value)).setAttribute id key value =
      s.noting (.publish id key value) := by
    have hnoted : (s.noting (.publish id key value)).setAttribute id key value =
        { s.noting (.publish id key value) with
          attributes := (s.setAttribute id key value).attributes } := rfl
    rw [hnoted, hattributes]
    rfl
  have hoffline : (s.noting (.publish id key value)).offline = false := hup
  rw [publish, if_neg (by rw [hoffline]; exact Bool.false_ne_true), hsame]

theorem publications_publish (s : Substrate) (id : NodeId) (key value : String) :
    (s.noting (.publish id key value)).publications id = s.publications id ++ [(key, value)] := by
  rw [publications, noting, History.toList_add, List.filterMap_append, publications]
  simp

end Substrate

namespace StatusCell

/-- A write is a change to whoever has seen every write before it, whatever was written. -/
theorem hasChanged_set {cell : StatusCell} {w : StatusWatcher} (h : cell.hasChanged w = false)
    (s : Status) : (cell.set s).hasChanged w = true := by
  rw [hasChanged, bne_eq_false_iff_eq] at h
  rw [hasChanged, set, bne_iff_ne, ← h]
  exact Nat.succ_ne_self _

end StatusCell

namespace Cluster

variable {a : Actor} {key : String} {s : Status} {c c' c'' : Cluster}

/-! ## 1. One echo -/

/-- The node publishes the status that it has, and could publish it again. -/
structure Settled (a : Actor) (key : String) (s : Status) (c : Cluster) : Prop where
  status : c.statusOf a.node = s
  published : c.substrate.attribute? a.node key = some s.text
  working : c.canPublish s.text = true

/-- Nobody could tell of a node that something has happened to it: neither those who watch its
status, nor its runner or its clock, nor the substrate. -/
structure Unobserved (id : NodeId) (c c' : Cluster) : Prop where
  status : c'.statusOf id = c.statusOf id
  watchers : ∀ w, (c'.node id).status.hasChanged w = (c.node id).status.hasChanged w
  queries : c'.countQueries id = c.countQueries id
  clock : (c'.node id).clock = (c.node id).clock
  publications : c'.substrate.publications id = c.substrate.publications id

/-- What an echo changes: the status is written again, and published again. -/
structure Echoed (a : Actor) (key : String) (s : Status) (c c' : Cluster) : Prop where
  faults : c'.faults = c.faults
  substrate : c'.substrate = c.substrate.noting (.publish a.node key s.text)
  index : c'.index = c.index
  store : c'.store = c.store
  node : c'.node a.node = { c.node a.node with status := (c.node a.node).status.set s }
  others : ∀ id, id ≠ a.node → c'.node id = c.node id

theorem Echoed.settled (h : Echoed a key s c c') (hc : Settled a key s c) : Settled a key s c' where
  status := by
    rw [statusOf, h.node]
    rfl
  published := by
    rw [h.substrate]
    exact hc.published
  working := by
    rw [canPublish, h.substrate, h.faults]
    exact hc.working

theorem Echoed.publications (h : Echoed a key s c c') :
    c'.substrate.publications a.node = c.substrate.publications a.node ++ [(key, s.text)] := by
  rw [h.substrate]
  exact Substrate.publications_publish _ _ _ _

/-- Whoever had seen the status so far is told of a change. -/
theorem Echoed.watchers (h : Echoed a key s c c') {w : StatusWatcher}
    (hw : (c.node a.node).status.hasChanged w = false) :
    (c'.node a.node).status.hasChanged w = true := by
  rw [h.node]
  exact StatusCell.hasChanged_set hw s

theorem Echoed.observed (h : Echoed a key s c c') : ¬ Unobserved a.node c c' := by
  intro hsame
  have hlength := congrArg List.length (h.publications.symm.trans hsame.publications)
  rw [List.length_append] at hlength
  exact absurd hlength (Nat.succ_ne_self _)

theorem publish_settled (h : Settled a key s c) : c.publish a.node key s.text =
    ({ c with substrate := c.substrate.noting (.publish a.node key s.text) }, .ok ()) := by
  have hworking := h.working
  rw [canPublish, Bool.and_eq_true, Bool.not_eq_true', Option.isNone_iff_eq_none] at hworking
  obtain ⟨hup, haccepted⟩ := hworking
  rw [publish, faulty_of_none haccepted, onSubstrate, Substrate.publish_again h.published hup]

/-- A write that finds the status that it writes has nothing to tell. -/
theorem setLocal_again (h : c.statusOf a.node = s) : Yields a (Handler.setLocal s) c
    fun c' events => c' = (c.writeStatus a.node s).1 ∧ events = [] := by
  have hwrite : c.answer a (.writeStatus s) = ((c.writeStatus a.node s).1, some s) := by
    rw [← h]
    rfl
  refine ⟨_, _, (run_ask_some hwrite).trans ?_, rfl, rfl⟩
  exact congrArg (run a · (c.writeStatus a.node s).1) (if_pos rfl)

/-- With the lock held there is nothing to take on, and it is done nevertheless. -/
theorem takeOn_echoed (settings : Settings) (h : Settled a settings.statusAttribute s c) :
    Ends a (Handler.takeOn settings s).run c fun c' r =>
      r = some (.ok []) ∧ Echoed a settings.statusAttribute s c c' := by
  have hread : c.answer a .readStatus = (c, some s) := by
    rw [← h.status]
    rfl
  have hwritten : Settled a settings.statusAttribute s (c.writeStatus a.node s).1 := by
    refine ⟨?_, h.published, h.working⟩
    rw [statusOf, writeStatus, node_setNode, if_pos rfl]
    rfl
  have hpublish : (c.writeStatus a.node s).1.answer a (.publish settings.statusAttribute s.text) =
      ({ (c.writeStatus a.node s).1 with
          substrate := c.substrate.noting (.publish a.node settings.statusAttribute s.text) },
        some (.ok ())) :=
    congrArg replied (publish_settled hwritten)
  rw [Handler.takeOn, Handler.run_lift_bind]
  refine ends_of_answered hread ?_
  rw [if_neg fun hd => hd.2 hd.1, Handler.run_lift_bind]
  refine (setLocal_again h.status).bind_ends fun c₁ events h₁ => ?_
  obtain ⟨rfl, rfl⟩ := h₁
  rw [Handler.publish, Handler.run_orFail_bind]
  refine ends_of_answered hpublish ?_
  refine ends_done ?_
  refine ⟨rfl, ?_⟩
  constructor
  case node => exact (node_setNode ..).trans (if_pos rfl)
  case others => exact fun id hid => (node_setNode ..).trans (if_neg hid)
  all_goals rfl

theorem statusPublished_echoed (settings : Settings)
    (h : Settled a settings.statusAttribute s c) :
    Ends a (Handler.statusPublished settings s.text).run c fun c' r =>
      r = some (.ok []) ∧ Echoed a settings.statusAttribute s c c' := by
  rw [Handler.run_statusPublished, Status.ofText?_text]
  have hlocked : Settled a settings.statusAttribute s
      { c with locks := c.locks.claim (a.lockKey .transition) a.activity } :=
    ⟨h.status, h.published, h.working⟩
  refine ends_of_answered rfl ?_
  refine (takeOn_echoed settings hlocked).bind (fun c₁ x h₁ => ?_) fun c₁ h₁ => ?_
  · obtain ⟨hx, hechoed⟩ := h₁
    cases hx
    -- Of all that an echo is about, releasing the lock touches nothing.
    exact ends_of_answered rfl (ends_done ⟨rfl, { hechoed with }⟩)
  · exact absurd h₁.1 (Option.some_ne_none _).symm

theorem unlogged_echoed : Unlogged fun c' (r : Option (Except HandlerError (List ClusterEvent))) =>
    r = some (.ok []) ∧ Echoed a key s c c' := by
  intro d d' r hd h
  obtain ⟨hr, hechoed⟩ := h
  have hnode : ∀ id, d.node id = d'.node id := fun id => congrArg (·.node id) hd
  refine ⟨hr, ?_, ?_, ?_, ?_, ?_, fun id hid => ?_⟩
  · exact (congrArg Cluster.faults hd).symm.trans hechoed.faults
  · exact (congrArg Cluster.substrate hd).symm.trans hechoed.substrate
  · exact (congrArg Cluster.index hd).symm.trans hechoed.index
  · exact (congrArg Cluster.store hd).symm.trans hechoed.store
  · rw [← hnode]
    exact hechoed.node
  · rw [← hnode]
    exact hechoed.others id hid

/-- A node that hears of the status that it has and publishes, from whatever member. -/
theorem membershipEvent_echoed (tracing : Handler.Tracing) (settings : Settings) (member : Member)
    (h : Settled a settings.statusAttribute s c) :
    Ends a (Handler.membershipEvent tracing a.node settings
      (.attributeChanged member settings.statusAttribute s.text)) c fun c' r =>
        r = some (.ok []) ∧ Echoed a settings.statusAttribute s c c' := by
  refine Ends.membershipEvent unlogged_echoed ?_
  rw [Handler.dispatch, Handler.run_attributeChanged]
  refine ends_of_answered rfl ((statusPublished_echoed settings ?_).mono fun c' r h' => ?_)
  · exact ⟨h.status, h.published, h.working⟩
  · obtain ⟨hr, hechoed⟩ := h'
    exact ⟨hr, { hechoed with }⟩

/-! ## 2. A substrate that echoes -/

/-- From the cluster `c`, where the first `heard` publications of a node were echoed to it already,
by so many echoes of the next ones, in order. -/
inductive Echoing (a : Actor) (tracing : Handler.Tracing) (settings : Settings) (member : Member)
    (heard : Nat) (c : Cluster) : Nat → Cluster → Prop
  | start : Echoing a tracing settings member heard c 0 c
  | echo {n : Nat} {c' : Cluster} {key value : String}
      (h : Echoing a tracing settings member heard c n c')
      (next : (c'.substrate.publications a.node)[heard + n]? = some (key, value)) :
      Echoing a tracing settings member heard c (n + 1) (run a
        (Handler.membershipEvent tracing a.node settings (.attributeChanged member key value)) c').1

/-- Once so many publications of a node were echoed, all that is left to echo is its status. -/
def OnlyStatusLeft (a : Actor) (key : String) (s : Status) (heard : Nat) (c : Cluster) : Prop :=
  ∀ p ∈ (c.substrate.publications a.node).drop heard, p = (key, s.text)

section
variable {tracing : Handler.Tracing} {settings : Settings} {member : Member} {heard n : Nat}

/-- What so many echoes of a node's own status have come to. -/
structure Resounded (a : Actor) (key : String) (s : Status) (n : Nat) (c c' : Cluster) : Prop where
  settled : Settled a key s c'
  publications : c'.substrate.publications a.node =
    c.substrate.publications a.node ++ List.replicate n (key, s.text)
  version : (c'.node a.node).status.version = (c.node a.node).status.version + n
  runner : (c'.node a.node).runner = (c.node a.node).runner
  clock : (c'.node a.node).clock = (c.node a.node).clock

theorem Resounded.echo (h : Resounded a key s n c c') (hechoed : Echoed a key s c' c'') :
    Resounded a key s (n + 1) c c'' where
  settled := hechoed.settled h.settled
  publications := by
    rw [hechoed.publications, h.publications, List.append_assoc, ← List.replicate_succ']
  version := by
    rw [hechoed.node]
    exact congrArg Nat.succ h.version
  runner := by
    rw [hechoed.node]
    exact h.runner
  clock := by
    rw [hechoed.node]
    exact h.clock

/-- Nothing but the status is left to echo, however often it was. -/
theorem Resounded.next (h : Resounded a key s n c c') (hrest : OnlyStatusLeft a key s heard c)
    {p : String × String} (hp : (c'.substrate.publications a.node)[heard + n]? = some p) :
    p = (key, s.text) := by
  rw [h.publications, List.getElem?_append] at hp
  split at hp
  · refine hrest p (List.mem_iff_getElem?.2 ⟨n, ?_⟩)
    rw [List.getElem?_drop]
    exact hp
  · exact List.eq_of_mem_replicate (List.mem_of_getElem? hp)

theorem Echoing.resounded (h : Echoing a tracing settings member heard c n c')
    (hc : Settled a settings.statusAttribute s c)
    (hrest : OnlyStatusLeft a settings.statusAttribute s heard c) :
    Resounded a settings.statusAttribute s n c c' := by
  induction h with
  | start => exact ⟨hc, (List.append_nil _).symm, rfl, rfl, rfl⟩
  | echo h next ih =>
    cases ih.next hrest next
    exact ih.echo (membershipEvent_echoed tracing settings member ih.settled).2

/-- Where there is one publication left to echo there always is. -/
theorem Echoing.goes_on (hc : Settled a settings.statusAttribute s c)
    (hrest : OnlyStatusLeft a settings.statusAttribute s heard c)
    (hleft : heard < (c.substrate.publications a.node).length) (n : Nat) :
    ∃ c', Echoing a tracing settings member heard c n c' := by
  induction n with
  | zero => exact ⟨c, .start⟩
  | succ n ih =>
    obtain ⟨c', h⟩ := ih
    have hlength : heard + n < (c'.substrate.publications a.node).length := by
      rw [(h.resounded hc hrest).publications, List.length_append, List.length_replicate]
      omega
    obtain ⟨⟨key, value⟩, next⟩ : ∃ p, (c'.substrate.publications a.node)[heard + n]? = some p :=
      ⟨_, List.getElem?_eq_getElem hlength⟩
    exact ⟨_, h.echo next⟩

end

/-- The echo of a node's own publication tells no event, and asks neither runner nor clock. But it
is seen by all who watch the status, and it is published again; so a substrate that echoes whatever
is published has an echo left after any number of them. -/
theorem echo_published_again (tracing : Handler.Tracing) (settings : Settings) (member : Member)
    (hc : Settled a settings.statusAttribute s c) :
    (∃ c', run a (Handler.membershipEvent tracing a.node settings
        (.attributeChanged member settings.statusAttribute s.text)) c = (c', some (.ok [])) ∧
      Echoed a settings.statusAttribute s c c' ∧ ¬ Unobserved a.node c c' ∧
      ∀ w, (c.node a.node).status.hasChanged w = false →
        (c'.node a.node).status.hasChanged w = true) ∧
    ∀ heard, OnlyStatusLeft a settings.statusAttribute s heard c →
      (∀ n c', Echoing a tracing settings member heard c n c' →
        Resounded a settings.statusAttribute s n c c') ∧
      (heard < (c.substrate.publications a.node).length →
        ∀ n, ∃ c', Echoing a tracing settings member heard c n c') := by
  constructor
  · obtain ⟨hr, hechoed⟩ := membershipEvent_echoed tracing settings member hc
    exact ⟨_, Prod.ext rfl hr, hechoed, hechoed.observed, fun w hw => hechoed.watchers hw⟩
  · intro heard hrest
    exact ⟨fun n c' h => h.resounded hc hrest, fun hleft n => Echoing.goes_on hc hrest hleft n⟩

/-- A node that another one has told to pause. -/
def paused : Cluster :=
  (run ⟨⟨"a"⟩, 0, 0⟩ (Handler.membershipEvent .on ⟨"a"⟩ default
      (.attributeChanged ⟨⟨"b"⟩, ⟨"hB"⟩⟩ (default : Settings).statusAttribute Status.pause.text))
    ((Cluster.empty default "node-tasks" default).start ⟨⟨"a"⟩, ⟨"hA"⟩⟩ .active)).1

theorem settled_paused :
    Settled ⟨⟨"a"⟩, 0, 0⟩ (default : Settings).statusAttribute .pause paused := by
  constructor <;> decide

theorem onlyStatusLeft_paused :
    OnlyStatusLeft ⟨⟨"a"⟩, 0, 0⟩ (default : Settings).statusAttribute .pause 0 paused := by
  unfold OnlyStatusLeft
  decide

/-- The node hears of its pause, and again of each publication that comes of that. -/
theorem pause_resounds :
    Settled ⟨⟨"a"⟩, 0, 0⟩ (default : Settings).statusAttribute .pause paused ∧
    ∀ n, ∃ c', Echoing ⟨⟨"a"⟩, 0, 0⟩ .on default ⟨⟨"a"⟩, ⟨"hA"⟩⟩ 0 paused n c' ∧
      Resounded ⟨⟨"a"⟩, 0, 0⟩ (default : Settings).statusAttribute .pause n paused c' := by
  have hechoes := echo_published_again .on default ⟨⟨"a"⟩, ⟨"hA"⟩⟩ settled_paused
  obtain ⟨hresounded, hexists⟩ := hechoes.2 0 onlyStatusLeft_paused
  refine ⟨settled_paused, fun n => ?_⟩
  obtain ⟨c', h⟩ := hexists (by decide) n
  exact ⟨c', h, hresounded n c' h⟩

/-- The echo of a pause tells no event; but it is published a second time, and one who had seen the
status is told of a change. -/
theorem pause_echo_observed :
    Settled ⟨⟨"a"⟩, 0, 0⟩ (default : Settings).statusAttribute .pause paused ∧
    ∃ c', run ⟨⟨"a"⟩, 0, 0⟩ (Handler.membershipEvent .on ⟨"a"⟩ default
        (.attributeChanged ⟨⟨"a"⟩, ⟨"hA"⟩⟩ (default : Settings).statusAttribute Status.pause.text))
        paused = (c', some (.ok [])) ∧
      paused.substrate.publications ⟨"a"⟩ = [("node.status", "PAUSE")] ∧
      c'.substrate.publications ⟨"a"⟩ = [("node.status", "PAUSE"), ("node.status", "PAUSE")] ∧
      (c'.node ⟨"a"⟩).status.hasChanged (paused.node ⟨"a"⟩).status.subscribe = true ∧
      ¬ Unobserved ⟨"a"⟩ paused c' := by
  refine ⟨settled_paused, _, Prod.ext rfl rfl, by decide, by decide, by decide, fun h => ?_⟩
  have hpublications := h.publications
  revert hpublications
  decide

end Cluster

end ClusterKeeper
