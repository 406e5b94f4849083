import ClusterKeeper.Handler.Membership
import ClusterKeeper.Proofs.Run
import ClusterKeeper.Proofs.Status.Conduct

/-!
# `Proofs/Status/Adoption.lean` — what one value of the status attribute does to a node

A node that has handled a value that is a status has that status and publishes it, whatever its
status was before and however its drain went; no other node is touched (`Cluster.Adopted`). A value
that is no status does nothing but make a log record.

The handler is followed through its rule: once the new status is written nothing writes another, and
once it is published nothing publishes.
-/

set_option autoImplicit false

namespace ClusterKeeper

namespace Cluster

variable {c c' : Cluster} {here : NodeId} {key : String} {target : Status} {a : Actor}

/-- Whatever is published reaches the substrate. -/
structure Publishing (c : Cluster) : Prop where
  online : c.substrate.offline = false
  accepts : ∀ value, c.faults.reason? .publish value = none

theorem Publishing.publish (h : c.Publishing) (asker : NodeId) (key value : String) :
    (c.publish asker key value).2 = .ok () := by
  rw [Cluster.publish, faulty_of_none (h.accepts value)]
  show (c.substrate.publish asker key value).2 = _
  rw [Substrate.publish_result, h.online]
  rfl

/-- Statuses and attributes are as they were but for those of one node. -/
structure Untouched (here : NodeId) (c c' : Cluster) : Prop where
  status : ∀ id, id ≠ here → (c'.node id).status = (c.node id).status
  published : ∀ id, id ≠ here → ∀ key, c'.substrate.attribute? id key = c.substrate.attribute? id key

theorem Untouched.refl : Untouched here c c := ⟨fun _ _ => rfl, fun _ _ _ => rfl⟩

theorem Untouched.trans {c'' : Cluster} (h : Untouched here c c') (h' : Untouched here c' c'') :
    Untouched here c c'' where
  status id hid := (h'.status id hid).trans (h.status id hid)
  published id hid key := (h'.published id hid key).trans (h.published id hid key)

theorem untouched_answer (c : Cluster) (a : Actor) (r : Request) :
    Untouched a.node c (c.answer a r).1 where
  status id hid := by rw [answer_node_of_ne hid]
  published id hid k := by
    cases r with
    | members => exact faulty_fst (P := fun d => d.substrate.attribute? id k = _) rfl rfl
    | ownerOf task => exact faulty_fst (P := fun d => d.substrate.attribute? id k = _) rfl rfl
    | publish key value =>
      exact faulty_fst (P := fun d => d.substrate.attribute? id k = _) rfl
        (Substrate.attribute?_publish_of_ne _ hid key value k)
    | _ => rw [answer_substrate (by simp [Request.parts])]

/-- The status has been taken on here, and no other node was touched. -/
structure Adopted (here : NodeId) (key : String) (target : Status) (c c' : Cluster) : Prop where
  status : (c'.node here).status.status = target
  published : c'.substrate.attribute? here key = some target.text
  untouched : Untouched here c c'

/-! ## 1. On the way -/

/-- What is so in the situations on the way to a status. -/
structure Approaches (here : NodeId) (key : String) (target : Status) (c : Cluster)
    (p : Transition) (c' : Cluster) : Prop where
  publishing : c'.Publishing
  untouched : Untouched here c c'
  status : p = .settled ∨ p = .published ∨ p = .left → (c'.node here).status.status = target
  published : p = .published ∨ p = .left → c'.substrate.attribute? here key = some target.text

theorem Publishing.answer (h : c.Publishing) (a : Actor) (r : Request) :
    (c.answer a r).1.Publishing where
  online := (answer_substrate_offline c a r).trans h.online
  accepts value := by
    rw [answer_faults]
    exact h.accepts value

theorem Publishing.of_run {α : Type} (h : c.Publishing) (p : Handler α) :
    (run a p c).1.Publishing where
  online := (run_substrate_offline p c).trans h.online
  accepts value := by
    rw [run_faults]
    exact h.accepts value

theorem Approaches.step {d d' : Cluster} {p p' : Transition} {r : Request} {reply : r.Reply}
    (hr : Transition.Conduct key target p r reply p') (h : Approaches here key target c p d)
    {machine activity : Nat}
    (answered : d.answer ⟨here, machine, activity⟩ r = (d', some reply)) :
    Approaches here key target c p' d' := by
  have hd : d' = (d.answer ⟨here, machine, activity⟩ r).1 := by rw [answered]
  have hpublishing : d'.Publishing := hd ▸ h.publishing.answer _ r
  have huntouched : Untouched here c d' :=
    h.untouched.trans (hd ▸ untouched_answer d ⟨here, machine, activity⟩ r)
  have hstatus : .status ∉ r.parts → (d'.node here).status = (d.node here).status := fun hparts =>
    answered_status answered hparts here
  have hpublished : .substrate ∉ r.parts → d'.substrate = d.substrate := by
    intro hparts
    rw [hd, answer_substrate hparts]
  refine ⟨hpublishing, huntouched, ?_, ?_⟩
  · cases hr with
    | finish | settle =>
      intro _
      exact status_of_writeStatus (of_replied answered)
    | publish =>
      intro _
      rw [hstatus (by simp [Request.parts])]
      exact h.status (.inl rfl)
    | leave =>
      intro _
      rw [hstatus (by simp [Request.parts])]
      exact h.status (.inr (.inl rfl))
    | log hin =>
      rw [hstatus (by simp [Request.parts])]
      exact h.status
    | enter | read | pause | poll => simp
  · cases hr with
    | @publish result =>
      intro _
      -- Publishing does not fail, so what was asked for is published.
      have hok := h.publishing.publish here key target.text
      have hask : d.publish here key target.text = (d', result) := of_replied answered
      rw [hask] at hok
      obtain rfl : result = .ok () := hok
      exact (publish_attribute hask here key).trans (if_pos ⟨rfl, rfl⟩)
    | leave =>
      intro _
      rw [hpublished (by simp [Request.parts])]
      exact h.published (.inl rfl)
    | log hin =>
      rw [hpublished (by simp [Request.parts])]
      exact h.published
    | enter | read | pause | poll | finish | settle => simp

/-! ## 2. All the way -/

/-- Taking on a status, if the clock lets it come to its end. -/
theorem Publishing.statusPublished (h : c.Publishing) {settings : Settings} {value : String}
    (hvalue : Status.ofText? value = some target) {machine activity : Nat}
    {result : Except HandlerError (List ClusterEvent)}
    (hrun : run ⟨here, machine, activity⟩ (Handler.statusPublished settings value).run c =
      (c', some result)) : Adopted here settings.statusAttribute target c c' := by
  have hstart : Approaches here settings.statusAttribute target c .outside c :=
    ⟨h, .refl, by simp, by simp⟩
  obtain ⟨p, hp, hend⟩ := run_follows (P := Approaches here settings.statusAttribute target c)
    (fun hr h => Approaches.step hr h) (Handler.statusPublished_follows settings hvalue) hstart hrun
  cases hp
  exact ⟨hend.status (.inr (.inr rfl)), hend.published (.inr rfl), hend.untouched⟩

end Cluster

/-- An attribute event with the status key is a log record, and then its value is handled. -/
theorem Handler.run_attributeChanged (settings : Settings) (member : Member) (value : String) :
    (attributeChanged settings member settings.statusAttribute value).run =
      (info "member attribute modified" [("key", settings.statusAttribute), ("value", value),
        ("member", member.display)] >>= fun _ => (statusPublished settings value).run) := by
  rw [attributeChanged, run_lift_bind, if_neg (fun h => h rfl)]

namespace Cluster

variable {c c' : Cluster} {here : NodeId} {target : Status} {settings : Settings} {member : Member}
  {value : String} {result : Except HandlerError (List ClusterEvent)}

theorem Publishing.handled (h : c.Publishing) (hvalue : Status.ofText? value = some target)
    (hrun : run ⟨here, 0, 0⟩ (Handler.dispatch here settings
      (.attributeChanged member settings.statusAttribute value)).run c = (c', some result)) :
    Adopted here settings.statusAttribute target c c' := by
  rw [Handler.dispatch, Handler.run_attributeChanged] at hrun
  have hlogged := h.answer ⟨here, 0, 0⟩ (.log ⟨.info, "member attribute modified",
    [("key", settings.statusAttribute), ("value", value), ("member", member.display)], []⟩)
  have hadopted := hlogged.statusPublished hvalue hrun
  exact ⟨hadopted.status, hadopted.published, hadopted.untouched.status, hadopted.untouched.published⟩

theorem run_unknown (hvalue : Status.ofText? value = none)
    (hrun : run ⟨here, 0, 0⟩ (Handler.dispatch here settings
      (.attributeChanged member settings.statusAttribute value)).run c = (c', some result)) :
    ∃ log, c' = { c with log := log } := by
  rw [Handler.dispatch, Handler.run_attributeChanged, Handler.run_statusPublished, hvalue] at hrun
  cases hrun
  exact ⟨_, rfl⟩

end Cluster

end ClusterKeeper
