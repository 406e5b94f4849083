import ClusterKeeper.Identifier
import ClusterKeeper.Ordered.Set

/-!
# `Member.lean` — members of the cluster, and the record of their hosts

Members come and go with every event of the substrate. What outlives them is the `HostRecord`:
the set of hosts that make up the cluster. It is keyed by host and not by member, so several
members on one host are one entry.
-/

set_option autoImplicit false

namespace ClusterKeeper

/-- A member of the cluster as the substrate reports it. -/
structure Member where
  id : NodeId
  host : Host
  deriving DecidableEq, Repr, Inhabited

namespace Member

/-- A member is shown as `id@host`. -/
def display (m : Member) : String := m.id.text ++ "@" ++ m.host.text

end Member

def hostsOf (members : List Member) : OrderedSet Host := .ofList (members.map (·.host))

theorem mem_hostsOf {members : List Member} {h : Host} :
    h ∈ hostsOf members ↔ ∃ m ∈ members, m.host = h := by
  simp [hostsOf]

/-- Whether somebody else among the members is on the host of `m`. -/
theorem contains_hostsOf_others {members : List Member} {m : Member} :
    (hostsOf (members.filter (·.id ≠ m.id))).contains m.host = true ↔
      ∃ x ∈ members, x.id ≠ m.id ∧ x.host = m.host := by
  rw [OrderedSet.contains_iff, mem_hostsOf]
  simp only [List.mem_filter, decide_eq_true_eq, and_assoc]

/-- The persisted record of the hosts that make up the cluster. -/
structure HostRecord where
  hosts : OrderedSet Host
  deriving DecidableEq, Inhabited

namespace HostRecord

def empty : HostRecord := ⟨∅⟩

def ofHosts (hosts : List Host) : HostRecord := ⟨.ofList hosts⟩

def contains (r : HostRecord) (h : Host) : Bool := r.hosts.contains h

@[simp] theorem contains_iff {r : HostRecord} {h : Host} : r.contains h = true ↔ h ∈ r.hosts :=
  OrderedSet.contains_iff

/-- Takes in the hosts one after another and lists those that were new when their turn came. -/
def absorb (r : HostRecord) : List Host → HostRecord × List Host
  | [] => (r, [])
  | h :: hs =>
    if r.contains h then r.absorb hs
    else
      let (r', added) := HostRecord.absorb ⟨r.hosts.insert h⟩ hs
      (r', h :: added)

/-- Drops a host. The second component says whether it was recorded. -/
def forget (r : HostRecord) (h : Host) : HostRecord × Bool := (⟨r.hosts.erase h⟩, r.contains h)

theorem absorb_nil (r : HostRecord) : r.absorb [] = (r, []) := by simp [absorb]

theorem absorb_cons_of_mem {r : HostRecord} {h : Host} {hs : List Host} (hr : h ∈ r.hosts) :
    r.absorb (h :: hs) = r.absorb hs := by
  rw [absorb, if_pos (contains_iff.2 hr)]

theorem absorb_cons_of_not_mem {r : HostRecord} {h : Host} {hs : List Host} (hr : ¬ h ∈ r.hosts) :
    r.absorb (h :: hs) = ((HostRecord.absorb ⟨r.hosts.insert h⟩ hs).1,
      h :: (HostRecord.absorb ⟨r.hosts.insert h⟩ hs).2) := by
  rw [absorb, if_neg (mt contains_iff.1 hr)]

/-- The hosts afterwards are those of before and the listed ones. -/
theorem mem_absorb {r : HostRecord} {hs : List Host} {x : Host} :
    x ∈ (r.absorb hs).1.hosts ↔ x ∈ hs ∨ x ∈ r.hosts := by
  induction hs generalizing r with
  | nil => simp [absorb_nil]
  | cons h hs ih =>
    by_cases hr : h ∈ r.hosts
    · rw [absorb_cons_of_mem hr, ih, List.mem_cons]
      constructor
      · exact fun hx => hx.imp .inr id
      · rintro ((rfl | hx) | hx)
        · exact .inr hr
        · exact .inl hx
        · exact .inr hx
    · rw [absorb_cons_of_not_mem hr, ih, OrderedSet.mem_insert, List.mem_cons]
      exact or_left_comm.trans or_assoc.symm

end HostRecord

end ClusterKeeper
