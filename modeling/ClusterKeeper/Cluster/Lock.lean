import ClusterKeeper.Request

/-!
# `Cluster/Lock.lean` — who holds which lock

A lock table lists the claims on locks in the order in which they were made. The oldest claim on a
lock holds it and all later ones wait, so a lock that is given up passes to whoever has waited
longest, and at no moment between is it free.
-/

set_option autoImplicit false

namespace ClusterKeeper

/-- A lock: that of a node, and of one of its status machines where there are several. -/
structure LockKey where
  node : NodeId
  machine : Nat
  name : LockName
  deriving DecidableEq, Repr, Inhabited

/-- A claim of an activity, known by its number, on a lock. -/
structure LockClaim where
  key : LockKey
  activity : Nat
  deriving DecidableEq, Repr, Inhabited

/-- The claims on locks, the oldest first. -/
abbrev LockTable := List LockClaim

namespace LockTable

def holder? (t : LockTable) (key : LockKey) : Option Nat :=
  (t.find? fun c => c.key = key).map (·.activity)

def isHeld (t : LockTable) (key : LockKey) : Bool := (t.holder? key).isSome

/-- Claims a lock; a claim that has been made keeps its place. -/
def claim (t : LockTable) (key : LockKey) (activity : Nat) : LockTable :=
  if ⟨key, activity⟩ ∈ t then t else t ++ [⟨key, activity⟩]

def release (t : LockTable) (key : LockKey) (activity : Nat) : LockTable :=
  t.erase ⟨key, activity⟩

end LockTable

end ClusterKeeper
