/-!
# `Identifier.lean` — names of nodes, tasks and hosts

The three kinds of name are opaque texts that must never be mixed up: a task id is also the key
by which ownership is looked up, a host may carry several nodes. One type indexed by its kind
gives all three the same operations and keeps them apart.

Names are ordered by their text, code point by code point.
-/

set_option autoImplicit false

namespace ClusterKeeper

/-- What a name names. -/
inductive NameKind
  | node
  | task
  | host
  deriving DecidableEq, Repr

structure Identifier (kind : NameKind) where
  text : String
  deriving DecidableEq, Repr

/-- The unique name of a cluster member, given by the membership substrate. -/
abbrev NodeId := Identifier .node

/-- The name of a task, and the key by which its partition's owner is found. -/
abbrev TaskId := Identifier .task

/-- A network host; several members may share one. -/
abbrev Host := Identifier .host

namespace Identifier

variable {kind : NameKind}

instance : Inhabited (Identifier kind) := ⟨⟨""⟩⟩

instance : Ord (Identifier kind) := ⟨fun a b => compare a.text b.text⟩

instance : Std.TransOrd (Identifier kind) where
  eq_swap := Std.OrientedOrd.eq_swap (α := String)
  isLE_trans := Std.TransOrd.isLE_trans (α := String)

instance : Std.LawfulEqOrd (Identifier kind) where
  compare_self := Std.ReflOrd.compare_self (α := String)
  eq_of_compare {a b} h := by
    cases a; cases b
    exact congrArg _ (Std.LawfulEqOrd.eq_of_compare (α := String) h)

end Identifier

end ClusterKeeper
