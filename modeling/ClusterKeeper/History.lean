/-!
# `History.lean` — what has happened, in order

Clocks, runners and stores remember what was asked of them. A wait may ask hundreds of thousands
of times, so remembering one thing more has to cost the same however much has happened: a
`History` keeps the latest entry in front. It is read through `toList`, oldest entry first, and
there an entry is added at the end (`toList_add`). Two histories that read alike are equal (`ext`).
-/

set_option autoImplicit false

namespace ClusterKeeper

/-- The things that have happened. -/
structure History (α : Type) where
  latestFirst : List α
  deriving DecidableEq, Repr

namespace History

variable {α : Type}

def empty : History α := ⟨[]⟩

instance : EmptyCollection (History α) := ⟨empty⟩
instance : Inhabited (History α) := ⟨empty⟩

def add (h : History α) (a : α) : History α := ⟨a :: h.latestFirst⟩

def addAll (h : History α) (as : List α) : History α := as.foldl add h

/-- The entries, oldest first. -/
def toList (h : History α) : List α := h.latestFirst.reverse

def size (h : History α) : Nat := h.latestFirst.length

theorem ext {g h : History α} (eq : g.toList = h.toList) : g = h := by
  cases g; cases h
  exact congrArg mk (List.reverse_inj.1 eq)

@[simp] theorem toList_empty : (∅ : History α).toList = [] := rfl

@[simp] theorem toList_add (h : History α) (a : α) : (h.add a).toList = h.toList ++ [a] := by
  simp [toList, add]

@[simp] theorem toList_addAll (h : History α) (as : List α) :
    (h.addAll as).toList = h.toList ++ as := by
  induction as generalizing h with
  | nil => simp [addAll]
  | cons a as ih =>
    have : h.addAll (a :: as) = (h.add a).addAll as := rfl
    rw [this, ih, toList_add, List.append_assoc, List.singleton_append]

@[simp] theorem length_toList (h : History α) : h.toList.length = h.size := by
  simp [toList, size]

end History

end ClusterKeeper
