/-!
# `Ordered/Set.lean` — finite sets kept as strictly ascending lists

Hosts and task ids are stored, compared and written in ascending order and without repetition,
so the order is part of the type: an `OrderedSet` is a list together with the proof that it
ascends strictly. Two sets with the same members are therefore *equal* (`OrderedSet.ext_mem`),
not merely equivalent, and "the final record is the same" can be said with `=`.

The order is whatever `compare` says; every operation only needs it to be transitive and to call
two elements equal exactly when they are.
-/

set_option autoImplicit false

namespace ClusterKeeper

open Std (TransOrd LawfulEqOrd)

/-- A finite set, listed in strictly ascending order. -/
structure OrderedSet (α : Type) [Ord α] where
  toList : List α
  ascending : toList.Pairwise (fun a b => compare a b = .lt)

namespace OrderedSet

variable {α : Type} [Ord α]

instance : Membership α (OrderedSet α) := ⟨fun s a => a ∈ s.toList⟩

theorem mem_def {s : OrderedSet α} {a : α} : a ∈ s ↔ a ∈ s.toList := Iff.rfl

def empty : OrderedSet α := ⟨[], .nil⟩

instance : EmptyCollection (OrderedSet α) := ⟨empty⟩
instance : Inhabited (OrderedSet α) := ⟨empty⟩

def isEmpty (s : OrderedSet α) : Bool := s.toList.isEmpty

def size (s : OrderedSet α) : Nat := s.toList.length

def contains (s : OrderedSet α) (a : α) : Bool := s.toList.any (fun b => compare a b == .eq)

/-! ## 1. Inserting into an ascending list -/

/-- Puts `a` at its place in an ascending list; an equal element that is there already stays. -/
def insertList (a : α) : List α → List α
  | [] => [a]
  | b :: bs =>
    match compare a b with
    | .lt => a :: b :: bs
    | .eq => b :: bs
    | .gt => b :: insertList a bs

theorem mem_insertList [LawfulEqOrd α] {a x : α} {l : List α} : x ∈ insertList a l ↔ x = a ∨ x ∈ l := by
  induction l with
  | nil => simp [insertList]
  | cons b bs ih =>
    unfold insertList
    split
    · simp
    · next h =>
      have hab : a = b := LawfulEqOrd.eq_of_compare h
      subst hab
      simp
    · simp [ih, or_left_comm]

theorem insertList_ascending [TransOrd α] [LawfulEqOrd α] {a : α} {l : List α}
    (h : l.Pairwise (fun a b => compare a b = .lt)) :
    (insertList a l).Pairwise (fun a b => compare a b = .lt) := by
  induction l with
  | nil => simp [insertList]
  | cons b bs ih =>
    obtain ⟨hb, hbs⟩ := List.pairwise_cons.1 h
    unfold insertList
    split
    · next hab =>
      refine List.pairwise_cons.2 ⟨fun x hx => ?_, h⟩
      rcases List.mem_cons.1 hx with rfl | hx
      · exact hab
      · exact Std.TransCmp.lt_trans hab (hb x hx)
    · exact h
    · next hab =>
      refine List.pairwise_cons.2 ⟨fun x hx => ?_, ih hbs⟩
      rcases mem_insertList.1 hx with rfl | hx
      · exact Std.OrientedCmp.lt_of_gt hab
      · exact hb x hx

/-! ## 2. Operations on sets -/

section
variable [TransOrd α] [LawfulEqOrd α]

def insert (s : OrderedSet α) (a : α) : OrderedSet α :=
  ⟨insertList a s.toList, insertList_ascending s.ascending⟩

@[simp] theorem mem_insert {s : OrderedSet α} {a x : α} : x ∈ s.insert a ↔ x = a ∨ x ∈ s :=
  mem_insertList

/-- Every listed element is put in; the order and the repetitions of the list do not matter. -/
def insertAll (s : OrderedSet α) (xs : List α) : OrderedSet α := xs.foldl insert s

@[simp] theorem mem_insertAll {s : OrderedSet α} {xs : List α} {x : α} :
    x ∈ s.insertAll xs ↔ x ∈ xs ∨ x ∈ s := by
  induction xs generalizing s with
  | nil => simp [insertAll]
  | cons y ys ih =>
    have : s.insertAll (y :: ys) = (s.insert y).insertAll ys := rfl
    rw [this, ih, mem_insert]
    simp [or_left_comm, or_assoc]

def ofList (xs : List α) : OrderedSet α := insertAll empty xs

end

/-- All members but `a`. -/
def erase (s : OrderedSet α) (a : α) : OrderedSet α :=
  ⟨s.toList.filter (fun b => compare a b != .eq), s.ascending.filter _⟩

theorem not_mem_empty {x : α} : ¬ x ∈ (empty : OrderedSet α) := by
  simp [mem_def, empty]

@[simp] theorem mem_ofList [TransOrd α] [LawfulEqOrd α] {xs : List α} {x : α} : x ∈ ofList xs ↔ x ∈ xs := by
  simp [ofList, not_mem_empty]

theorem compare_bne_eq [LawfulEqOrd α] {a b : α} : (compare a b != .eq) = true ↔ ¬ a = b := by
  rw [bne_iff_ne, ne_eq, Std.LawfulEqCmp.compare_eq_iff_eq]

@[simp] theorem mem_erase [LawfulEqOrd α] {s : OrderedSet α} {a x : α} :
    x ∈ s.erase a ↔ ¬ x = a ∧ x ∈ s := by
  rw [mem_def, erase, List.mem_filter, compare_bne_eq, and_comm, eq_comm (a := a)]
  rfl

@[simp] theorem contains_iff [LawfulEqOrd α] {s : OrderedSet α} {a : α} : s.contains a = true ↔ a ∈ s := by
  simp [contains, mem_def, Std.LawfulEqCmp.compare_eq_iff_eq]

instance [LawfulEqOrd α] {s : OrderedSet α} {a : α} : Decidable (a ∈ s) :=
  decidable_of_iff (s.contains a = true) contains_iff

/-! ## 3. A set is known by its members -/

section
variable [TransOrd α] [LawfulEqOrd α]

theorem eq_of_ascending {l m : List α} (hl : l.Pairwise (fun a b => compare a b = .lt))
    (hm : m.Pairwise (fun a b => compare a b = .lt)) (h : ∀ x, x ∈ l ↔ x ∈ m) : l = m := by
  induction l generalizing m with
  | nil =>
    cases m with
    | nil => rfl
    | cons b bs => exact absurd ((h b).2 (.head _)) (by simp)
  | cons a as ih =>
    cases m with
    | nil => exact absurd ((h a).1 (.head _)) (by simp)
    | cons b bs =>
      obtain ⟨ha, has⟩ := List.pairwise_cons.1 hl
      obtain ⟨hb, hbs⟩ := List.pairwise_cons.1 hm
      have irrefl : ∀ x : α, ¬ compare x x = .lt := by
        intro x hx
        rw [Std.ReflOrd.compare_self] at hx
        cases hx
      have hab : a = b := by
        rcases List.mem_cons.1 ((h a).1 (.head _)) with hab | hab
        · exact hab
        · rcases List.mem_cons.1 ((h b).2 (.head _)) with hba | hba
          · exact hba.symm
          · exact absurd (Std.TransCmp.lt_trans (ha b hba) (hb a hab)) (irrefl a)
      subst hab
      congr 1
      refine ih has hbs fun x => ⟨fun hx => ?_, fun hx => ?_⟩
      · rcases List.mem_cons.1 ((h x).1 (.tail _ hx)) with rfl | hx'
        · exact absurd (ha x hx) (irrefl x)
        · exact hx'
      · rcases List.mem_cons.1 ((h x).2 (.tail _ hx)) with rfl | hx'
        · exact absurd (hb x hx) (irrefl x)
        · exact hx'

theorem ext_mem {s t : OrderedSet α} (h : ∀ x, x ∈ s ↔ x ∈ t) : s = t := by
  have := eq_of_ascending s.ascending t.ascending h
  cases s; cases t
  subst this
  rfl

end

theorem nodup_toList [Std.ReflOrd α] (s : OrderedSet α) : s.toList.Nodup := by
  refine s.ascending.imp ?_
  rintro a _ h rfl
  rw [Std.ReflOrd.compare_self] at h
  cases h

instance [DecidableEq α] : DecidableEq (OrderedSet α) := fun s t =>
  decidable_of_iff (s.toList = t.toList)
    ⟨fun h => by cases s; cases t; subst h; rfl, fun h => h ▸ rfl⟩

end OrderedSet

end ClusterKeeper
