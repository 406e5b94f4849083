/-!
# `Ordered/Map.lean` — finite maps kept as lists of pairs with ascending keys

The tables of the simulated cluster (partition owners, attributes, index entries, nodes) are
looked up and replaced by key and listed by key. Like `OrderedSet`, a map carries the proof that
its keys ascend, so two maps that answer every look-up alike are equal
(`OrderedMap.ext_get?`).
-/

set_option autoImplicit false

namespace ClusterKeeper

open Std (TransOrd LawfulEqOrd)

/-- A finite map, listed by strictly ascending key. -/
structure OrderedMap (κ : Type) [Ord κ] (α : Type) where
  toList : List (κ × α)
  ascending : toList.Pairwise (fun p q => compare p.1 q.1 = .lt)

namespace OrderedMap

variable {κ : Type} [Ord κ] {α : Type}

def empty : OrderedMap κ α := ⟨[], .nil⟩

instance : EmptyCollection (OrderedMap κ α) := ⟨empty⟩
instance : Inhabited (OrderedMap κ α) := ⟨empty⟩

/-- The value under a key in a list of pairs. -/
def lookupList (k : κ) : List (κ × α) → Option α
  | [] => none
  | (k', v) :: ps => if compare k k' == .eq then some v else lookupList k ps

def get? (m : OrderedMap κ α) (k : κ) : Option α := lookupList k m.toList

/-- Replaces the pair with key `k`, or puts a new one at its place. -/
def putList (k : κ) (v : α) : List (κ × α) → List (κ × α)
  | [] => [(k, v)]
  | (k', v') :: ps =>
    match compare k k' with
    | .lt => (k, v) :: (k', v') :: ps
    | .eq => (k', v) :: ps
    | .gt => (k', v') :: putList k v ps

theorem key_mem_putList {k : κ} {v : α} {ps : List (κ × α)} {x : κ}
    (h : x ∈ (putList k v ps).map (·.1)) : x = k ∨ x ∈ ps.map (·.1) := by
  induction ps with
  | nil => simpa [putList] using h
  | cons p ps ih =>
    obtain ⟨k', v'⟩ := p
    unfold putList at h
    split at h
    · simpa using h
    · right; simpa using h
    · simp only [List.map_cons, List.mem_cons] at h ⊢
      rcases h with h | h
      · exact .inr (.inl h)
      · exact (ih h).imp id .inr

theorem putList_ascending [TransOrd κ] {k : κ} {v : α} {ps : List (κ × α)}
    (h : ps.Pairwise (fun p q => compare p.1 q.1 = .lt)) :
    (putList k v ps).Pairwise (fun p q => compare p.1 q.1 = .lt) := by
  induction ps with
  | nil => simp [putList]
  | cons p ps ih =>
    obtain ⟨k', v'⟩ := p
    obtain ⟨hp, hps⟩ := List.pairwise_cons.1 h
    unfold putList
    split
    · next hk =>
      refine List.pairwise_cons.2 ⟨fun q hq => ?_, h⟩
      rcases List.mem_cons.1 hq with rfl | hq
      · exact hk
      · exact Std.TransCmp.lt_trans hk (hp q hq)
    · exact List.pairwise_cons.2 ⟨hp, hps⟩
    · next hk =>
      refine List.pairwise_cons.2 ⟨fun q hq => ?_, ih hps⟩
      rcases key_mem_putList (List.mem_map_of_mem hq) with hqk | hqk
      · rw [hqk]
        exact Std.OrientedCmp.lt_of_gt hk
      · obtain ⟨r, hr, hrq⟩ := List.mem_map.1 hqk
        rw [← hrq]
        exact hp r hr

def put [TransOrd κ] (m : OrderedMap κ α) (k : κ) (v : α) : OrderedMap κ α :=
  ⟨putList k v m.toList, putList_ascending m.ascending⟩

section
variable [TransOrd κ] [LawfulEqOrd κ]

theorem lookupList_putList {k x : κ} {v : α} {ps : List (κ × α)} :
    lookupList x (putList k v ps) = if compare x k == .eq then some v else lookupList x ps := by
  induction ps with
  | nil => rfl
  | cons p ps ih =>
    obtain ⟨k', v'⟩ := p
    unfold putList
    split
    · rfl
    · next hk =>
      have : k = k' := LawfulEqOrd.eq_of_compare hk
      subst this
      simp only [lookupList]
      split <;> rfl
    · next hk =>
      simp only [lookupList, ih]
      split
      · next hx =>
        have hxk' : x = k' := LawfulEqOrd.eq_of_compare (by simpa using hx)
        subst hxk'
        have : compare x k = .lt := Std.OrientedCmp.lt_of_gt hk
        simp [this]
      · rfl

@[simp] theorem get?_put [DecidableEq κ] {m : OrderedMap κ α} {k x : κ} {v : α} :
    (m.put k v).get? x = if x = k then some v else m.get? x := by
  simp only [get?, put, lookupList_putList, beq_iff_eq, Std.LawfulEqCmp.compare_eq_iff_eq]

end

/-- The map without the pair whose key is `k`. -/
def erase (m : OrderedMap κ α) (k : κ) : OrderedMap κ α :=
  ⟨m.toList.filter (fun p => compare k p.1 != .eq), m.ascending.filter _⟩

@[simp] theorem get?_empty {k : κ} : (empty : OrderedMap κ α).get? k = none := rfl

@[simp] theorem get?_erase [LawfulEqOrd κ] [DecidableEq κ] {m : OrderedMap κ α} {k x : κ} :
    (m.erase k).get? x = if x = k then none else m.get? x := by
  obtain ⟨ps, h⟩ := m
  simp only [get?, erase]
  induction ps with
  | nil => simp [lookupList]
  | cons p ps ih =>
    obtain ⟨k', v'⟩ := p
    have ih := ih (List.pairwise_cons.1 h).2
    simp only [List.filter_cons, lookupList, beq_iff_eq, bne_iff_ne, ne_eq,
      Std.LawfulEqCmp.compare_eq_iff_eq]
    by_cases hk : k = k'
    · subst hk
      rw [if_neg (by simp), ih]
      split <;> rfl
    · rw [if_pos hk]
      simp only [lookupList, ih, beq_iff_eq, Std.LawfulEqCmp.compare_eq_iff_eq]
      split
      · next hx =>
        subst hx
        rw [if_neg (Ne.symm hk)]
      · rfl

theorem get?_eq_some_iff [LawfulEqOrd κ] {m : OrderedMap κ α} {k : κ} {v : α} :
    m.get? k = some v ↔ (k, v) ∈ m.toList := by
  obtain ⟨ps, h⟩ := m
  simp only [get?]
  induction ps with
  | nil => simp [lookupList]
  | cons p ps ih =>
    obtain ⟨k', v'⟩ := p
    obtain ⟨hp, hps⟩ := List.pairwise_cons.1 h
    have ih := ih hps
    simp only [lookupList, List.mem_cons, Prod.mk.injEq]
    split
    · next hk =>
      have hk : k = k' := LawfulEqOrd.eq_of_compare (by simpa using hk)
      subst hk
      constructor
      · rintro ⟨⟩
        exact .inl ⟨rfl, rfl⟩
      · rintro (⟨-, rfl⟩ | hmem)
        · rfl
        · have hself := hp _ hmem
          simp [Std.ReflOrd.compare_self] at hself
    · next hk =>
      have hk : ¬ k = k' := by
        rintro rfl
        simp [Std.ReflOrd.compare_self] at hk
      simp [ih, hk]

section
variable [TransOrd κ] [LawfulEqOrd κ]

theorem ext_get? {m n : OrderedMap κ α} (h : ∀ k, m.get? k = n.get? k) : m = n := by
  have irrefl : ∀ x : κ, ¬ compare x x = .lt := by
    intro x hx
    rw [Std.ReflOrd.compare_self] at hx
    cases hx
  have key : ∀ (l l' : List (κ × α)), l.Pairwise (fun p q => compare p.1 q.1 = .lt) →
      l'.Pairwise (fun p q => compare p.1 q.1 = .lt) → (∀ p, p ∈ l ↔ p ∈ l') → l = l' := by
    intro l
    induction l with
    | nil =>
      intro l' _ _ h
      cases l' with
      | nil => rfl
      | cons p ps => exact absurd ((h p).2 (.head _)) (by simp)
    | cons p ps ih =>
      intro l' hl hl' h
      cases l' with
      | nil => exact absurd ((h p).1 (.head _)) (by simp)
      | cons q qs =>
        obtain ⟨hp, hps⟩ := List.pairwise_cons.1 hl
        obtain ⟨hq, hqs⟩ := List.pairwise_cons.1 hl'
        have hpq : p = q := by
          rcases List.mem_cons.1 ((h p).1 (.head _)) with e | e
          · exact e
          · rcases List.mem_cons.1 ((h q).2 (.head _)) with e' | e'
            · exact e'.symm
            · exact absurd (Std.TransCmp.lt_trans (hp q e') (hq p e)) (irrefl _)
        subst hpq
        congr 1
        refine ih qs hps hqs fun x => ⟨fun hx => ?_, fun hx => ?_⟩
        · rcases List.mem_cons.1 ((h x).1 (.tail _ hx)) with rfl | hx'
          · exact absurd (hp x hx) (irrefl _)
          · exact hx'
        · rcases List.mem_cons.1 ((h x).2 (.tail _ hx)) with rfl | hx'
          · exact absurd (hq x hx) (irrefl _)
          · exact hx'
  have hlist : m.toList = n.toList := by
    refine key _ _ m.ascending n.ascending fun p => ?_
    have := h p.1
    rw [← get?_eq_some_iff (m := m), ← get?_eq_some_iff (m := n), this]
  cases m; cases n
  subst hlist
  rfl

end

instance [DecidableEq κ] [DecidableEq α] : DecidableEq (OrderedMap κ α) := fun m n =>
  decidable_of_iff (m.toList = n.toList)
    ⟨fun h => by cases m; cases n; subst h; rfl, fun h => h ▸ rfl⟩

end OrderedMap

end ClusterKeeper
