import ClusterKeeper.Toml.Document

/-!
# `Proofs/Toml/Entries.lean` — what the entries of a document have in common

However a document is written, no two entries of its outermost table have the same name, and an
entry that is an integer fits 64 bits with sign (`Table.WellFormed`). The first is so because
nothing that adds to a table adds under a name that is there; the second because every integer comes
from the one reader that looks at its size. So what is said of well-formed tables is said of every
document (`wellFormed_of_read`).
-/

set_option autoImplicit false

namespace ClusterKeeper.Toml

variable {α β : Type}

/-- An integer fits 64 bits with sign. -/
def Value.InRange (v : Value) : Prop :=
  ∀ n, v = .integer n → -(signedLimit : Int) ≤ n ∧ n < signedLimit

/-- Entries as the outermost table of a document may have them. -/
structure Table.WellFormed (t : Table) : Prop where
  distinct : (t.map Prod.fst).Nodup
  inRange : ∀ e ∈ t, e.2.InRange

theorem Value.inRange_table (origin : Origin) (entries : Table) : (table origin entries).InRange :=
  fun _ h => by cases h

theorem Value.inRange_tables (rows : List Table) : (tables rows).InRange := fun _ h => by cases h

/-! ## 1. Adding to a table -/

namespace Table

variable {t t' : Table} {name : String} {v : Value}

theorem not_mem_names (h : t.lookup name = none) : name ∉ t.map Prod.fst := by
  intro hmem
  obtain ⟨e, he, rfl⟩ := List.mem_map.1 hmem
  simpa using List.lookup_eq_none_iff.1 h e he

theorem wellFormed_nil : WellFormed [] := ⟨.nil, fun _ h => absurd h List.not_mem_nil⟩

theorem WellFormed.append (h : t.WellFormed) (hname : name ∉ t.map Prod.fst) (hv : v.InRange) :
    WellFormed (t ++ [(name, v)]) where
  distinct := by
    rw [List.map_append, List.nodup_append]
    refine ⟨h.distinct, List.pairwise_singleton _ _, fun n hn n' hn' heq => hname ?_⟩
    obtain rfl : n' = name := List.mem_singleton.1 hn'
    exact heq ▸ hn
  inRange e he := by
    rcases List.mem_append.1 he with he | he
    · exact h.inRange e he
    · obtain rfl := List.mem_singleton.1 he
      exact hv

theorem map_fst_replace : (t.replace name v).map Prod.fst = t.map Prod.fst := by
  rw [replace, List.map_map]
  refine List.map_congr_left fun e _ => ?_
  dsimp only [Function.comp]
  split
  · next h => exact h.symm
  · rfl

theorem WellFormed.replace (h : t.WellFormed) (hv : v.InRange) : (t.replace name v).WellFormed where
  distinct := by
    rw [map_fst_replace]
    exact h.distinct
  inRange e he := by
    obtain ⟨e', he', rfl⟩ := List.mem_map.1 he
    split
    · exact hv
    · exact h.inRange e' he'

theorem WellFormed.filter (h : t.WellFormed) (p : String × Value → Bool) :
    WellFormed (t.filter p) where
  distinct := h.distinct.sublist (List.filter_sublist.map _)
  inRange e he := h.inRange e (List.mem_filter.1 he).1

/-- What is put further in goes into tables, old or new. -/
theorem WellFormed.insert {path : List String} (h : t.WellFormed) (hv : v.InRange)
    (hinsert : insert path name v t = some t') : t'.WellFormed := by
  cases path with
  | nil =>
    rw [Table.insert] at hinsert
    split at hinsert
    · cases hinsert
    · next hname =>
      cases hinsert
      exact h.append (not_mem_names (Option.not_isSome_iff_eq_none.1 hname)) hv
  | cons p path =>
    rw [Table.insert.eq_def] at hinsert
    dsimp only at hinsert
    split at hinsert
    · next hp =>
      obtain ⟨inner, -, hinner⟩ := Option.bind_eq_some_iff.1 hinsert
      cases hinner
      exact h.append (not_mem_names hp) (Value.inRange_table _ _)
    · obtain ⟨inner, -, hinner⟩ := Option.bind_eq_some_iff.1 hinsert
      cases hinner
      exact h.replace (Value.inRange_table _ _)
    · split at hinsert
      · cases hinsert
      · obtain ⟨inner, -, hinner⟩ := Option.bind_eq_some_iff.1 hinsert
        cases hinner
        exact h.replace (Value.inRange_table _ _)
    · split at hinsert
      · cases hinsert
      · obtain ⟨rows, -, hrows⟩ := Option.bind_eq_some_iff.1 hinsert
        cases hrows
        exact h.replace (Value.inRange_tables _)
    · cases hinsert

theorem WellFormed.insertAll {entries : List (Key × Value)} (h : t.WellFormed)
    (hentries : ∀ e ∈ entries, e.2.InRange) (hinsert : insertAll entries t = some t') :
    t'.WellFormed := by
  induction entries generalizing t with
  | nil =>
    cases hinsert
    exact h
  | cons e entries ih =>
    rw [Table.insertAll, List.foldlM_cons] at hinsert
    obtain ⟨t₁, hfirst, hrest⟩ := Option.bind_eq_some_iff.1 hinsert
    exact ih (h.insert (hentries e (.head _)) hfirst)
      (fun e he => hentries e (.tail _ he)) hrest

/-- What is changed further in is changed inside of tables. -/
theorem WellFormed.within {path : List String} {f : Table → Option Table}
    (hf : ∀ {t t'}, f t = some t' → t.WellFormed → t'.WellFormed) (h : t.WellFormed)
    (hwithin : within path f t = some t') : t'.WellFormed := by
  cases path with
  | nil => exact hf hwithin h
  | cons p path =>
    rw [Table.within.eq_def] at hwithin
    dsimp only at hwithin
    split at hwithin
    · next hp =>
      obtain ⟨inner, -, hinner⟩ := Option.bind_eq_some_iff.1 hwithin
      cases hinner
      exact h.append (not_mem_names hp) (Value.inRange_table _ _)
    · cases hwithin
    · obtain ⟨inner, -, hinner⟩ := Option.bind_eq_some_iff.1 hwithin
      cases hinner
      exact h.replace (Value.inRange_table _ _)
    · obtain ⟨rows, -, hrows⟩ := Option.bind_eq_some_iff.1 hwithin
      cases hrows
      exact h.replace (Value.inRange_tables _)
    · cases hwithin

theorem WellFormed.openTable {entries : List (Key × Value)}
    (hopen : openTable name entries t = some t') (h : t.WellFormed) : t'.WellFormed := by
  unfold Toml.openTable at hopen
  split at hopen
  · next hname =>
    obtain ⟨inner, -, hinner⟩ := Option.bind_eq_some_iff.1 hopen
    cases hinner
    exact h.append (not_mem_names hname) (Value.inRange_table _ _)
  · obtain ⟨inner, -, hinner⟩ := Option.bind_eq_some_iff.1 hopen
    cases hinner
    refine (h.filter _).append ?_ (Value.inRange_table _ _)
    simp
  · cases hopen

theorem WellFormed.openRow {entries : List (Key × Value)}
    (hopen : openRow name entries t = some t') (h : t.WellFormed) : t'.WellFormed := by
  unfold Toml.openRow at hopen
  split at hopen
  · next hname =>
    obtain ⟨inner, -, hinner⟩ := Option.bind_eq_some_iff.1 hopen
    cases hinner
    exact h.append (not_mem_names hname) (Value.inRange_tables _)
  · obtain ⟨inner, -, hinner⟩ := Option.bind_eq_some_iff.1 hopen
    cases hinner
    exact h.replace (Value.inRange_tables _)
  · cases hopen

end Table

/-! ## 2. What readers give -/

/-- Whatever the reader takes, this is true of what it gives. -/
def Gives (r : Reader α) (P : α → Prop) : Prop := ∀ cs a rest, r cs = some (a, rest) → P a

section
variable {r r' : Reader α} {P Q : α → Prop} {f : α → Reader β} {R : β → Prop}

theorem gives_any (r : Reader α) : Gives r fun _ => True := fun _ _ _ _ => trivial

theorem gives_pure {a : α} (h : P a) : Gives (pure a) P := by
  intro cs b rest hb
  cases hb
  exact h

theorem gives_failure : Gives (failure : Reader α) P := fun _ _ _ h => by cases h

theorem Gives.bind (h : Gives r Q) (hf : ∀ a, Q a → Gives (f a) R) : Gives (r >>= f) R := by
  intro cs b rest hb
  obtain ⟨⟨a, left⟩, ha, hb⟩ := Option.bind_eq_some_iff.1 hb
  exact hf a (h cs a left ha) left b rest hb

/-- Where it does not matter what was read before. -/
theorem gives_bind (hf : ∀ a, Gives (f a) R) : Gives (r >>= f) R :=
  (gives_any r).bind fun a _ => hf a

theorem Gives.orElse (h : Gives r P) (h' : Gives r' P) : Gives (r <|> r') P := by
  intro cs a rest ha
  replace ha : (r cs <|> r' cs) = some (a, rest) := ha
  cases hr : r cs with
  | some found =>
    rw [hr] at ha
    exact h cs a rest (hr.trans ha)
  | none =>
    rw [hr] at ha
    exact h' cs a rest ha

end

theorem integerOf_gives (negative : Bool) (n : Nat) :
    Gives (integerOf negative n) fun i => -(signedLimit : Int) ≤ i ∧ i < signedLimit := by
  have hpositive : 0 < signedLimit := by decide
  unfold integerOf
  split
  · split
    · exact gives_pure ⟨by omega, by omega⟩
    · exact gives_failure
  · split
    · exact gives_pure ⟨by omega, by omega⟩
    · exact gives_failure

theorem integer_gives : Gives integer fun i => -(signedLimit : Int) ≤ i ∧ i < signedLimit := by
  have hmarked (mark : Char) (base : Nat) (isDigit : Char → Bool) :
      Gives (markedInteger mark base isDigit) fun i => -(signedLimit : Int) ≤ i ∧ i < signedLimit :=
    gives_bind fun _ => gives_bind fun _ => gives_bind fun _ => integerOf_gives _ _
  exact (hmarked _ _ _).orElse ((hmarked _ _ _).orElse ((hmarked _ _ _).orElse
    (gives_bind fun _ => integerOf_gives _ _)))

theorem valueWith_gives (nested : Option (Reader Value)) :
    Gives (valueWith nested) Value.InRange := by
  refine gives_bind fun next => ?_
  split
  · exact gives_bind fun _ => gives_pure fun _ h => by cases h
  · exact gives_bind fun _ => gives_pure fun _ h => by cases h
  · exact gives_bind fun _ => gives_bind fun _ => gives_pure fun _ h => by cases h
  · exact gives_bind fun _ => gives_bind fun _ => gives_pure (Value.inRange_table _ _)
  · exact gives_bind fun _ => gives_pure fun _ h => by cases h
  · exact gives_bind fun _ => gives_pure fun _ h => by cases h
  · refine Gives.orElse ?_ (Gives.orElse ?_ ?_)
    · exact gives_bind fun _ => gives_pure fun _ h => by cases h
    · exact gives_bind fun _ => gives_pure fun _ h => by cases h
    · refine integer_gives.bind fun i hi => gives_pure fun n h => ?_
      cases h
      exact hi

theorem value_gives (depth : Nat) : Gives (value depth) Value.InRange := by
  cases depth with
  | zero => exact valueWith_gives none
  | succ depth => exact valueWith_gives (some (value depth))

/-! ## 3. Documents -/

/-- A value that a statement puts under a name. -/
def Statement.InRange : Statement → Prop
  | entry _ v => v.InRange
  | _ => True

theorem header_gives : Gives header Statement.InRange := by
  refine gives_bind fun _ => gives_bind fun next => ?_
  split
  · exact gives_bind fun _ => gives_bind fun _ => gives_bind fun _ => gives_bind fun _ =>
      gives_pure trivial
  · exact gives_bind fun _ => gives_bind fun _ => gives_bind fun _ => gives_pure trivial

theorem statements_gives (fuel : Nat) :
    Gives (statements fuel) fun lines => ∀ s ∈ lines, s.InRange := by
  induction fuel with
  | zero => exact gives_failure
  | succ fuel ih =>
    refine gives_bind fun _ => gives_bind fun next => ?_
    split
    · exact gives_pure fun _ h => absurd h List.not_mem_nil
    · exact gives_bind fun _ => ih
    · exact gives_bind fun _ => ih
    · exact gives_bind fun _ => ih
    · refine header_gives.bind fun s hs => ih.bind fun lines hlines => gives_pure ?_
      exact List.forall_mem_cons.2 ⟨hs, hlines⟩
    · have hentry : Gives (entry (value (nestingLimit - 1))) fun e => e.2.InRange :=
        gives_bind fun _ => gives_bind fun _ => gives_bind fun _ =>
          (value_gives _).bind fun v hv => gives_pure hv
      refine hentry.bind fun e he => gives_bind fun _ => ih.bind fun lines hlines => gives_pure ?_
      exact List.forall_mem_cons.2 ⟨he, hlines⟩

theorem leadingEntries_inRange {lines : List Statement} (h : ∀ s ∈ lines, s.InRange) :
    ∀ e ∈ (leadingEntries lines).1, e.2.InRange := by
  induction lines with
  | nil => exact fun _ he => absurd he List.not_mem_nil
  | cons s lines ih =>
    obtain ⟨hs, hlines⟩ := List.forall_mem_cons.1 h
    cases s with
    | entry k v => exact List.forall_mem_cons.2 ⟨hs, ih hlines⟩
    | header | row => exact fun _ he => absurd he List.not_mem_nil

theorem Table.WellFormed.addSections {lines : List Statement} {t t' : Table} (h : t.WellFormed)
    (hadd : addSections lines t = some t') : t'.WellFormed := by
  induction lines generalizing t with
  | nil =>
    cases hadd
    exact h
  | cons s lines ih =>
    cases s with
    | entry k v => exact ih h hadd
    | header k =>
      obtain ⟨t₁, hfirst, hrest⟩ := Option.bind_eq_some_iff.1 hadd
      exact ih (h.within (fun hopen ht => ht.openTable hopen) hfirst) hrest
    | row k =>
      obtain ⟨t₁, hfirst, hrest⟩ := Option.bind_eq_some_iff.1 hadd
      exact ih (h.within (fun hopen ht => ht.openRow hopen) hfirst) hrest

theorem wellFormed_of_read {text : String} {t : Table} (h : read text = some t) : t.WellFormed := by
  obtain ⟨⟨lines, rest⟩, hlines, htable⟩ := Option.bind_eq_some_iff.1 h
  obtain ⟨first, hfirst, hsections⟩ := Option.bind_eq_some_iff.1 htable
  have hrange := statements_gives _ _ _ _ hlines
  have hwell := Table.wellFormed_nil.insertAll (leadingEntries_inRange hrange) hfirst
  exact hwell.addSections hsections

end ClusterKeeper.Toml
