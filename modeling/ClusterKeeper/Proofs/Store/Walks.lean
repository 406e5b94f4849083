import ClusterKeeper.Proofs.Store.Paths
import Mathlib.Data.List.DropRight

/-!
# `Proofs/Store/Walks.lean` — the names on the way

Which directories a path goes through is spelled out in its parts. The path above it has the same
parts up to the last name (`FilePath.parent_prefix`, `FilePath.names_parent`), and where a directory
is found one is found at every path whose parts come first (`FileSystem.find_of_prefix`).

Two points undo a name, so in general the names of a path say nothing about the place it leads to.
Without them they are the place: `FileSystem.walk_names` for directories and
`FileSystem.names_of_locate` for a name in one.
-/

set_option autoImplicit false

namespace ClusterKeeper

/-! ## 1. The paths above a path -/

namespace FilePath

theorem trimEnd_eq (parts : List String) : trimEnd parts = parts.rdropWhile (!leads ·) := rfl

theorem trimEnd_begins (parts : List String) : trimEnd parts <+: parts :=
  List.rdropWhile_prefix (p := (!leads ·)) parts

theorem filter_trimEnd (parts : List String) :
    (trimEnd parts).filter leads = parts.filter leads := by
  induction parts using List.reverseRecOn with
  | nil => rfl
  | append_singleton xs x ih =>
    cases hx : leads x with
    | false =>
      rw [trimEnd_eq, List.rdropWhile_concat_pos _ _ _ (by simp [hx]), List.filter_append]
      simpa [hx, ← trimEnd_eq] using ih
    | true => rw [trimEnd_eq, List.rdropWhile_concat_neg _ _ _ (by simp [hx])]

theorem parent_prefix (p : FilePath) : p.parent.parts <+: p.parts :=
  ((trimEnd_begins _).trans (List.dropLast_prefix _)).trans (trimEnd_begins _)

theorem names_parent (p : FilePath) : p.parent.names = p.names.dropLast := by
  have hbefore : p.parent.names = p.beforeName.filter leads := filter_trimEnd _
  rw [hbefore, names, beforeName, ← filter_trimEnd p.parts]
  rcases List.eq_nil_or_concat (trimEnd p.parts) with hnil | ⟨xs, x, hx⟩
  · rw [hnil]
    rfl
  · have hlast : leads x = true := by
      have hne : trimEnd p.parts ≠ [] := by simp [hx]
      have hnot := List.rdropWhile_last_not (p := (!leads ·)) p.parts hne
      have hl : (trimEnd p.parts).getLast hne = x := by simp [hx]
      simpa [trimEnd_eq, ← hl] using hnot
    rw [hx]
    simp [List.filter_append, hlast]

theorem prefix_of_mem_ancestors {p q : FilePath} (h : q ∈ p.ancestors) : q.parts <+: p.parts := by
  have hall : ∀ n p, ∀ q ∈ withAbove n p, q.parts <+: p.parts := by
    intro n
    induction n with
    | zero =>
      intro p q hq
      obtain rfl := List.mem_singleton.1 hq
      exact List.prefix_rfl
    | succ n ih =>
      intro p q hq
      rcases List.mem_cons.1 hq with rfl | hq
      · exact List.prefix_rfl
      · exact (ih p.parent q hq).trans p.parent_prefix
  exact hall _ p q h

theorem size_le_of_prefix {p q : FilePath} (h : q.parts <+: p.parts) : q.size ≤ p.size := by
  have hgrows : ∀ (parts : List String) (n : Nat),
      n ≤ parts.foldl (fun n part => n + part.utf8ByteSize + 1) n := by
    intro parts
    induction parts with
    | nil => exact fun n => Nat.le_refl n
    | cons part parts ih =>
      intro n
      have := ih (n + part.utf8ByteSize + 1)
      simp only [List.foldl_cons]
      omega
  obtain ⟨more, hmore⟩ := h
  rw [size, size, ← hmore, List.foldl_append]
  exact hgrows more _

theorem holds_of_prefix {p q : FilePath} {c : Char} (h : q.parts <+: p.parts)
    (hc : q.holds c = true) : p.holds c = true := by
  rw [holds, List.any_eq_true] at hc ⊢
  obtain ⟨part, hpart, hc⟩ := hc
  exact ⟨part, h.subset hpart, hc⟩

/-- The temporary path of a path with a file's name has another name, whatever name that is. -/
theorem names_withExtension_ne {p : FilePath} {name : String} (h : p.name? = some name) :
    (p.withExtension "json.tmp").names ≠ p.names := by
  have hlast : p.names.getLast? = some name ∧ name ≠ ".." := by
    unfold name? at h
    split at h
    · cases h
    · next hdown => exact ⟨h, fun heq => hdown (h.trans (congrArg some heq))⟩
  intro hnames
  rw [← hnames, names, withExtension, h] at hlast
  obtain ⟨hlast, hdown⟩ := hlast
  dsimp only at hlast
  split at hlast
  · -- Only the way up is left of the name.
    rw [List.filter_append, List.filter_cons_of_pos (by decide), List.filter_nil,
      List.getLast?_concat] at hlast
    exact hdown (Option.some.inj hlast).symm
  · have hleads : leads (stem name ++ "." ++ "json.tmp") = true := by
      have hlong : 8 ≤ (stem name ++ "." ++ "json.tmp").length := by
        rw [String.length_append]
        exact Nat.le_add_left _ _
      simp only [leads, Bool.and_eq_true, decide_eq_true_eq]
      constructor <;> intro heq <;> rw [heq] at hlong <;> exact absurd hlong (by decide)
    rw [List.filter_append, List.filter_cons_of_pos hleads, List.filter_nil,
      List.getLast?_concat] at hlast
    exact extended_ne name (Option.some.inj hlast)

end FilePath

namespace FileSystem

variable {fs : FileSystem}

/-! ## 2. Walks in two parts -/

theorem walk_append (fs : FileSystem) (here xs ys : List String) :
    fs.walk here (xs ++ ys) = fs.walk here xs >>= fun d => fs.walk d ys := by
  induction xs generalizing here with
  | nil => rfl
  | cons x xs ih =>
    rw [List.cons_append, walk, walk]
    split
    · exact ih _
    · split
      · exact ih _
      · split
        · rfl
        · rfl
        · rfl
        · exact ih _

theorem walk_filter (fs : FileSystem) (here parts : List String) :
    fs.walk here (parts.filter (· ≠ "")) = fs.walk here parts := by
  induction parts generalizing here with
  | nil => rfl
  | cons x xs ih =>
    by_cases hx : x = ""
    · subst hx
      rw [List.filter_cons_of_neg (by simp), ih, walk]
      rfl
    · rw [List.filter_cons_of_pos (by simpa using hx), walk, walk]
      split
      · exact ih _
      · split
        · exact ih _
        · split
          · rfl
          · rfl
          · rfl
          · exact ih _

theorem walk_singleton {d : List String} {name : String} (hleads : FilePath.leads name = true)
    (hdown : name ≠ "..") :
    (∃ d', fs.walk d [name] = .ok d') ↔ fs.child d name = .ok (some .directory) := by
  rw [walk, if_neg (by simp [hleads]), if_neg hdown]
  cases fs.child d name with
  | error e => simp
  | ok entry =>
    cases entry with
    | none => simp
    | some entry => cases entry <;> simp [walk]

/-! ## 3. What is found, and where -/

theorem find_file_iff {p : FilePath} {id : ContentId} :
    fs.find p = .ok (.file id) ↔ ∃ d name, fs.locate p = .ok (.entry d name false) ∧
      fs.child d name = .ok (some (.file id)) := by
  unfold find
  split
  · next hl => simp [hl]
  · next hl => simp [hl]
  · next d name closed hl =>
    rw [hl]
    cases hc : fs.child d name with
    | error e => simp_all
    | ok there =>
      cases there with
      | none => simp_all
      | some there => cases there <;> cases closed <;> simp_all

/-- There is a directory at a path if the path can be walked to its end. -/
theorem find_directory_iff {p : FilePath} :
    fs.find p = .ok .directory ↔
      (p.holds '\x00' = false ∧ p.size ≤ longestPath) ∧ ∃ d, fs.walk [] p.parts = .ok d := by
  rw [← walk_filter]
  by_cases hnul : p.holds '\x00' = true
  · simp [find, locate, hnul]
  by_cases hsize : longestPath < p.size
  · simp [find, locate, hnul, hsize, Nat.not_le.2 hsize]
  have hpassable : p.holds '\x00' = false ∧ p.size ≤ longestPath :=
    ⟨Bool.eq_false_iff.2 hnul, Nat.le_of_not_lt hsize⟩
  rw [and_iff_right hpassable, find, locate, if_neg hnul, if_neg hsize]
  have hfilter : ∀ part ∈ p.parts.filter (· ≠ ""), part ≠ "" :=
    fun part hpart => by simpa using (List.mem_filter.1 hpart).2
  generalize p.parts.filter (· ≠ "") = parts at hfilter
  rcases List.eq_nil_or_concat parts with rfl | ⟨front, last, rfl⟩
  · simp [walk]
  · have hlast : last ≠ "" := hfilter last (by simp)
    simp only [List.concat_eq_append, List.getLast?_concat, List.dropLast_concat]
    by_cases hpoints : last = "." ∨ last = ".."
    · rw [if_pos (by simpa using hpoints)]
      cases fs.walk [] (front ++ [last]) with
      | error e => simp [Functor.map, Except.map]
      | ok d => simp [Functor.map, Except.map]
    · rw [if_neg (by simpa using hpoints), walk_append]
      cases fs.walk [] front with
      | error e => simp [Functor.map, Except.map, bind, Except.bind]
      | ok d =>
        have hleads : FilePath.leads last = true := by simp_all [FilePath.leads]
        have hstep : (∃ d', fs.walk d [last] = .ok d') ↔ fs.child d last = .ok (some .directory) :=
          walk_singleton hleads fun h => hpoints (.inr h)
        simp only [Functor.map, Except.map, bind, Except.bind, hstep]
        cases fs.child d last with
        | error e => simp
        | ok entry =>
          cases entry with
          | none => simp
          | some entry => cases entry <;> simp [ite_eq_iff]

/-- Where there is a directory, there is one at every path whose parts come first. -/
theorem find_of_prefix {p : FilePath} (h : fs.find p = .ok .directory) {q : FilePath}
    (hq : q.parts <+: p.parts) : fs.find q = .ok .directory := by
  obtain ⟨⟨hnul, hsize⟩, d, hd⟩ := find_directory_iff.1 h
  refine find_directory_iff.2 ⟨⟨?_, Nat.le_trans (FilePath.size_le_of_prefix hq) hsize⟩, ?_⟩
  · refine Bool.eq_false_iff.2 fun hc => ?_
    rw [FilePath.holds_of_prefix hq hc] at hnul
    cases hnul
  · obtain ⟨more, hmore⟩ := hq
    rw [← hmore, walk_append] at hd
    cases hw : fs.walk [] q.parts with
    | ok d' => exact ⟨d', rfl⟩
    | error e =>
      rw [hw] at hd
      cases hd

/-! ## 4. Paths that never go up -/

/-- Without steps upwards, a path leads through the directories that it names. -/
theorem walk_names {here parts d : List String} (hup : ".." ∉ parts)
    (h : fs.walk here parts = .ok d) : d = here ++ parts.filter FilePath.leads := by
  induction parts generalizing here with
  | nil =>
    cases h
    simp
  | cons part rest ih =>
    have hrest : ".." ∉ rest := fun hr => hup (.tail _ hr)
    rw [walk] at h
    split at h
    · next hleads =>
      rw [List.filter_cons_of_neg (by simpa using hleads)]
      exact ih hrest h
    · next hleads =>
      rw [if_neg fun (hpart : part = "..") => hup (hpart ▸ .head _)] at h
      rw [List.filter_cons_of_pos (by simpa using hleads)]
      split at h
      · cases h
      · cases h
      · cases h
      · rw [ih hrest h]
        simp

/-- Such a path leads to a name in a directory by the names of that directory and this one. -/
theorem names_of_locate {p : FilePath} (hup : ".." ∉ p.parts) {d : List String} {name : String}
    {closed : Bool} (h : fs.locate p = .ok (.entry d name closed)) : p.names = d ++ [name] := by
  obtain ⟨-, -, hpoint, -, front, hparts, hwalk⟩ := locate_entry_iff.1 h
  have hmem : ∀ part ∈ front ++ [name], part ∈ p.parts ∧ part ≠ "" := by
    intro part hpart
    rw [← hparts] at hpart
    simpa using hpart
  have hleads : FilePath.leads name = true := by
    have hname := (hmem name (by simp)).2
    simp [FilePath.leads, hname, hpoint]
  have hnames : p.names = (p.parts.filter (· ≠ "")).filter FilePath.leads := by
    rw [FilePath.names, List.filter_filter]
    refine List.filter_congr fun part _ => ?_
    by_cases hpart : part = "" <;> simp [FilePath.leads, hpart]
  have hd := walk_names (fun hf => hup (hmem _ (List.mem_append_left _ hf)).1) hwalk
  rw [hnames, hparts, List.filter_append, List.filter_cons_of_pos hleads, List.filter_nil, hd,
    List.nil_append]

end FileSystem

end ClusterKeeper
