import ClusterKeeper.Store.File

/-!
# `Proofs/Store/Paths.lean` — where paths lead

A path that leads to a name ends in it, and the parts before it lead to the directory of that name
(`FileSystem.endsIn_of_locate`). How it leads there depends on the directories alone
(`FileSystem.locate_mono`): no file that comes, goes or changes has a say in it. And making a
directory takes nothing away (`FileSystem.grown_makeDirectories`).

The temporary file of a store stands beside its file and never under the same name
(`FilePath.extended_ne`), whatever points the name has.
-/

set_option autoImplicit false

namespace ClusterKeeper

namespace FilePath

/-! ## 1. Names and extensions -/

/-- Without its extension, a name with one more extension is the name. -/
theorem stem_append {base extension : String} (hbase : base ≠ "")
    (hext : '.' ∉ extension.toList) : stem (base ++ "." ++ extension) = base := by
  have hne : base.toList.reverse ≠ [] := by simpa using hbase
  obtain ⟨c, cs, hcs⟩ := List.exists_cons_of_ne_nil hne
  have hlist : (base ++ "." ++ extension).toList.reverse =
      extension.toList.reverse ++ '.' :: c :: cs := by
    simp [hcs]
  have hdrop : (base ++ "." ++ extension).toList.reverse.dropWhile (· ≠ '.') = '.' :: c :: cs := by
    rw [hlist, List.dropWhile_append_of_pos]
    · simp
    · intro x hx
      have : x ≠ '.' := by
        rintro rfl
        exact hext (List.mem_reverse.1 hx)
      simpa using this
  rw [stem]
  simp only [hdrop]
  rw [← hcs, List.reverse_reverse, String.ofList_toList]

/-- A name whose extension is replaced by this one is another name. -/
theorem extended_ne (name : String) : stem name ++ "." ++ "json.tmp" ≠ name := by
  intro h
  have hsplit : stem name ++ "." ++ "json.tmp" = (stem name ++ ".json") ++ "." ++ "tmp" := by
    apply String.toList_inj.1
    simp
  -- Its stem would be longer than its stem.
  have hstem : stem (stem name ++ "." ++ "json.tmp") = stem name ++ ".json" := by
    rw [hsplit]
    exact stem_append (by simp) (by decide)
  rw [h] at hstem
  have hlength := congrArg (fun s => s.toList.length) hstem
  simp at hlength

/-- The path ends in a name, with these parts before it. -/
structure EndsIn (p : FilePath) (front : List String) (name : String) : Prop where
  parts : p.parts = front ++ [name]
  leads : leads name = true
  down : name ≠ ".."

section
variable {p : FilePath} {front : List String} {name : String} (h : p.EndsIn front name)

include h

theorem EndsIn.name? : p.name? = some name := by
  have hlast : p.names.getLast? = some name := by
    rw [names, h.parts, List.filter_append, List.filter_cons_of_pos h.leads]
    simp
  rw [FilePath.name?, hlast]
  split
  · next heq => exact absurd (Option.some.inj heq) h.down
  · rfl

theorem EndsIn.beforeName : p.beforeName = front := by
  have hparts : p.parts.reverse = name :: front.reverse := by
    rw [h.parts]
    simp
  rw [FilePath.beforeName, trimEnd, hparts, List.dropWhile_cons_of_neg (by simp [h.leads])]
  simp

theorem EndsIn.withExtension (extension : String) :
    p.withExtension extension =
      if stem name = "." then ⟨front ++ [".."]⟩
      else ⟨front ++ [stem name ++ "." ++ extension]⟩ := by
  have hlast : p.parts.getLast? = some name := by
    rw [h.parts]
    simp
  rw [FilePath.withExtension, h.name?]
  simp [h.beforeName, hlast]

end

end FilePath

namespace FileSystem

variable {fs fs' : FileSystem}

/-! ## 2. Directories decide where a path leads -/

/-- What it takes for a path to lead to a name in a directory. -/
theorem locate_entry_iff {p : FilePath} {d : List String} {name : String} {closed : Bool} :
    fs.locate p = .ok (.entry d name closed) ↔
      (p.holds '\x00' = false ∧ p.size ≤ longestPath) ∧
        closed = decide (p.parts.getLast? = some "") ∧ name ≠ "." ∧ name ≠ ".." ∧
          ∃ front, p.parts.filter (· ≠ "") = front ++ [name] ∧ fs.walk [] front = .ok d := by
  unfold locate
  by_cases hnul : p.holds '\x00' = true
  · simp [hnul]
  by_cases hsize : longestPath < p.size
  · simp [hnul, hsize, Nat.not_le.2 hsize]
  have hpassable : p.holds '\x00' = false ∧ p.size ≤ longestPath :=
    ⟨Bool.eq_false_iff.2 hnul, Nat.le_of_not_lt hsize⟩
  rw [if_neg hnul, if_neg hsize, and_iff_right hpassable]
  dsimp only
  generalize p.parts.filter (· ≠ "") = parts
  rcases List.eq_nil_or_concat parts with rfl | ⟨front, last, rfl⟩
  · simp
  simp only [List.concat_eq_append, List.getLast?_concat, List.dropLast_concat]
  by_cases hpoints : last = "." ∨ last = ".."
  · rw [if_pos (by simpa using hpoints)]
    constructor
    · intro h
      cases hw : fs.walk [] (front ++ [last]) <;> rw [hw] at h <;> cases h
    · rintro ⟨-, hpoint, hup, front', hparts, -⟩
      obtain rfl := List.singleton_inj.1 (List.append_inj' hparts rfl).2
      exact absurd hpoints (not_or.2 ⟨hpoint, hup⟩)
  · rw [if_neg (by simpa using hpoints)]
    constructor
    · intro h
      cases hw : fs.walk [] front with
      | error e =>
        rw [hw] at h
        cases h
      | ok d' =>
        rw [hw] at h
        cases h
        exact ⟨rfl, fun he => hpoints (.inl he), fun he => hpoints (.inr he), front, rfl, hw⟩
    · rintro ⟨rfl, -, -, front', hparts, hw⟩
      obtain ⟨rfl, hlast⟩ := List.append_inj' hparts rfl
      obtain rfl := List.singleton_inj.1 hlast
      rw [hw]
      rfl

/-- A path that leads to a name, and asks for no directory, ends in it. -/
theorem endsIn_of_locate {p : FilePath} {d : List String} {name : String}
    (h : fs.locate p = .ok (.entry d name false)) :
    ∃ front, p.EndsIn front name ∧ fs.walk [] (front.filter (· ≠ "")) = .ok d := by
  obtain ⟨-, hopen, hpoint, hdown, named, hnamed, hwalk⟩ := locate_entry_iff.1 h
  have hopen : p.parts.getLast? ≠ some "" := of_decide_eq_false hopen.symm
  rcases List.eq_nil_or_concat p.parts with hnil | ⟨front, x, hparts⟩
  · rw [hnil] at hnamed
    simp at hnamed
  -- The last part is not empty, so it is the name.
  rw [List.concat_eq_append] at hparts
  have hx : x ≠ "" := by
    rintro rfl
    exact hopen (by rw [hparts]; simp)
  rw [hparts, List.filter_append, List.filter_cons_of_pos (by simpa using hx)] at hnamed
  obtain ⟨rfl, hname⟩ := List.append_inj' hnamed rfl
  obtain rfl := List.singleton_inj.1 hname
  exact ⟨front, ⟨hparts, by simp [FilePath.leads, hx, hpoint], hdown⟩, hwalk⟩

theorem child_eq_ok {d : List String} {name : String} {e : Option FileEntry} :
    fs.child d name = .ok e ↔
      ¬ longestName < name.utf8ByteSize ∧ fs.entries.get? (d ++ [name]) = e := by
  unfold child
  split
  · next hlong => simp [hlong]
  · next hlong => simp [hlong]

/-- Every directory of the one file system is one of the other, too. -/
def DirectoriesIn (fs fs' : FileSystem) : Prop :=
  ∀ k, fs.entries.get? k = some .directory → fs'.entries.get? k = some .directory

section
variable (hdir : fs.DirectoriesIn fs')

include hdir

theorem child_mono {d : List String} {name : String}
    (h : fs.child d name = .ok (some .directory)) : fs'.child d name = .ok (some .directory) := by
  obtain ⟨hlong, he⟩ := child_eq_ok.1 h
  exact child_eq_ok.2 ⟨hlong, hdir _ he⟩

theorem walk_mono {here d parts : List String} (h : fs.walk here parts = .ok d) :
    fs'.walk here parts = .ok d := by
  induction parts generalizing here with
  | nil => exact h
  | cons part rest ih =>
    rw [walk] at h ⊢
    split
    · next hleads =>
      rw [if_pos hleads] at h
      exact ih h
    · next hleads =>
      rw [if_neg hleads] at h
      split
      · next hup =>
        rw [if_pos hup] at h
        exact ih h
      · next hup =>
        rw [if_neg hup] at h
        cases hc : fs.child here part with
        | error e =>
          rw [hc] at h
          cases h
        | ok e =>
          rw [hc] at h
          cases e with
          | none => cases h
          | some e =>
            cases e with
            | file id => cases h
            | directory =>
              rw [child_mono hdir hc]
              exact ih h

/-- Where a path leads it leads as long as the directories are there. -/
theorem locate_mono {p : FilePath} {place : Place} (h : fs.locate p = .ok place) :
    fs'.locate p = .ok place := by
  have hmap : ∀ {parts : List String} {f : List String → Place},
      f <$> fs.walk [] parts = .ok place → f <$> fs'.walk [] parts = .ok place := by
    intro parts f hf
    cases hw : fs.walk [] parts with
    | error e =>
      rw [hw] at hf
      cases hf
    | ok d =>
      rw [hw] at hf
      rw [walk_mono hdir hw]
      exact hf
  unfold locate at h ⊢
  split
  · next hchar =>
    rw [if_pos hchar] at h
    cases h
  next hchar =>
  rw [if_neg hchar] at h
  split
  · next hsize =>
    rw [if_pos hsize] at h
    cases h
  next hsize =>
  rw [if_neg hsize] at h
  dsimp only at h ⊢
  split
  · next hlast =>
    rw [hlast] at h
    exact h
  next last hlast =>
  rw [hlast] at h
  dsimp only at h
  split
  · next hpoints =>
    rw [if_pos hpoints] at h
    exact hmap h
  · next hpoints =>
    rw [if_neg hpoints] at h
    exact hmap h

theorem find_directory_mono {p : FilePath} (h : fs.find p = .ok .directory) :
    fs'.find p = .ok .directory := by
  unfold find at h ⊢
  cases hl : fs.locate p with
  | error e =>
    rw [hl] at h
    cases h
  | ok place =>
    rw [hl] at h
    rw [locate_mono hdir hl]
    cases place with
    | directory d => rfl
    | entry d name closed =>
      dsimp only at h ⊢
      cases hc : fs.child d name with
      | error e =>
        rw [hc] at h
        cases h
      | ok e =>
        rw [hc] at h
        cases e with
        | none => cases h
        | some e =>
          cases e with
          | directory => rw [child_mono hdir hc]
          | file id =>
            dsimp only at h
            split at h <;> cases h

end

/-! ## 3. Making directories -/

/-- The file system with more directories and nothing else. -/
structure Grown (fs fs' : FileSystem) : Prop where
  contents : fs'.contents = fs.contents
  nextId : fs'.nextId = fs.nextId
  kept : ∀ k e, fs.entries.get? k = some e → fs'.entries.get? k = some e
  files : ∀ k id, fs'.entries.get? k = some (.file id) → fs.entries.get? k = some (.file id)

theorem Grown.refl (fs : FileSystem) : fs.Grown fs := ⟨rfl, rfl, fun _ _ h => h, fun _ _ h => h⟩

theorem Grown.trans {fs'' : FileSystem} (h : fs.Grown fs') (h' : fs'.Grown fs'') :
    fs.Grown fs'' where
  contents := h'.contents.trans h.contents
  nextId := h'.nextId.trans h.nextId
  kept k e hk := h'.kept k e (h.kept k e hk)
  files k id hk := h.files k id (h'.files k id hk)

theorem Grown.directories (h : fs.Grown fs') : fs.DirectoriesIn fs' := fun k hk => h.kept k _ hk

theorem grown_makeDirectory (fs : FileSystem) (p : FilePath) : fs.Grown (fs.makeDirectory p).1 := by
  unfold makeDirectory
  split
  · exact .refl fs
  · exact .refl fs
  · next d name closed _ =>
    split
    · exact .refl fs
    · exact .refl fs
    · next hchild =>
      have hfree := (child_eq_ok.1 hchild).2
      refine ⟨rfl, rfl, fun k e hk => ?_, fun k id hk => ?_⟩
      · rw [OrderedMap.get?_put, if_neg]
        · exact hk
        · rintro rfl
          rw [hfree] at hk
          cases hk
      · rw [OrderedMap.get?_put] at hk
        split at hk
        · cases hk
        · exact hk

theorem find_makeDirectory {p : FilePath} (h : fs.makeDirectory p = (fs', .ok ())) :
    fs'.find p = .ok .directory := by
  have hgrown := grown_makeDirectory fs p
  rw [h] at hgrown
  unfold makeDirectory at h
  split at h
  · cases h
  · cases h
  next d name closed hl =>
  split at h
  · cases h
  · cases h
  next hchild =>
  have hlong := (child_eq_ok.1 hchild).1
  cases h
  have hthere : (FileSystem.mk (fs.entries.put (d ++ [name]) .directory) fs.contents
      fs.nextId).child d name = .ok (some .directory) := by
    rw [child_eq_ok, OrderedMap.get?_put, if_pos rfl]
    exact ⟨hlong, rfl⟩
  rw [find, locate_mono hgrown.directories hl]
  simp only [hthere]

theorem makeDirectory_of_find {p : FilePath} (h : fs.find p = .ok .directory) :
    fs.makeDirectory p = (fs, .error .alreadyExists) := by
  unfold find at h
  unfold makeDirectory
  split
  · next hl =>
    rw [hl] at h
    cases h
  · rfl
  · next hl =>
    rw [hl] at h
    dsimp only at h
    split
    · next hc =>
      rw [hc] at h
      cases h
    · rfl
    · next hc =>
      rw [hc] at h
      cases h

theorem ensureDirectory_of_find {p : FilePath} (h : fs.find p = .ok .directory) :
    fs.ensureDirectory p = (fs, .ok ()) := by
  rw [ensureDirectory, makeDirectory_of_find h]
  simp [isDirectory, h]

theorem grown_ensureDirectory (fs : FileSystem) (p : FilePath) :
    fs.Grown (fs.ensureDirectory p).1 := by
  have hgrown := grown_makeDirectory fs p
  unfold ensureDirectory
  split
  · next hm =>
    rw [hm] at hgrown
    exact hgrown
  · exact hgrown

theorem find_ensureDirectory {p : FilePath} (h : fs.ensureDirectory p = (fs', .ok ())) :
    fs'.find p = .ok .directory := by
  unfold ensureDirectory at h
  split at h
  · next hm =>
    simp only [Prod.mk.injEq] at h
    obtain ⟨rfl, hdir⟩ := h
    split at hdir
    · next his =>
      unfold isDirectory at his
      split at his
      · next hfind => exact hfind
      · cases his
    · cases hdir
  · exact find_makeDirectory h

theorem grown_ensureFirst (fs : FileSystem) (ps : List FilePath) :
    fs.Grown (fs.ensureFirst ps).1 := by
  induction ps generalizing fs with
  | nil => exact .refl fs
  | cons p above ih =>
    rw [ensureFirst]
    have hgrown := grown_ensureDirectory fs p
    split
    · have habove := ih fs
      split
      · next hm =>
        rw [hm] at habove
        exact habove.trans (grown_ensureDirectory _ p)
      · exact habove
    · exact hgrown

theorem find_ensureFirst {p : FilePath} {above : List FilePath}
    (h : fs.ensureFirst (p :: above) = (fs', .ok ())) : fs'.find p = .ok .directory := by
  rw [ensureFirst] at h
  split at h
  · split at h
    · exact find_ensureDirectory h
    · next hfailed => exact absurd h (hfailed _)
  · exact find_ensureDirectory h

theorem ancestors_eq (p : FilePath) : ∃ above, p.ancestors = p :: above := by
  rw [FilePath.ancestors]
  cases p.names.length with
  | zero => exact ⟨[], rfl⟩
  | succ n => exact ⟨_, rfl⟩

theorem grown_makeDirectories (fs : FileSystem) (p : FilePath) :
    fs.Grown (fs.makeDirectories p).1 :=
  grown_ensureFirst fs p.ancestors

/-- What has been made is there. -/
theorem find_makeDirectories {p : FilePath} (h : fs.makeDirectories p = (fs', .ok ())) :
    fs'.find p = .ok .directory := by
  obtain ⟨above, habove⟩ := ancestors_eq p
  rw [makeDirectories, habove] at h
  exact find_ensureFirst h

/-- What is there is not made again. -/
theorem makeDirectories_of_find {p : FilePath} (h : fs.find p = .ok .directory) :
    fs.makeDirectories p = (fs, .ok ()) := by
  obtain ⟨above, habove⟩ := ancestors_eq p
  rw [makeDirectories, habove, ensureFirst, ensureDirectory_of_find h]

end FileSystem

end ClusterKeeper
