import ClusterKeeper.Proofs.Store.Calls
import ClusterKeeper.Proofs.Store.Paths
import Mathlib.Logic.Basic

/-!
# `Proofs/Store/Site.lean` — the two names a store works with

A store knows of two names, in one directory: that of its file and that of the temporary file
beside it. A `Site` says which they are, and `Site.Fits` that the file system is ready for the
store there: the directory has been made and neither name is that of a directory. That holds as
soon as a write that has the file system to itself gets through (`exists_fits`), and once it does
each step of a write or of a reading is about the two names alone:

* opening leaves an empty file under the temporary name,
* renaming gives that file the other name, if there is one, and
* reading finds what goes by the other name.

None of these steps makes or removes a directory, so the site goes on fitting.
-/

set_option autoImplicit false

namespace ClusterKeeper

/-- No file has two names, and no content is in use before its time. -/
structure FileSystem.Unlinked (fs : FileSystem) : Prop where
  single : ∀ k k' id, fs.entries.get? k = some (.file id) → fs.entries.get? k' = some (.file id) →
    k = k'
  used : ∀ k id, fs.entries.get? k = some (.file id) → id < fs.nextId

theorem FileSystem.Grown.unlinked {fs fs' : FileSystem} (h : fs.Grown fs') (hu : fs.Unlinked) :
    fs'.Unlinked where
  single k k' id hk hk' := hu.single k k' id (h.files k id hk) (h.files k' id hk')
  used k id hk := h.nextId ▸ hu.used k id (h.files k id hk)

/-- One more name for a file, if no other is left for it. -/
theorem FileSystem.Unlinked.put {fs fs' : FileSystem} (hu : fs.Unlinked)
    {entries : OrderedMap (List String) FileEntry} {k : List String} {id : ContentId}
    (hfiles : ∀ x j, entries.get? x = some (.file j) → fs.entries.get? x = some (.file j) ∧ j ≠ id)
    (hentries : fs'.entries = entries.put k (.file id)) (hid : id < fs'.nextId)
    (hnext : fs.nextId ≤ fs'.nextId) : fs'.Unlinked := by
  have hget : ∀ x j, fs'.entries.get? x = some (.file j) →
      (x = k ∧ j = id) ∨ (fs.entries.get? x = some (.file j) ∧ j ≠ id) := by
    intro x j hx
    rw [hentries, OrderedMap.get?_put] at hx
    split at hx
    · next hk =>
      cases hx
      exact .inl ⟨hk, rfl⟩
    · exact .inr (hfiles x j hx)
  refine ⟨fun x y j hx hy => ?_, fun x j hx => ?_⟩
  · rcases hget x j hx with ⟨rfl, rfl⟩ | ⟨hx, hne⟩
    · rcases hget y j hy with ⟨rfl, -⟩ | ⟨-, hne⟩
      · rfl
      · exact absurd rfl hne
    · rcases hget y j hy with ⟨rfl, rfl⟩ | ⟨hy, -⟩
      · exact absurd rfl hne
      · exact hu.single x y j hx hy
  · rcases hget x j hx with ⟨rfl, rfl⟩ | ⟨hx, -⟩
    · exact hid
    · exact Nat.lt_of_lt_of_le (hu.used x j hx) hnext

/-- The names of a store's file and of its temporary file, and the directory that they are in. -/
structure Site where
  directory : List String
  name : String
  draftName : String

namespace Site

def target (a : Site) : List String := a.directory ++ [a.name]

def draft (a : Site) : List String := a.directory ++ [a.draftName]

/-- The paths of the store lead to the names of the site, and files may go by them. -/
structure Fits (a : Site) (s : FileStore) (fs : FileSystem) : Prop where
  path : fs.locate s.path = .ok (.entry a.directory a.name false)
  temporary : fs.locate s.temporary = .ok (.entry a.directory a.draftName false)
  parent : fs.find s.path.parent = .ok .directory
  name_short : ¬ FileSystem.longestName < a.name.utf8ByteSize
  draft_short : ¬ FileSystem.longestName < a.draftName.utf8ByteSize
  target_free : fs.entries.get? a.target ≠ some .directory
  draft_free : fs.entries.get? a.draft ≠ some .directory
  distinct : a.draftName ≠ a.name

section
variable {a : Site} {s : FileStore} {fs fs' : FileSystem}

theorem Fits.target_ne_draft (h : a.Fits s fs) : a.target ≠ a.draft := by
  intro heq
  exact h.distinct (by simpa [target, draft] using heq.symm)

theorem Fits.child_target (h : a.Fits s fs) :
    fs.child a.directory a.name = .ok (fs.entries.get? a.target) :=
  FileSystem.child_eq_ok.2 ⟨h.name_short, rfl⟩

theorem Fits.child_draft (h : a.Fits s fs) :
    fs.child a.directory a.draftName = .ok (fs.entries.get? a.draft) :=
  FileSystem.child_eq_ok.2 ⟨h.draft_short, rfl⟩

/-- Where nothing changes but what is no directory, before and after, the site goes on fitting. -/
theorem Fits.of_entries (h : a.Fits s fs) (hentries : ∀ k, fs'.entries.get? k = fs.entries.get? k ∨
      fs.entries.get? k ≠ some .directory ∧ fs'.entries.get? k ≠ some .directory) :
    a.Fits s fs' := by
  have hdir : fs.DirectoriesIn fs' := by
    intro k hk
    rcases hentries k with heq | ⟨hne, -⟩
    · exact heq.trans hk
    · exact absurd hk hne
  have hback : fs'.DirectoriesIn fs := by
    intro k hk
    rcases hentries k with heq | ⟨-, hne⟩
    · exact heq.symm.trans hk
    · exact absurd hk hne
  exact
    { path := FileSystem.locate_mono hdir h.path
      temporary := FileSystem.locate_mono hdir h.temporary
      parent := FileSystem.find_directory_mono hdir h.parent
      name_short := h.name_short
      draft_short := h.draft_short
      target_free := fun hk => h.target_free (hback _ hk)
      draft_free := fun hk => h.draft_free (hback _ hk)
      distinct := h.distinct }

/-! ## 1. Reading -/

theorem Fits.find_none (h : a.Fits s fs) (ht : fs.entries.get? a.target = none) :
    fs.find s.path = .error .notFound := by
  rw [FileSystem.find, h.path]
  simp only [h.child_target, ht]

theorem Fits.find_some (h : a.Fits s fs) {id : ContentId}
    (ht : fs.entries.get? a.target = some (.file id)) : fs.find s.path = .ok (.file id) := by
  rw [FileSystem.find, h.path]
  simp only [h.child_target, ht, Bool.false_eq_true, if_false]

theorem Fits.read_none (h : a.Fits s fs) (ht : fs.entries.get? a.target = none) :
    fs.read s.path = .error .notFound := by
  rw [FileSystem.read, h.find_none ht]

theorem Fits.read_some (h : a.Fits s fs) {id : ContentId}
    (ht : fs.entries.get? a.target = some (.file id)) : fs.read s.path = .ok (fs.content id) := by
  rw [FileSystem.read, h.find_some ht]

/-- What is read is decided by the name of the file and by what stands behind it. -/
theorem Fits.read_congr (h : a.Fits s fs) (h' : a.Fits s fs')
    (ht : fs'.entries.get? a.target = fs.entries.get? a.target)
    (hcontent : ∀ j, fs.entries.get? a.target = some (.file j) → fs'.content j = fs.content j) :
    fs'.read s.path = fs.read s.path := by
  cases hget : fs.entries.get? a.target with
  | none => rw [h.read_none hget, h'.read_none (ht.trans hget)]
  | some e =>
    cases e with
    | directory => exact absurd hget h.target_free
    | file j => rw [h.read_some hget, h'.read_some (ht.trans hget), hcontent j hget]

/-! ## 2. Writing -/

theorem content_put {fs fs' : FileSystem} {id : ContentId} {bytes : ByteArray}
    (h : fs'.contents = fs.contents.put id bytes) (j : ContentId) :
    fs'.content j = if j = id then bytes else fs.content j := by
  rw [FileSystem.content, h, OrderedMap.get?_put]
  split <;> rfl

/-- What opening the temporary file comes to: it is there, it is empty, and the other is as it
was. -/
structure Opened (a : Site) (fs fs' : FileSystem) (id : ContentId) : Prop where
  draft : fs'.entries.get? a.draft = some (.file id)
  target : fs'.entries.get? a.target = fs.entries.get? a.target
  content : fs'.content id = .empty
  others : ∀ j, fs.entries.get? a.target = some (.file j) → fs'.content j = fs.content j

/-- The temporary file can always be opened, also while another one has it open. -/
theorem Fits.openEmpty (h : a.Fits s fs) (hu : fs.Unlinked) :
    ∃ fs' id, fs.openEmpty s.temporary = (fs', .ok id) ∧ a.Fits s fs' ∧ fs'.Unlinked ∧
      a.Opened fs fs' id := by
  unfold FileSystem.openEmpty
  rw [h.temporary]
  simp only [h.child_draft]
  cases hd : fs.entries.get? a.draft with
  | none =>
    refine ⟨_, _, rfl, ?_, ?_, ?_⟩
    · refine h.of_entries fun k => ?_
      rw [OrderedMap.get?_put]
      split
      · next hk =>
        subst hk
        exact .inr ⟨h.draft_free, by simp⟩
      · exact .inl rfl
    · refine hu.put (fun x j hx => ⟨hx, ?_⟩) rfl (Nat.lt_succ_self _) (Nat.le_succ _)
      exact Nat.ne_of_lt (hu.used x j hx)
    · refine ⟨?_, ?_, ?_, fun j hj => ?_⟩
      · exact OrderedMap.get?_put.trans (if_pos rfl)
      · exact OrderedMap.get?_put.trans (if_neg h.target_ne_draft)
      · rw [content_put rfl, if_pos rfl]
      · rw [content_put rfl, if_neg (Nat.ne_of_lt (hu.used _ j hj))]
  | some e =>
    cases e with
    | directory => exact absurd hd h.draft_free
    | file id =>
      refine ⟨_, _, rfl, ?_, ?_, ?_⟩
      · exact h.of_entries fun _ => .inl rfl
      · exact ⟨hu.single, hu.used⟩
      · refine ⟨hd, rfl, ?_, fun j hj => ?_⟩
        · rw [content_put rfl, if_pos rfl]
        · rw [content_put rfl, if_neg]
          rintro rfl
          exact h.target_ne_draft (hu.single _ _ _ hj hd)

/-- Writing changes the one content. -/
theorem content_overwrite (fs : FileSystem) (id : ContentId) (bytes : ByteArray) (j : ContentId) :
    (fs.overwrite id bytes).content j =
      if j = id then bytes ++ (fs.content id).extract bytes.size (fs.content id).size
      else fs.content j :=
  content_put rfl j

/-- An empty file is written as a whole. -/
theorem content_overwrite_empty {id : ContentId} (h : fs.content id = .empty) (bytes : ByteArray) :
    (fs.overwrite id bytes).content id = bytes := by
  rw [content_overwrite, if_pos rfl, h, ByteArray.extract_eq_empty_iff.2 (by simp)]
  simp

theorem Fits.overwrite (h : a.Fits s fs) (id : ContentId) (bytes : ByteArray) :
    a.Fits s (fs.overwrite id bytes) :=
  h.of_entries fun _ => .inl rfl

theorem unlinked_overwrite (hu : fs.Unlinked) (id : ContentId) (bytes : ByteArray) :
    (fs.overwrite id bytes).Unlinked :=
  ⟨hu.single, hu.used⟩

/-- Without a temporary file there is nothing to rename. -/
theorem Fits.rename_none (h : a.Fits s fs) (hd : fs.entries.get? a.draft = none) :
    fs.rename s.temporary s.path = (fs, .error .notFound) := by
  unfold FileSystem.rename
  rw [h.temporary, h.path]
  simp only [h.child_draft, h.child_target, hd]

/-- Otherwise the file gets the other name, and whatever went by that is gone. -/
theorem Fits.rename_some (h : a.Fits s fs) (hu : fs.Unlinked) {id : ContentId}
    (hd : fs.entries.get? a.draft = some (.file id)) :
    ∃ fs', fs.rename s.temporary s.path = (fs', .ok ()) ∧ a.Fits s fs' ∧ fs'.Unlinked ∧
      fs'.entries.get? a.draft = none ∧ fs'.entries.get? a.target = some (.file id) ∧
      ∀ j, fs'.content j = fs.content j := by
  have hget : ∀ k, ((fs.entries.erase a.draft).put a.target (.file id)).get? k =
      if k = a.target then some (.file id)
      else if k = a.draft then none else fs.entries.get? k := by
    intro k
    rw [OrderedMap.get?_put, OrderedMap.get?_erase]
  unfold FileSystem.rename
  rw [h.temporary, h.path]
  simp only [h.child_draft, h.child_target, hd, Bool.or_false, Bool.false_eq_true, if_false,
    if_neg h.target_free]
  refine ⟨_, rfl, ?_, ?_, ?_, ?_, fun j => rfl⟩
  · refine h.of_entries fun k => ?_
    by_cases ht : k = a.target
    · exact .inr ⟨ht ▸ h.target_free, ((hget k).trans (if_pos ht)).trans_ne (by simp)⟩
    · by_cases hk : k = a.draft
      · refine .inr ⟨hk ▸ h.draft_free, ?_⟩
        exact ((hget k).trans (by rw [if_neg ht, if_pos hk])).trans_ne (by simp)
      · exact .inl ((hget k).trans (by rw [if_neg ht, if_neg hk]))
  · -- Without the old name, no other one is left for the file.
    refine hu.put (fun x j hx => ?_) rfl (hu.used _ id hd) (Nat.le_refl _)
    rw [OrderedMap.get?_erase] at hx
    split at hx
    · cases hx
    · next hne =>
      refine ⟨hx, ?_⟩
      rintro rfl
      exact hne (hu.single _ _ _ hx hd)
  · exact (hget _).trans (by rw [if_neg h.target_ne_draft.symm, if_pos rfl])
  · exact (hget _).trans (if_pos rfl)

end

/-! ## 3. Where a write gets through -/

theorem locate_of_openEmpty {fs fs' : FileSystem} {p : FilePath} {id : ContentId}
    (h : fs.openEmpty p = (fs', .ok id)) :
    ∃ d name, fs.locate p = .ok (.entry d name false) ∧
      ¬ FileSystem.longestName < name.utf8ByteSize ∧
      fs.entries.get? (d ++ [name]) ≠ some .directory ∧
      ∀ k, fs'.entries.get? k = if k = d ++ [name] then some (.file id) else fs.entries.get? k := by
  unfold FileSystem.openEmpty at h
  split at h
  · cases h
  · cases h
  · cases h
  next d name hl =>
  refine ⟨d, name, hl, ?_⟩
  split at h
  · cases h
  · cases h
  · next j hc =>
    obtain ⟨hshort, hget⟩ := FileSystem.child_eq_ok.1 hc
    cases h
    refine ⟨hshort, by simp [hget], fun k => ?_⟩
    split
    · next hk => exact hk ▸ hget
    · rfl
  · next hc =>
    obtain ⟨hshort, hget⟩ := FileSystem.child_eq_ok.1 hc
    cases h
    exact ⟨hshort, by simp [hget], fun k => OrderedMap.get?_put⟩

theorem locate_of_rename {fs fs' : FileSystem} {p q : FilePath}
    (h : fs.rename p q = (fs', .ok ())) :
    ∃ d name, fs.locate q = .ok (.entry d name false) ∧
      ¬ FileSystem.longestName < name.utf8ByteSize ∧
      fs.entries.get? (d ++ [name]) ≠ some .directory := by
  unfold FileSystem.rename at h
  split at h
  · cases h
  · cases h
  · next d name closed d' name' closed' hl hl' =>
    split at h
    · cases h
    · cases h
    · cases h
    · cases h
    · next there _ hc =>
      obtain ⟨hshort, hget⟩ := FileSystem.child_eq_ok.1 hc
      split at h
      · cases h
      next hclosed =>
      split at h
      · cases h
      next hfree =>
      simp only [Bool.or_eq_true, not_or, Bool.not_eq_true] at hclosed
      obtain ⟨-, rfl⟩ := hclosed
      exact ⟨d', name', hl', hshort, hget ▸ hfree⟩
  · cases h

/-- The temporary file of a path stands beside it, under another name. -/
theorem draft_beside {s : FileStore} {fs : FileSystem} {d d' : List String}
    {name draftName : String} (hpath : fs.locate s.path = .ok (.entry d name false))
    (htemporary : fs.locate s.temporary = .ok (.entry d' draftName false)) :
    d' = d ∧ draftName ≠ name := by
  obtain ⟨front, hends, hwalk⟩ := FileSystem.endsIn_of_locate hpath
  obtain ⟨front', hends', hwalk'⟩ := FileSystem.endsIn_of_locate htemporary
  have hparts := hends'.parts
  rw [FileStore.temporary, hends.withExtension] at hparts
  split at hparts
  · -- No name is left, so the path would lead upwards.
    obtain ⟨-, hname⟩ := List.append_inj' hparts rfl
    exact absurd (List.singleton_inj.1 hname).symm hends'.down
  · obtain ⟨rfl, hname⟩ := List.append_inj' hparts rfl
    rw [hwalk] at hwalk'
    refine ⟨(Except.ok.inj hwalk').symm, ?_⟩
    rw [← List.singleton_inj.1 hname]
    exact FilePath.extended_ne name

/-- If a write that has the file system to itself gets through, then the directory can be made, and
where it has been made a site fits. -/
theorem exists_fits {s : FileStore} {fs : FileSystem} {r : HostRecord}
    (h : (fs.run (s.add r)).2 = .ok ()) :
    ∃ fs', fs.makeDirectories s.path.parent = (fs', .ok ()) ∧ ∃ a : Site, a.Fits s fs' := by
  rw [FileStore.add, FileStore.run_write, FileSystem.run_ask] at h
  obtain ⟨_, hmade, h⟩ := FileStore.run_onOk h
  generalize hfs : (fs.step (.makeDirectories s.path.parent)).1 = fs₁ at h
  have hmade : fs.makeDirectories s.path.parent = (fs₁, .ok ()) := Prod.ext hfs hmade
  rw [FileSystem.run_ask] at h
  obtain ⟨id, hopened, h⟩ := FileStore.run_onOk h
  generalize hfs : (fs₁.step (.openEmpty s.temporary)).1 = fs₂ at h
  have hopened : fs₁.openEmpty s.temporary = (fs₂, .ok id) := Prod.ext hfs hopened
  rw [FileSystem.run_ask] at h
  obtain ⟨_, -, h⟩ := FileStore.run_onOk h
  rw [FileSystem.run_ask] at h
  obtain ⟨_, hrenamed, -⟩ := FileStore.run_onOk h
  obtain ⟨d, draftName, htemporary, hdraft, hdfree, hget⟩ := locate_of_openEmpty hopened
  obtain ⟨d', name, hpath, hname, hfree⟩ := locate_of_rename (Prod.ext rfl hrenamed)
  -- Back to where the directories have just been made: the temporary file is no directory.
  have hback : (fs₂.overwrite id r.renderFile.toUTF8).DirectoriesIn fs₁ := by
    intro k hk
    have hk : fs₂.entries.get? k = some .directory := hk
    rw [hget] at hk
    split at hk
    · cases hk
    · exact hk
  have hpath := FileSystem.locate_mono hback hpath
  obtain ⟨rfl, hne⟩ := draft_beside hpath htemporary
  refine ⟨fs₁, hmade, ⟨d, name, draftName⟩, ?_⟩
  exact
    { path := hpath
      temporary := htemporary
      parent := FileSystem.find_makeDirectories hmade
      name_short := hname
      draft_short := hdraft
      target_free := fun hk => by
        refine hfree ((hget _).trans ?_)
        rw [if_neg (by simpa using hne.symm)]
        exact hk
      draft_free := hdfree
      distinct := hne }

end Site

end ClusterKeeper
