import ClusterKeeper.Proofs.Store.Site
import ClusterKeeper.Proofs.Store.Text

/-!
# `Proofs/Store/Alone.lean` — a store with one user

With nobody else at work, a write of a record comes to one of two things: it fails, or the file has
the text of the record and the temporary file is gone (`Site.Holds`). It gets through exactly where
the directory of the file can be made and both names are in order (`FileStore.Writable`), and from
then on there is a site that fits, so that later writes get through as well
(`Site.Holds.run_add`).
-/

set_option autoImplicit false

namespace ClusterKeeper

namespace Site

/-- The file has the text of a record, and nothing is left beside it. -/
structure Holds (a : Site) (s : FileStore) (fs : FileSystem) (r : HostRecord) : Prop where
  fits : a.Fits s fs
  unlinked : fs.Unlinked
  draft : fs.entries.get? a.draft = none
  read : fs.read s.path = .ok r.renderFile.toUTF8

variable {a : Site} {s : FileStore} {fs : FileSystem}

/-- Where a site fits, a write gets through. -/
theorem Fits.run_add (h : a.Fits s fs) (hu : fs.Unlinked) (r : HostRecord) :
    ∃ fs', fs.run (s.add r) = (fs', .ok ()) ∧ a.Holds s fs' r := by
  obtain ⟨fs₁, id, hopen, hfits₁, hu₁, hopened⟩ := h.openEmpty hu
  have hdraft : (fs₁.overwrite id r.renderFile.toUTF8).entries.get? a.draft = some (.file id) :=
    hopened.draft
  obtain ⟨fs₂, hrename, hfits₂, hu₂, hgone, htarget, hcontent⟩ :=
    (hfits₁.overwrite id r.renderFile.toUTF8).rename_some (unlinked_overwrite hu₁ id _) hdraft
  refine ⟨fs₂, ?_, hfits₂, hu₂, hgone, ?_⟩
  · have hmade : fs.step (.makeDirectories s.path.parent) = (fs, .ok ()) :=
      FileSystem.makeDirectories_of_find h.parent
    have hopen : fs.step (.openEmpty s.temporary) = (fs₁, .ok id) := hopen
    have hrename : (fs₁.overwrite id r.renderFile.toUTF8).step (.rename s.temporary s.path) =
        (fs₂, .ok ()) := hrename
    rw [FileStore.add, FileStore.run_write, FileSystem.run_ask, hmade]
    show fs.run (.ask (.openEmpty s.temporary) _) = _
    rw [FileSystem.run_ask, hopen]
    show (fs₁.overwrite id r.renderFile.toUTF8).run (.ask (.rename s.temporary s.path) _) = _
    rw [FileSystem.run_ask, hrename]
    rfl
  · rw [hfits₂.read_some htarget, hcontent, content_overwrite_empty hopened.content]

theorem Holds.run_add {r : HostRecord} (h : a.Holds s fs r) (r' : HostRecord) :
    ∃ fs', fs.run (s.add r') = (fs', .ok ()) ∧ a.Holds s fs' r' :=
  h.fits.run_add h.unlinked r'

theorem Holds.find_temporary {r : HostRecord} (h : a.Holds s fs r) :
    fs.find s.temporary = .error .notFound := by
  rw [FileSystem.find, h.fits.temporary]
  simp only [h.fits.child_draft, h.draft]

theorem Holds.run_get {r : HostRecord} (h : a.Holds s fs r) :
    fs.run s.get = (fs, .ok (some r)) := by
  rw [FileStore.run_get, h.read, FileStore.answer, FileStore.recordOf_renderFile]
  rfl

end Site

namespace FileStore

variable {s : FileStore} {fs fs' : FileSystem} {r : HostRecord}

/-- The directory of the file can be made, and the names that the store works with are in order. -/
def Writable (s : FileStore) (fs : FileSystem) : Prop :=
  ∃ fs', fs.makeDirectories s.path.parent = (fs', .ok ()) ∧ ∃ a : Site, a.Fits s fs'

/-- Once the directory is made, a write goes on as it would where it had been made before. -/
theorem run_add_of_made (h : fs.makeDirectories s.path.parent = (fs', .ok ())) (r : HostRecord) :
    fs.run (s.add r) = fs'.run (s.add r) := by
  have hmade : fs.step (.makeDirectories s.path.parent) = (fs', .ok ()) := h
  have hagain : fs'.step (.makeDirectories s.path.parent) = (fs', .ok ()) :=
    FileSystem.makeDirectories_of_find (FileSystem.find_makeDirectories h)
  rw [add, run_write, FileSystem.run_ask, hmade, FileSystem.run_ask, hagain]

theorem Writable.run_add (h : s.Writable fs) (hu : fs.Unlinked) (r : HostRecord) :
    ∃ fs' a, fs.run (s.add r) = (fs', .ok ()) ∧ Site.Holds a s fs' r := by
  obtain ⟨made, hmade, a, hfits⟩ := h
  have hgrown := FileSystem.grown_makeDirectories fs s.path.parent
  rw [hmade] at hgrown
  obtain ⟨fs', hrun, hholds⟩ := hfits.run_add (hgrown.unlinked hu) r
  exact ⟨fs', a, (run_add_of_made hmade r).trans hrun, hholds⟩

/-- Where nobody else is at work, writes get through where the names are in order and only there. -/
theorem writable_iff (hu : fs.Unlinked) :
    s.Writable fs ↔ ∀ r, (fs.run (s.add r)).2 = .ok () := by
  constructor
  · intro h r
    obtain ⟨fs', a, hrun, -⟩ := h.run_add hu r
    rw [hrun]
  · exact fun h => Site.exists_fits (h .empty)

/-- A write that got through has left its record. -/
theorem holds_of_run_add (hu : fs.Unlinked) (h : fs.run (s.add r) = (fs', .ok ())) :
    ∃ a, Site.Holds a s fs' r := by
  have hwritable : s.Writable fs := Site.exists_fits (congrArg Prod.snd h)
  obtain ⟨fs'', a, hrun, hholds⟩ := hwritable.run_add hu r
  rw [h] at hrun
  cases hrun
  exact ⟨a, hholds⟩

theorem run_map {α β : Type} (fs : FileSystem) (p : FileProgram α) (f : α → β) :
    fs.run (f <$> p) = ((fs.run p).1, f (fs.run p).2) := by
  induction p generalizing fs with
  | done x => rfl
  | ask op next ih => exact ih _ _

theorem run_update (s : FileStore) (fs : FileSystem) (r : HostRecord) :
    fs.run (s.update r) = match fs.doesExist s.path with
      | .ok true => fs.run (s.add r)
      | .ok false => (fs, .error .notFound)
      | .error e => (fs, .error (.file e)) := by
  rw [update_eq, FileSystem.run_ask]
  show fs.run (onOk _ (fs.doesExist s.path)) = _
  cases fs.doesExist s.path with
  | error e => rfl
  | ok there => cases there <;> rfl

/-- An update of a file that is not there changes nothing. -/
theorem run_update_absent (h : fs.find s.path = .error .notFound) (r : HostRecord) :
    fs.run (s.update r) = (fs, .error .notFound) := by
  rw [run_update, FileSystem.doesExist, h]

/-- Nor does an update whose file cannot even be looked for. -/
theorem run_update_unseen {e : FileError} (he : e ≠ .notFound) (h : fs.find s.path = .error e)
    (r : HostRecord) : fs.run (s.update r) = (fs, .error (.file e)) := by
  have hlook : fs.doesExist s.path = .error e := by
    rw [FileSystem.doesExist, h]
    cases e <;> first | rfl | exact absurd rfl he
  rw [run_update, hlook]

/-- A call that has written has left its record. -/
theorem holds_of_run_call (hu : fs.Unlinked) {c : StoreCall} (hr : c.record? = some r)
    (h : fs.run (s.call c) = (fs', .wrote (.ok ()))) : ∃ a, Site.Holds a s fs' r := by
  cases c with
  | get => cases hr
  | add r' =>
    cases hr
    rw [call, run_map, Prod.mk.injEq, StoreReply.wrote.injEq] at h
    exact holds_of_run_add hu (Prod.ext h.1 h.2)
  | update r' =>
    cases hr
    rw [call, run_map, Prod.mk.injEq, StoreReply.wrote.injEq] at h
    have hrun : fs.run (s.update r) = (fs', .ok ()) := Prod.ext h.1 h.2
    rw [run_update] at hrun
    split at hrun
    · exact holds_of_run_add hu hrun
    · cases hrun
    · cases hrun

end FileStore

end ClusterKeeper
