import ClusterKeeper.Proofs.Store.Sharing
import ClusterKeeper.Proofs.Store.Site
import ClusterKeeper.Proofs.Store.Text

/-!
# `Proofs/Store/Writers.lean` — writers of one file, side by side

Which interleavings of the users of a store are in order is decided by its writers alone: those in
which no writer opens the temporary file while another one is at work (`FileTeam.intact_iff`).

* In such a run (`FileTeam.Apart`) the temporary file belongs to one writer at a time: it is empty
  when it is opened, has the whole text when it is written, and goes by the name of the record's
  file when it is renamed. So a reader finds the record of before or one that a writer wrote, every
  write is done, and one of the written records is left.
* In any other run some write fails (`FileTeam.Stuck`): the two writers have one temporary file
  between them, the first of them renames it, and the other one finds nothing to rename.

That a write fails is not all that can go wrong. A writer that has opened the temporary file goes on
writing it when the other one has given it the name of the record's file, and then a reader finds
the text of the one with the end of the other behind it (`FileTeam.mixed_read`).
-/

set_option autoImplicit false

namespace ClusterKeeper

open FileStore

namespace FileTeam

variable {ι : Type}

/-! ## 1. Steps where a site fits -/

/-- What a step can do where a site fits: only renaming can fail. -/
inductive Move (s : FileStore) (c : StoreCall) (a : Site) (fs : FileSystem) :
    Phase → FileStep → FileSystem → Phase → Prop
  | read (h : c = .get) :
      Move s c a fs .start (.read s.path) fs (.over (.got (answer (fs.read s.path))))
  | doesExist {r : HostRecord} (h : c = .update r) :
      Move s c a fs .start (.doesExist s.path) fs
        (onward (fun there => if there then .start else .over (.wrote (.error .notFound)))
          (fs.doesExist s.path))
  | makeDirectories {r : HostRecord} (h : c.record? = some r) :
      Move s c a fs .start (.makeDirectories s.path.parent) fs .ready
  | openEmpty {fs' : FileSystem} {id : ContentId} (fits : a.Fits s fs') (unlinked : fs'.Unlinked)
      (opened : a.Opened fs fs' id) : Move s c a fs .ready (.openEmpty s.temporary) fs' (.opened id)
  | write {r : HostRecord} (h : c.record? = some r) (id : ContentId) :
      Move s c a fs (.opened id) (.write id r.renderFile.toUTF8)
        (fs.overwrite id r.renderFile.toUTF8) (.written id)
  | rename {fs' : FileSystem} {id j : ContentId} (fits : a.Fits s fs') (unlinked : fs'.Unlinked)
      (was : fs.entries.get? a.draft = some (.file j)) (draft : fs'.entries.get? a.draft = none)
      (target : fs'.entries.get? a.target = some (.file j))
      (content : ∀ k, fs'.content k = fs.content k) :
      Move s c a fs (.written id) (.rename s.temporary s.path) fs' (.over (.wrote (.ok ())))
  | gone {id : ContentId} (was : fs.entries.get? a.draft = none) :
      Move s c a fs (.written id) (.rename s.temporary s.path) fs
        (.over (.wrote (.error (.file .notFound))))

section
variable {s : FileStore} {c : StoreCall} {a : Site} {fs fs' : FileSystem} {op : FileStep}
  {g g' : Phase}

theorem move_of_conduct (h : a.Fits s fs) (hu : fs.Unlinked) {reply : op.Reply}
    (hc : Conduct s c g op reply g') (hs : fs.step op = (fs', reply)) :
    Move s c a fs g op fs' g' := by
  cases hc with
  | read hc reply =>
    cases hs
    exact .read hc
  | doesExist hc reply =>
    cases hs
    exact .doesExist hc
  | makeDirectories hc reply =>
    have hs : fs.makeDirectories s.path.parent = (fs', reply) := hs
    rw [FileSystem.makeDirectories_of_find h.parent] at hs
    cases hs
    exact .makeDirectories hc
  | openEmpty reply =>
    obtain ⟨fs₁, id, hopen, hfits, hunlinked, hopened⟩ := h.openEmpty hu
    have hs : fs.openEmpty s.temporary = (fs', reply) := hs
    rw [hopen] at hs
    cases hs
    exact .openEmpty hfits hunlinked hopened
  | write hc id reply =>
    cases hs
    exact .write hc id
  | rename id reply =>
    have hs : fs.rename s.temporary s.path = (fs', reply) := hs
    cases hd : fs.entries.get? a.draft with
    | none =>
      rw [h.rename_none hd] at hs
      cases hs
      exact .gone hd
    | some e =>
      cases e with
      | directory => exact absurd hd h.draft_free
      | file j =>
        obtain ⟨fs₁, hrename, hfits, hunlinked, hdraft, htarget, hcontent⟩ := h.rename_some hu hd
        rw [hrename] at hs
        cases hs
        exact .rename hfits hunlinked hd hdraft htarget hcontent

theorem Move.fits (h : Move s c a fs g op fs' g') (hf : a.Fits s fs) (hu : fs.Unlinked) :
    a.Fits s fs' ∧ fs'.Unlinked := by
  cases h with
  | openEmpty fits unlinked _ => exact ⟨fits, unlinked⟩
  | rename fits unlinked _ _ _ _ => exact ⟨fits, unlinked⟩
  | write _ id => exact ⟨hf.overwrite id _, Site.unlinked_overwrite hu id _⟩
  | _ => exact ⟨hf, hu⟩

end

/-! ## 2. Who is at work -/

section
variable [DecidableEq ι] {s : FileStore} {c : StoreCall} {a : Site} {fs fs' : FileSystem}
  {op : FileStep} {g : ι → Phase} {g' : Phase} {trace : List (ι × FileStep)} {i : ι}

theorem atWork_other (hop : ∀ j, AtWork ((i, op) :: trace) j ↔ AtWork trace j)
    (hbusy : (g i).Busy ↔ g'.Busy) (h : ∀ j, AtWork trace j ↔ (g j).Busy) :
    ∀ j, AtWork ((i, op) :: trace) j ↔ (Function.update g i g' j).Busy := by
  refine (Function.forall_update_iff g fun j p => AtWork ((i, op) :: trace) j ↔ p.Busy).2 ?_
  exact ⟨(hop i).trans ((h i).trans hbusy), fun j _ => (hop j).trans (h j)⟩

/-- Who is at work can be told by the steps that have been taken. -/
theorem Move.atWork (h : ∀ j, AtWork trace j ↔ (g j).Busy) (hm : Move s c a fs (g i) op fs' g') :
    ∀ j, AtWork ((i, op) :: trace) j ↔ (Function.update g i g' j).Busy := by
  generalize hg : g i = q at hm
  have hall := Function.forall_update_iff g (a := i) (b := g')
    fun j p => AtWork ((i, op) :: trace) j ↔ p.Busy
  cases hm with
  | read _ => exact atWork_other (fun _ => .rfl) (by rw [hg]; exact .rfl) h
  | doesExist _ =>
    exact atWork_other (fun _ => .rfl) (by rw [hg]; exact iff_of_false id (not_busy_onward _)) h
  | makeDirectories _ => exact atWork_other (fun _ => .rfl) (by rw [hg]; exact .rfl) h
  | write _ id => exact atWork_other (fun _ => .rfl) (by rw [hg]; exact .rfl) h
  | openEmpty _ _ _ =>
    refine hall.2 ⟨iff_of_true (.inl rfl) trivial, fun j hj => ?_⟩
    exact (or_iff_right (Ne.symm hj)).trans (h j)
  | rename _ _ _ _ _ _ =>
    refine hall.2 ⟨iff_of_false (fun hw => hw.1 rfl) id, fun j hj => ?_⟩
    exact (and_iff_right (Ne.symm hj)).trans (h j)
  | gone _ =>
    refine hall.2 ⟨iff_of_false (fun hw => hw.1 rfl) id, fun j hj => ?_⟩
    exact (and_iff_right (Ne.symm hj)).trans (h j)

end

/-! ## 3. One at a time -/

/-- The reply that a call should have. -/
structure Proper (call : ι → StoreCall) (record : Option HostRecord) (i : ι) (x : StoreReply) :
    Prop where
  get : call i = .get → ∃ r, x = .got (.ok r) ∧ (r = record ∨ Written call r)
  write : ∀ r, (call i).record? = some r → x = .wrote (.ok ())

/-- What a user can rely on, by its phase. -/
def Relies (call : ι → StoreCall) (record : Option HostRecord) (a : Site) (fs : FileSystem)
    (i : ι) : Phase → Prop
  | .opened id => fs.entries.get? a.draft = some (.file id) ∧ fs.content id = .empty
  | .written id => fs.entries.get? a.draft = some (.file id) ∧
      ∃ r, (call i).record? = some r ∧ fs.content id = r.renderFile.toUTF8
  | .over x => Proper call record i x
  | _ => True

/-- No two users are at work at a time. The file has a record that may be there. -/
structure Apart (s : FileStore) (call : ι → StoreCall) (record : Option HostRecord) (a : Site)
    (fs : FileSystem) (g : ι → Phase) : Prop where
  fits : a.Fits s fs
  unlinked : fs.Unlinked
  alone : ∀ i j, (g i).Busy → (g j).Busy → i = j
  relies : ∀ i, Relies call record a fs i (g i)
  shown : ∃ r, answer (fs.read s.path) = .ok r ∧
    (Written call r ∨ r = record ∧ ∀ i x r', g i = .over x → (call i).record? ≠ some r')

/-- Some user has failed or is bound to: there are more users at work than temporary files. -/
def Stuck (a : Site) (fs : FileSystem) (g : ι → Phase) : Prop :=
  (∃ i e, g i = .over (.wrote (.error e))) ∨
    (fs.entries.get? a.draft = none ∧ ∃ i, (g i).Busy) ∨ ∃ i j, i ≠ j ∧ (g i).Busy ∧ (g j).Busy

structure Tangled (s : FileStore) (a : Site) (fs : FileSystem) (g : ι → Phase) : Prop where
  fits : a.Fits s fs
  unlinked : fs.Unlinked
  stuck : Stuck a fs g

section
variable {s : FileStore} {call : ι → StoreCall} {record : Option HostRecord} {a : Site}
  {fs fs' : FileSystem} {op : FileStep} {g : ι → Phase} {g' : Phase} {i : ι}

theorem Relies.of_idle {p : Phase} (hp : ¬ p.Busy) (h : Relies call record a fs i p) :
    Relies call record a fs' i p := by
  cases p with
  | opened id => exact absurd trivial hp
  | written id => exact absurd trivial hp
  | _ => exact h

theorem proper_get {reply : Except FileError ByteArray} {r : Option HostRecord} (hc : call i = .get)
    (hr : answer reply = .ok r) (hw : r = record ∨ Written call r) :
    Proper call record i (.got (answer reply)) where
  get _ := ⟨r, congrArg _ hr, hw⟩
  write r' hr' := absurd hr' (StoreCall.record?_of_get hc r')

theorem proper_write {r : HostRecord} (hc : (call i).record? = some r) :
    Proper call record i (.wrote (.ok ())) where
  get hget := absurd hc (StoreCall.record?_of_get hget r)
  write _ _ := rfl

theorem answer_renderFile (r : HostRecord) : answer (.ok r.renderFile.toUTF8) = .ok (some r) := by
  rw [answer, recordOf_renderFile]
  rfl

variable [DecidableEq ι]

theorem alone_update (h : ∀ i j, (g i).Busy → (g j).Busy → i = j)
    (hi : g'.Busy → ∀ j, j ≠ i → ¬ (g j).Busy) :
    ∀ j k, (Function.update g i g' j).Busy → (Function.update g i g' k).Busy → j = k := by
  intro j k hj hk
  by_cases hji : j = i
  · by_cases hki : k = i
    · rw [hji, hki]
    · subst hji
      rw [Function.update_self] at hj
      rw [Function.update_of_ne hki] at hk
      exact absurd hk (hi hj k hki)
  · rw [Function.update_of_ne hji] at hj
    by_cases hki : k = i
    · subst hki
      rw [Function.update_self] at hk
      exact absurd hj (hi hk j hji)
    · rw [Function.update_of_ne hki] at hk
      exact h j k hj hk

/-- A step of a user who is not yet through does not make the record of before go. -/
theorem shown_update {r : Option HostRecord}
    (hg' : ∀ x r', g' = .over x → (call i).record? ≠ some r')
    (h : Written call r ∨ r = record ∧ ∀ i x r', g i = .over x → (call i).record? ≠ some r') :
    Written call r ∨
      r = record ∧ ∀ j x r', Function.update g i g' j = .over x → (call j).record? ≠ some r' := by
  refine h.imp_right fun ⟨hr, hnone⟩ => ⟨hr, ?_⟩
  exact (Function.forall_update_iff g fun j p => ∀ x r', p = .over x → (call j).record? ≠ some r').2
    ⟨hg', fun j _ => hnone j⟩

/-- Where there is a record, one who is to replace it stays where it is. -/
theorem update_there {r : HostRecord} (hg : g i = .start)
    (hr : answer (fs.read s.path) = .ok (some r)) :
    Function.update g i
      (onward (fun there => if there then .start else .over (.wrote (.error .notFound)))
        (fs.doesExist s.path)) = g := by
  rw [doesExist_of_read hr]
  show Function.update g i .start = g
  rw [← hg, Function.update_eq_self]

/-- One at a time: as long as no user opens the temporary file while another one is at work. -/
theorem Apart.move (h : Apart s call record a fs g)
    (hupdate : ∀ i r, call i = .update r → record ≠ none)
    (hm : Move s (call i) a fs (g i) op fs' g')
    (halone : (∃ p, op = .openEmpty p) → ∀ j, j ≠ i → ¬ (g j).Busy) :
    Apart s call record a fs' (Function.update g i g') := by
  obtain ⟨hfits, hunlinked⟩ := hm.fits h.fits h.unlinked
  obtain ⟨r, hr, hshown⟩ := h.shown
  have hi := h.relies i
  have hothers : (g i).Busy → ∀ j, j ≠ i → ¬ (g j).Busy :=
    fun hb j hj hbj => hj (h.alone j i hbj hb)
  generalize hg : g i = q at hm hi hothers
  have relies_update : Relies call record a fs' i g' →
      (∀ j, j ≠ i → Relies call record a fs' j (g j)) →
      ∀ j, Relies call record a fs' j (Function.update g i g' j) :=
    fun hself hrest => (Function.forall_update_iff g (Relies call record a fs')).2 ⟨hself, hrest⟩
  cases hm with
  | read hc =>
    have hproper := proper_get hc hr (hshown.elim .inr fun hw => .inl hw.1)
    exact ⟨hfits, hunlinked, alone_update h.alone (absurd · id),
      relies_update hproper fun j _ => h.relies j, r, hr,
      shown_update (fun _ r' _ => StoreCall.record?_of_get hc r') hshown⟩
  | doesExist hc =>
    -- There always is a record, so the user stays where it is.
    obtain ⟨r', rfl⟩ : ∃ r', r = some r' := by
      rcases hshown with ⟨_, r', -, rfl⟩ | ⟨rfl, -⟩
      · exact ⟨r', rfl⟩
      · exact Option.ne_none_iff_exists'.1 (hupdate i _ hc)
    rw [update_there hg hr]
    exact h
  | makeDirectories _ =>
    exact ⟨hfits, hunlinked, alone_update h.alone (absurd · id),
      relies_update trivial fun j _ => h.relies j, r, hr, shown_update (by simp) hshown⟩
  | openEmpty _ _ hopened =>
    have hidle := halone ⟨_, rfl⟩
    refine ⟨hfits, hunlinked, alone_update h.alone fun _ => hidle,
      relies_update ⟨hopened.draft, hopened.content⟩ fun j hj => (h.relies j).of_idle (hidle j hj),
      r, ?_, shown_update (by simp) hshown⟩
    rw [h.fits.read_congr hfits hopened.target hopened.others]
    exact hr
  | @write r' hc id =>
    have hidle := hothers trivial
    obtain ⟨hdraft, hempty⟩ := hi
    refine ⟨hfits, hunlinked, alone_update h.alone fun _ => hidle,
      relies_update ⟨hdraft, r', hc, Site.content_overwrite_empty hempty _⟩
        fun j hj => (h.relies j).of_idle (hidle j hj),
      r, ?_, shown_update (by simp) hshown⟩
    rw [h.fits.read_congr hfits rfl fun j hj => ?_]
    · exact hr
    · rw [Site.content_overwrite, if_neg]
      rintro rfl
      exact h.fits.target_ne_draft (h.unlinked.single _ _ _ hj hdraft)
  | @rename _ id j _ _ hwas hdraft htarget hcontent =>
    have hidle := hothers trivial
    obtain ⟨hid, r', hc, htext⟩ := hi
    obtain rfl : j = id := by
      rw [hwas] at hid
      simpa using hid
    refine ⟨hfits, hunlinked, alone_update h.alone (absurd · id),
      relies_update (proper_write hc) fun j hj => (h.relies j).of_idle (hidle j hj),
      some r', ?_, .inl ⟨i, r', hc, rfl⟩⟩
    rw [hfits.read_some htarget, hcontent, htext]
    exact answer_renderFile r'
  | gone hwas =>
    obtain ⟨hid, -⟩ := hi
    rw [hwas] at hid
    cases hid

theorem failed_update (h : ∃ k e, g k = .over (.wrote (.error e)))
    (hi : ∀ e, g i ≠ .over (.wrote (.error e))) :
    ∃ k e, Function.update g i g' k = .over (.wrote (.error e)) := by
  obtain ⟨k, e, hk⟩ := h
  refine ⟨k, e, ?_⟩
  rw [Function.update_of_ne, hk]
  rintro rfl
  exact hi e hk

theorem busy_update (hi : (g i).Busy → g'.Busy) {j : ι} (hj : (g j).Busy) :
    (Function.update g i g' j).Busy := by
  by_cases hji : j = i
  · subst hji
    rw [Function.update_self]
    exact hi hj
  · rwa [Function.update_of_ne hji]

/-- Nobody gets unstuck who does not rename. -/
theorem Stuck.update (h : Stuck a fs g) (hi : ∀ e, g i ≠ .over (.wrote (.error e)))
    (hbusy : (g i).Busy → g'.Busy)
    (hdraft : fs.entries.get? a.draft = none → fs'.entries.get? a.draft = none) :
    Stuck a fs' (Function.update g i g') := by
  rcases h with hk | ⟨hd, j, hj⟩ | ⟨j, k, hjk, hj, hk⟩
  · exact .inl (failed_update hk hi)
  · exact .inr (.inl ⟨hdraft hd, j, busy_update hbusy hj⟩)
  · exact .inr (.inr ⟨j, k, hjk, busy_update hbusy hj, busy_update hbusy hk⟩)

/-- One who opens the temporary file while another one is at work is one too many. -/
theorem stuck_of_opened {id : ContentId} {j : ι} (hj : j ≠ i) (hbusy : (g j).Busy) :
    Stuck a fs (Function.update g i (.opened id)) := by
  refine .inr (.inr ⟨i, j, hj.symm, ?_, ?_⟩)
  · rw [Function.update_self]
    trivial
  · rwa [Function.update_of_ne hj]

/-- Whatever they do now, in the end one of them finds nothing to rename. -/
theorem Tangled.move (h : Tangled s a fs g) (hm : Move s (call i) a fs (g i) op fs' g') :
    Tangled s a fs' (Function.update g i g') := by
  obtain ⟨hfits, hunlinked⟩ := hm.fits h.fits h.unlinked
  refine ⟨hfits, hunlinked, ?_⟩
  have hstuck := h.stuck
  generalize hg : g i = q at hm
  cases hm with
  | read _ => exact hstuck.update (by simp [hg]) (by rw [hg]; exact id) id
  | doesExist _ => exact hstuck.update (by simp [hg]) (by rw [hg]; exact False.elim) id
  | makeDirectories _ => exact hstuck.update (by simp [hg]) (by rw [hg]; exact id) id
  | write _ id => exact hstuck.update (by simp [hg]) (fun _ => trivial) fun hd => hd
  | gone _ => exact .inl ⟨i, _, Function.update_self ..⟩
  | openEmpty _ _ _ =>
    rcases hstuck with hk | ⟨-, j, hj⟩ | ⟨j, k, hjk, hj, hk⟩
    · exact .inl (failed_update hk (by simp [hg]))
    · refine stuck_of_opened (fun hji => ?_) hj
      rw [hji, hg] at hj
      exact hj
    · refine stuck_of_opened (fun hji => ?_) hj
      rw [hji, hg] at hj
      exact hj
  | rename _ _ hwas hdraft _ _ =>
    rcases hstuck with hk | ⟨hd, -⟩ | ⟨j, k, hjk, hj, hk⟩
    · exact .inl (failed_update hk (by simp [hg]))
    · rw [hwas] at hd
      cases hd
    · -- One of the two is left, and no temporary file.
      refine .inr (.inl ⟨hdraft, ?_⟩)
      by_cases hji : j = i
      · exact ⟨k, by rwa [Function.update_of_ne (hji ▸ hjk.symm)]⟩
      · exact ⟨j, by rwa [Function.update_of_ne hji]⟩

end

/-! ## 4. Before the directory is made -/

/-- What the users find. -/
structure Setting (s : FileStore) (fs : FileSystem) (call : ι → StoreCall)
    (record : Option HostRecord) : Prop where
  unlinked : fs.Unlinked
  /-- A write that has the file system to itself gets through. -/
  writable : ∀ r, (fs.run (s.add r)).2 = .ok ()
  /-- The record is there. -/
  holds : (fs.run s.get).2 = .ok record
  /-- That does not change when the directory is made that the file is to be in. -/
  stays : ((fs.makeDirectories s.path.parent).1.run s.get).2 = .ok record
  /-- Only a record that is there is updated. -/
  update : ∀ i r, call i = .update r → record ≠ none

/-- Nothing has been written and no directory has been made. -/
structure Early (call : ι → StoreCall) (record : Option HostRecord) (fs₀ fs : FileSystem)
    (g : ι → Phase) : Prop where
  files : fs = fs₀
  users : ∀ i, g i = .start ∨ call i = .get ∧ ∃ x, g i = .over x ∧ Proper call record i x

/-- Where the users stand after some steps. -/
def Standing (s : FileStore) (call : ι → StoreCall) (record : Option HostRecord)
    (fs₀ fs : FileSystem) (trace : List (ι × FileStep)) (g : ι → Phase) : Prop :=
  (∀ j, AtWork trace j ↔ (g j).Busy) ∧
    ((¬ Overlapping trace ∧ (Early call record fs₀ fs g ∨ ∃ a, Apart s call record a fs g)) ∨
      (Overlapping trace ∧ ∃ a, Tangled s a fs g))

section
variable {s : FileStore} {call : ι → StoreCall} {record : Option HostRecord}
  {fs₀ fs fs' : FileSystem} {op : FileStep} {g : ι → Phase} {g' : Phase}
  {trace : List (ι × FileStep)} {i : ι}

theorem Early.idle (h : Early call record fs₀ fs g) (j : ι) : ¬ (g j).Busy := by
  rcases h.users j with hj | ⟨-, x, hj, -⟩
  · rw [hj]
    exact id
  · rw [hj]
    exact id

theorem Early.relies (h : Early call record fs₀ fs g) (a : Site) (j : ι) :
    Relies call record a fs' j (g j) := by
  rcases h.users j with hj | ⟨-, x, hj, hx⟩
  · rw [hj]
    trivial
  · rw [hj]
    exact hx

/-- Only readers are through. -/
theorem Early.get_of_over (h : Early call record fs₀ fs g) {j : ι} {x : StoreReply}
    (hx : g j = .over x) : call j = .get ∧ Proper call record j x := by
  rcases h.users j with hj | ⟨hget, y, hj, hy⟩
  · rw [hx] at hj
    cases hj
  · rw [hx] at hj
    cases hj
    exact ⟨hget, hy⟩

variable [DecidableEq ι]

/-- The first to make the directory finds the others where they can be one at a time. -/
theorem Early.apart (hset : Setting s fs₀ call record) (h : Early call record fs₀ fs g)
    {reply : Except FileError Unit}
    (hs : fs.step (.makeDirectories s.path.parent) = (fs', reply)) :
    reply = .ok () ∧ ∃ a, Apart s call record a fs' (Function.update g i .ready) := by
  obtain rfl := h.files
  obtain ⟨fs₁, hmade, a, hfits⟩ := Site.exists_fits (hset.writable .empty)
  have hgrown := FileSystem.grown_makeDirectories fs s.path.parent
  have hstays := hset.stays
  rw [hmade, run_get] at hstays
  rw [hmade] at hgrown
  have hs : fs.makeDirectories s.path.parent = (fs', reply) := hs
  rw [hmade] at hs
  cases hs
  have hnone : ∀ j x r', g j = .over x → (call j).record? ≠ some r' :=
    fun j x r' hj => StoreCall.record?_of_get (h.get_of_over hj).1 r'
  refine ⟨rfl, a, ?_⟩
  exact
    { fits := hfits
      unlinked := hgrown.unlinked hset.unlinked
      alone := alone_update (fun j k hj => absurd hj (h.idle j)) (absurd · id)
      relies := (Function.forall_update_iff g (Relies call record a fs')).2
        ⟨trivial, fun j _ => h.relies a j⟩
      shown := ⟨record, hstays, shown_update (by simp) (.inr ⟨rfl, hnone⟩)⟩ }

theorem Early.step {reply : op.Reply} (hset : Setting s fs₀ call record)
    (h : Early call record fs₀ fs g) (hwork : ∀ j, AtWork trace j ↔ (g j).Busy)
    (hc : Conduct s (call i) (g i) op reply g') (hs : fs.step op = (fs', reply)) :
    (∀ j, AtWork ((i, op) :: trace) j ↔ (Function.update g i g' j).Busy) ∧
      ¬ (∃ p, op = .openEmpty p) ∧ (Early call record fs₀ fs' (Function.update g i g') ∨
        ∃ a, Apart s call record a fs' (Function.update g i g')) := by
  have hread : answer (fs.read s.path) = .ok record := by
    have hholds := hset.holds
    rwa [run_get, ← h.files] at hholds
  generalize hg : g i = q at hc
  have hi := h.users i
  rw [hg] at hi
  cases hc with
  | read hc reply =>
    cases hs
    refine ⟨atWork_other (fun _ => .rfl) (by rw [hg]; exact .rfl) hwork, nofun,
      .inl ⟨h.files, ?_⟩⟩
    exact (Function.forall_update_iff g fun j p =>
      p = .start ∨ call j = .get ∧ ∃ x, p = .over x ∧ Proper call record j x).2
        ⟨.inr ⟨hc, _, rfl, proper_get hc hread (.inl rfl)⟩, fun j _ => h.users j⟩
  | doesExist hc reply =>
    cases hs
    obtain ⟨r, rfl⟩ := Option.ne_none_iff_exists'.1 (hset.update i _ hc)
    rw [update_there hg hread]
    exact ⟨hwork, nofun, .inl h⟩
  | makeDirectories hc reply =>
    obtain ⟨rfl, hready⟩ := h.apart hset hs (i := i)
    exact ⟨atWork_other (fun _ => .rfl) (by rw [hg]; exact .rfl) hwork, nofun, .inr hready⟩
  | _ =>
    rcases hi with hi | ⟨-, x, hi, -⟩
    · cases hi
    · cases hi

theorem Standing.step {reply : op.Reply} (hset : Setting s fs₀ call record)
    (h : Standing s call record fs₀ fs trace g) (hc : Conduct s (call i) (g i) op reply g')
    (hs : fs.step op = (fs', reply)) :
    Standing s call record fs₀ fs' ((i, op) :: trace) (Function.update g i g') := by
  obtain ⟨hwork, ⟨hover, hearly | ⟨a, hapart⟩⟩ | ⟨hover, a, htangled⟩⟩ := h
  · obtain ⟨hwork', hopen, hnext⟩ := hearly.step hset hwork hc hs
    refine ⟨hwork', .inl ⟨fun ho => ?_, hnext⟩⟩
    rcases overlapping_cons.1 ho with ho | ⟨ho, -⟩
    · exact hover ho
    · exact hopen ho
  · have hm := move_of_conduct hapart.fits hapart.unlinked hc hs
    refine ⟨hm.atWork hwork, ?_⟩
    by_cases ho : Overlapping ((i, op) :: trace)
    · rcases overlapping_cons.1 ho with ho' | ⟨⟨p, rfl⟩, j, hj, hwj⟩
      · exact absurd ho' hover
      · obtain ⟨hfits, hunlinked⟩ := hm.fits hapart.fits hapart.unlinked
        refine .inr ⟨ho, a, hfits, hunlinked, ?_⟩
        generalize g i = q at hm
        cases hm with
        | openEmpty _ _ _ => exact stuck_of_opened hj ((hwork j).1 hwj)
    · refine .inl ⟨ho, .inr ⟨a, hapart.move hset.update hm fun hopen j hj hbusy => ?_⟩⟩
      exact ho (overlapping_cons.2 (.inr ⟨hopen, j, hj, (hwork j).2 hbusy⟩))
  · have hm := move_of_conduct htangled.fits htangled.unlinked hc hs
    exact ⟨hm.atWork hwork, .inr ⟨overlapping_cons.2 (.inl hover), a, htangled.move hm⟩⟩

end

/-! ## 5. Runs -/

section
variable {s : FileStore} {call : ι → StoreCall} {record : Option HostRecord} {fs₀ : FileSystem}
  {t : FileTeam ι} {g : ι → Phase} (hfinished : t.Finished)
  (hover : ∀ i x, t.reply? i = some x → g i = .over x)

include hfinished hover

theorem intact_of_proper (hproper : ∀ i x, g i = .over x → Proper call record i x)
    (hleft : ∀ i r, (call i).record? = some r →
      ∃ r', answer (t.files.read s.path) = .ok r' ∧ Written call r') : Intact s call record t where
  gets i hi := by
    obtain ⟨x, hx⟩ := Option.isSome_iff_exists.1 (hfinished i)
    obtain ⟨r, rfl, hr⟩ := (hproper i x (hover i x hx)).get hi
    exact ⟨r, hx, hr⟩
  writes i r hi := by
    obtain ⟨x, hx⟩ := Option.isSome_iff_exists.1 (hfinished i)
    rw [hx, (hproper i x (hover i x hx)).write r hi]
  left i r hi := by
    rw [run_get]
    exact hleft i r hi

theorem Early.intact (h : Early call record fs₀ t.files g) : Intact s call record t := by
  refine intact_of_proper hfinished hover (fun i x hx => (h.get_of_over hx).2) fun i r hi => ?_
  obtain ⟨x, hx⟩ := Option.isSome_iff_exists.1 (hfinished i)
  exact absurd hi (StoreCall.record?_of_get (h.get_of_over (hover i x hx)).1 r)

theorem Apart.intact {a : Site} (h : Apart s call record a t.files g) :
    Intact s call record t := by
  have hproper : ∀ i x, g i = .over x → Proper call record i x := by
    intro i x hx
    have hi := h.relies i
    rw [hx] at hi
    exact hi
  refine intact_of_proper hfinished hover hproper fun i r hi => ?_
  obtain ⟨r', hr', hw | ⟨-, hnone⟩⟩ := h.shown
  · exact ⟨r', hr', hw⟩
  · obtain ⟨x, hx⟩ := Option.isSome_iff_exists.1 (hfinished i)
    exact absurd hi (hnone i x r (hover i x hx))

theorem Tangled.not_intact {a : Site} (h : Tangled s a t.files g) : ¬ Intact s call record t := by
  intro hintact
  have hidle : ∀ i, ¬ (g i).Busy := by
    intro i hi
    obtain ⟨x, hx⟩ := Option.isSome_iff_exists.1 (hfinished i)
    rw [hover i x hx] at hi
    exact hi
  rcases h.stuck with ⟨i, e, hi⟩ | ⟨-, i, hi⟩ | ⟨i, j, -, hi, -⟩
  · -- That write has failed, and no reader has this reply.
    obtain ⟨x, hx⟩ := Option.isSome_iff_exists.1 (hfinished i)
    obtain rfl : x = .wrote (.error e) := by
      have hsame := hover i x hx
      rw [hi] at hsame
      cases hsame
      rfl
    cases hc : (call i).record? with
    | some r =>
      rw [hintact.writes i r hc] at hx
      cases hx
    | none =>
      obtain ⟨r, hr, -⟩ := hintact.gets i (StoreCall.get_of_record? hc)
      rw [hr] at hx
      cases hx
  · exact hidle i hi
  · exact hidle i hi

end

/-- All are through after five turns of each. A run in which all are through is in order if and only
if no writer opened the temporary file while another one was at work. -/
theorem intact_iff [DecidableEq ι] {s : FileStore} {fs : FileSystem} {call : ι → StoreCall}
    {record : Option HostRecord} (h : Setting s fs call record) (turns : List ι) :
    ((∀ i, 5 ≤ turns.count i) → ((start s fs call).run turns).Finished) ∧
      (((start s fs call).run turns).Finished →
        (Intact s call record ((start s fs call).run turns) ↔
          ¬ Overlapping ((start s fs call).run turns).trace)) := by
  refine ⟨finished_start s fs call, fun hfinished => ?_⟩
  have hstart : Standing s call record fs fs [] fun _ : ι => .start :=
    ⟨fun _ => Iff.rfl, .inl ⟨id, .inl ⟨rfl, fun _ => .inl rfl⟩⟩⟩
  obtain ⟨g, hf, -, hstanding⟩ := (following_start s fs call).run (P := Standing s call record fs)
    (fun hp hc hs => hp.step h hc hs) hstart turns
  have hover := fun i x => hf.over (i := i) (x := x)
  rcases hstanding with ⟨hnot, hearly | ⟨a, hapart⟩⟩ | ⟨hoverlap, a, htangled⟩
  · exact iff_of_true (hearly.intact hfinished hover) hnot
  · exact iff_of_true (hapart.intact hfinished hover) hnot
  · exact iff_of_false (htangled.not_intact hfinished hover) (not_not_intro hoverlap)

/-! ## 6. Two writers and a reader -/

def sharedStore : FileStore := ⟨⟨["c.json"]⟩⟩

def twoWriters : Fin 3 → StoreCall
  | 0 => .add (.ofHosts [⟨"h-0"⟩, ⟨"h-1"⟩])
  | 1 => .add (.ofHosts [⟨"h-2"⟩])
  | 2 => .get

theorem setting_twoWriters : Setting sharedStore .empty twoWriters none where
  unlinked := ⟨fun k k' id hk => (nomatch hk), fun k id hk => (nomatch hk)⟩
  writable r := by with_unfolding_all rfl
  holds := by with_unfolding_all rfl
  stays := by with_unfolding_all rfl
  update
    | 0, r, h | 1, r, h | 2, r, h => nomatch h

/-- One after the other, they are in order. -/
theorem twoWriters_in_turn :
    Setting sharedStore .empty twoWriters none ∧
      ((start sharedStore .empty twoWriters).run [0, 0, 0, 0, 2, 1, 1, 1, 1]).Finished ∧
      Intact sharedStore twoWriters none
        ((start sharedStore .empty twoWriters).run [0, 0, 0, 0, 2, 1, 1, 1, 1]) := by
  have hfinished :
      ((start sharedStore .empty twoWriters).run [0, 0, 0, 0, 2, 1, 1, 1, 1]).Finished := by
    decide +kernel
  have hnot : ¬ Overlapping
      ((start sharedStore .empty twoWriters).run [0, 0, 0, 0, 2, 1, 1, 1, 1]).trace := by
    decide +kernel
  exact ⟨setting_twoWriters, hfinished, ((intact_iff setting_twoWriters _).2 hfinished).2 hnot⟩

/-- The second writer has opened the temporary file when the first one comes to it, and writes what
by then is the record's file: its text is the shorter one, so the rest of the other text stands
behind it, and that is what the reader finds. The second writer has nothing to rename. -/
theorem mixed_read :
    Setting sharedStore .empty twoWriters none ∧
      ((start sharedStore .empty twoWriters).run [1, 1, 0, 0, 0, 0, 1, 2, 1]).Finished ∧
      ((start sharedStore .empty twoWriters).run [1, 1, 0, 0, 0, 0, 1, 2, 1]).reply? 2 =
        some (.got (.error (.unreadable .malformed))) ∧
      ((start sharedStore .empty twoWriters).run [1, 1, 0, 0, 0, 0, 1, 2, 1]).reply? 1 =
        some (.wrote (.error (.file .notFound))) ∧
      ¬ Intact sharedStore twoWriters none
        ((start sharedStore .empty twoWriters).run [1, 1, 0, 0, 0, 0, 1, 2, 1]) := by
  have hread : ((start sharedStore .empty twoWriters).run [1, 1, 0, 0, 0, 0, 1, 2, 1]).reply? 2 =
      some (.got (.error (.unreadable .malformed))) := by
    decide +kernel
  refine ⟨setting_twoWriters, by decide +kernel, hread, by decide +kernel, fun h => ?_⟩
  obtain ⟨r, hr, -⟩ := h.gets 2 rfl
  rw [hread] at hr
  cases hr

end FileTeam

end ClusterKeeper
