import ClusterKeeper.Proofs.Store.Alone
import ClusterKeeper.Proofs.Store.Tree

/-!
# `Proofs/Store/Interruption.lean` — writes that break off

A write takes four steps, an update one more before them, and each of them may fail and leave half
of its work behind: some of the directories, an empty file, a part of the text (`FileSystem.Leaves`).
Or the machine stops, between two steps or in the middle of one. `FileSystem.Reaches` has every
point that a call may come to in this way, with the files and what is left to do of the call there.

At each of them the path of the store is as before the write or shows the whole text of the new
record (`FileSystem.Sound.add_or_update`): only renaming touches what is there, and it is one step.
Up to then the invariant is that the path shows what it shows once some of the directories above it
have been made (`FileStore.Standing`), and that the open file is not the one at the path. What holds
of a write that got through needs no steps. Unless it has failed, a call comes to what it comes to
without faults, which is known already (`FileStore.holds_of_run_add`).

An update looks for its file before it touches anything. If the file is not there, or if it cannot be
told whether it is, the update is over with that (`FileStore.LooksFirst`).
-/

set_option autoImplicit false

namespace ClusterKeeper

open FileStore

/-! ## 1. Opening and writing the temporary file -/

namespace FileSystem

variable {fs fs' : FileSystem}

theorem openEmpty_error {p : FilePath} {e : FileError} (h : fs.openEmpty p = (fs', .error e)) :
    fs' = fs := by
  unfold openEmpty at h
  split at h
  · cases h; rfl
  · cases h; rfl
  · cases h; rfl
  · split at h <;> cases h <;> rfl

theorem rename_error {p q : FilePath} {e : FileError} (h : fs.rename p q = (fs', .error e)) :
    fs' = fs := by
  unfold rename at h
  split at h
  · cases h; rfl
  · cases h; rfl
  · split at h
    · cases h; rfl
    · cases h; rfl
    · cases h; rfl
    · cases h; rfl
    · split at h
      · cases h; rfl
      · split at h <;> cases h
        rfl
  · cases h; rfl

/-- An open file is one that went by its name before, or a new one. -/
theorem contents_of_openEmpty {p : FilePath} {id : ContentId}
    (h : fs.openEmpty p = (fs', .ok id)) :
    ∃ d name, fs.locate p = .ok (.entry d name false) ∧
      (fs.entries.get? (d ++ [name]) = some (.file id) ∨ id = fs.nextId) ∧
      fs'.contents = fs.contents.put id .empty := by
  unfold openEmpty at h
  split at h
  · cases h
  · cases h
  · cases h
  next d name hl =>
  refine ⟨d, name, hl, ?_⟩
  split at h
  · cases h
  · cases h
  · next hc =>
    cases h
    exact ⟨.inl (child_eq_ok.1 hc).2, rfl⟩
  · cases h
    exact ⟨.inr rfl, rfl⟩

theorem sight_overwrite {p : FilePath} {id : ContentId} (h : fs.find p ≠ .ok (.file id))
    (bytes : ByteArray) : (fs.overwrite id bytes).sight p = fs.sight p := by
  have hback : ∀ k e, (fs.overwrite id bytes).entries.get? k = some e →
      fs.entries.get? k = some e := fun _ _ h => h
  have hkept : ∀ k e, fs.entries.get? k = some e →
      (fs.overwrite id bytes).entries.get? k = some e := fun _ _ h => h
  refine sight_of_find (fun e => ⟨find_mono hback, find_mono hkept⟩) fun j hj => ?_
  rw [Site.content_overwrite, if_neg]
  rintro rfl
  exact h hj

/-- Opening the temporary file is not seen at the path, and is not opening the file there. -/
theorem Unlinked.openEmpty_temporary (hu : fs.Unlinked) {s : FileStore} {id : ContentId}
    (h : fs.openEmpty s.temporary = (fs', .ok id)) :
    fs'.sight s.path = fs.sight s.path ∧ fs'.find s.path ≠ .ok (.file id) := by
  obtain ⟨d, draftName, hl, -, hfree, hget⟩ := Site.locate_of_openEmpty h
  obtain ⟨d', name', hl', hwas, hcontents⟩ := contents_of_openEmpty h
  rw [hl] at hl'
  cases hl'
  have hdir : fs.DirectoriesIn fs' := by
    intro k hk
    rw [hget, if_neg]
    · exact hk
    · rintro rfl
      exact hfree hk
  have hback : fs'.DirectoriesIn fs := by
    intro k hk
    rw [hget] at hk
    split at hk
    · cases hk
    · exact hk
  -- The path may lead to a name beside the temporary one, and to no other file than before.
  have hfile : ∀ {d' name j}, fs.locate s.path = .ok (.entry d' name false) →
      (fs'.entries.get? (d' ++ [name]) = some (.file j) ↔
        fs.entries.get? (d' ++ [name]) = some (.file j)) := by
    intro d' name j hpath
    obtain ⟨rfl, hne⟩ := Site.draft_beside hpath hl
    rw [hget, if_neg (by simpa using hne.symm)]
  have hfind : ∀ j, fs'.find s.path = .ok (.file j) ↔ fs.find s.path = .ok (.file j) := by
    intro j
    rw [find_file_iff, find_file_iff]
    constructor
    · rintro ⟨d', name, hpath, hc⟩
      have hpath := locate_mono hback hpath
      obtain ⟨hshort, hc⟩ := child_eq_ok.1 hc
      exact ⟨d', name, hpath, child_eq_ok.2 ⟨hshort, (hfile hpath).1 hc⟩⟩
    · rintro ⟨d', name, hpath, hc⟩
      obtain ⟨hshort, hc⟩ := child_eq_ok.1 hc
      exact ⟨d', name, locate_mono hdir hpath, child_eq_ok.2 ⟨hshort, (hfile hpath).2 hc⟩⟩
  have hother : ∀ j, fs.find s.path = .ok (.file j) → j ≠ id := by
    rintro j hj rfl
    obtain ⟨d', name, hpath, hc⟩ := find_file_iff.1 hj
    have hc := (child_eq_ok.1 hc).2
    rcases hwas with hwas | rfl
    · obtain ⟨rfl, hne⟩ := Site.draft_beside hpath hl
      exact hne (by simpa using hu.single _ _ _ hwas hc)
    · exact absurd (hu.used _ _ hc) (Nat.lt_irrefl _)
  refine ⟨sight_of_find (fun e => ?_) fun j hj => ?_, fun hf => hother id ((hfind id).1 hf) rfl⟩
  · cases e with
    | directory => exact ⟨find_directory_mono hback, find_directory_mono hdir⟩
    | file j => exact hfind j
  · rw [Site.content_put hcontents, if_neg (hother j hj)]

end FileSystem

/-! ## 2. Faults -/

/-- The reply of a step that has failed. -/
def FileStep.failure (e : FileError) : (op : FileStep) → op.Reply
  | .doesExist _ | .makeDirectories _ | .openEmpty _ | .write _ _ | .rename _ _ | .read _ => .error e

namespace FileSystem

/-- What a step leaves behind that fails, or that is cut off. -/
inductive Leaves (fs : FileSystem) : FileStep → FileSystem → Prop
  | nothing (op : FileStep) : Leaves fs op fs
  | directories {p : FilePath} {fs' : FileSystem} (h : PartlyMade p.ancestors fs fs') :
      Leaves fs (.makeDirectories p) fs'
  | opened (p : FilePath) : Leaves fs (.openEmpty p) (fs.openEmpty p).1
  | written (id : ContentId) (bytes : ByteArray) (n : Nat) :
      Leaves fs (.write id bytes) (fs.overwrite id (bytes.extract 0 n))

/-- What a step may come to: it is taken as a whole, or it fails for whatever reason. -/
def Comes (fs : FileSystem) (op : FileStep) (fs' : FileSystem) (reply : op.Reply) : Prop :=
  fs.step op = (fs', reply) ∨ fs.Leaves op fs' ∧ ∃ e, reply = op.failure e

/-- The points that an activity may come to: the files, and what is left to do. -/
inductive Reaches {α : Type} (fs : FileSystem) (p : FileProgram α) :
    FileSystem → FileProgram α → Prop
  | start : Reaches fs p fs p
  | step {fs' fs'' : FileSystem} {op : FileStep} {next : op.Reply → FileProgram α}
      {reply : op.Reply} (h : Reaches fs p fs' (.ask op next)) (hs : fs'.Comes op fs'' reply) :
      Reaches fs p fs'' (next reply)

/-- From every point an activity may go on without any further fault. -/
theorem Reaches.run {α : Type} {fs fs' : FileSystem} {p rest : FileProgram α}
    (h : fs.Reaches p fs' rest) : fs.Reaches p (fs'.run rest).1 (.done (fs'.run rest).2) := by
  induction rest generalizing fs' with
  | done x => exact h
  | ask op next ih => exact ih _ (h.step (.inl rfl))

end FileSystem

/-! ## 3. How things stand until the renaming -/

namespace FileStore

open FileSystem (AsMade AsBefore PartlyMade Comes Leaves)

variable {s : FileStore} {c : StoreCall} {r : HostRecord} {fs fs' fs'' : FileSystem} {g g' : Phase}

/-- How things stand while a write is under way that has begun with the files `fs`. -/
def Standing (s : FileStore) (fs fs' : FileSystem) : Phase → Prop
  | .start => fs' = fs
  | .ready => PartlyMade s.path.parent.ancestors fs fs'
  | .opened id => AsMade s.path fs fs' ∧ fs'.find s.path ≠ .ok (.file id)
  | .written _ => AsMade s.path fs fs'
  | .over (.wrote (.ok _)) => True
  | .over (.wrote (.error _)) => AsMade s.path fs fs'
  | .over (.got _) => False

/-- A step that fails ends the write with its failure. -/
theorem Conduct.failed (hr : c.record? = some r) {op : FileStep} {e : FileError}
    (h : Conduct s c g op (op.failure e) g') : g' = .over (.wrote (.error (.file e))) := by
  cases op with
  | read p =>
    cases h with
    | read hget => exact absurd hr (StoreCall.record?_of_get hget r)
  | _ =>
    cases h
    rfl

/-- Whatever comes of a step, things stand as they should. -/
theorem Standing.step (hs : fs.Sound) (hr : c.record? = some r) (h : Standing s fs fs' g)
    {op : FileStep} {reply : op.Reply} (hc : Conduct s c g op reply g')
    (hcomes : fs'.Comes op fs'' reply) : Standing s fs fs'' g' := by
  cases hc with
  | read hget => exact absurd hr (StoreCall.record?_of_get hget r)
  | doesExist hup reply =>
    obtain rfl : fs' = fs := h
    obtain rfl : fs'' = fs' := by
      rcases hcomes with hstep | ⟨hleaves, -⟩
      · exact (congrArg Prod.fst hstep).symm
      · cases hleaves
        rfl
    have hmade : AsMade s.path fs'' fs'' := ⟨fs'', .none, rfl⟩
    cases reply with
    | error e => exact hmade
    | ok there =>
      cases there with
      | true => exact rfl
      | false => exact hmade
  | makeDirectories hup reply =>
    obtain rfl : fs' = fs := h
    have hmade : PartlyMade s.path.parent.ancestors fs' fs'' := by
      rcases hcomes with hstep | ⟨hleaves, -⟩
      · obtain rfl := congrArg Prod.fst hstep
        exact FileSystem.partlyMade_makeDirectories fs' _
      · cases hleaves with
        | nothing => exact .none
        | directories hmade => exact hmade
    cases reply with
    | error e => exact ⟨fs'', hmade, rfl⟩
    | ok _ => exact hmade
  | openEmpty reply =>
    have hmade : PartlyMade s.path.parent.ancestors fs fs' := h
    have hopened : ∀ {reply}, fs'.openEmpty s.temporary = (fs'', reply) →
        Standing s fs fs'' (onward .opened reply) ∧ AsMade s.path fs fs'' := by
      intro reply hopen
      cases reply with
      | error e =>
        obtain rfl := FileSystem.openEmpty_error hopen
        exact ⟨⟨fs'', hmade, rfl⟩, fs'', hmade, rfl⟩
      | ok id =>
        obtain ⟨hsight, hother⟩ := (hmade.sound hs).toUnlinked.openEmpty_temporary hopen
        exact ⟨⟨⟨fs', hmade, hsight⟩, hother⟩, fs', hmade, hsight⟩
    rcases hcomes with hstep | ⟨hleaves, e, rfl⟩
    · exact (hopened hstep).1
    · cases hleaves with
      | nothing => exact ⟨fs', hmade, rfl⟩
      | opened => exact (hopened (Prod.eta (fs'.openEmpty s.temporary)).symm).2
  | write hup id reply =>
    obtain ⟨⟨made, hmade, hsight⟩, hother⟩ := h
    have hwritten : ∀ bytes, AsMade s.path fs (fs'.overwrite id bytes) := fun bytes =>
      ⟨made, hmade, (FileSystem.sight_overwrite hother bytes).trans hsight⟩
    rcases hcomes with hstep | ⟨hleaves, e, rfl⟩
    · cases hstep
      exact hwritten _
    · cases hleaves with
      | nothing => exact ⟨made, hmade, hsight⟩
      | written => exact hwritten _
  | rename id reply =>
    have hmade : AsMade s.path fs fs' := h
    rcases hcomes with hstep | ⟨hleaves, e, rfl⟩
    · cases reply with
      | error e =>
        obtain rfl := FileSystem.rename_error hstep
        exact hmade
      | ok _ => trivial
    · cases hleaves
      exact hmade

/-- Nothing is left to do of a call that is over. -/
theorem rest_of_over {rest : FileProgram StoreReply} {x : StoreReply}
    (h : rest.Follows (Conduct s c) Ending (.over x)) : rest = .done x := by
  cases rest with
  | done y =>
    have hover : Phase.over x = .over y := h
    cases hover
    rfl
  | ask op next =>
    obtain ⟨g', hc, -⟩ := h.ask (op.failure .notFound)
    cases hc

/-- Where a write has come to there is a phase in which things stand as they should, and unless it
has failed the write goes on as it would have done without faults. -/
theorem reached (hs : fs.Sound) (hr : c.record? = some r) {rest : FileProgram StoreReply}
    (h : fs.Reaches (s.call c) fs' rest) :
    ∃ g, rest.Follows (Conduct s c) Ending g ∧ Standing s fs fs' g ∧
      ((∃ e, g = .over (.wrote (.error e))) ∨ fs'.run rest = fs.run (s.call c)) := by
  induction h with
  | start => exact ⟨.start, call_follows s c, rfl, .inr rfl⟩
  | step h hcomes ih =>
    obtain ⟨g, hfollows, hstanding, hrun⟩ := ih
    obtain ⟨g', hc, hnext⟩ := hfollows.ask _
    refine ⟨g', hnext, hstanding.step hs hr hc hcomes, ?_⟩
    rcases hcomes with hstep | ⟨-, e, rfl⟩
    · refine .inr ?_
      rcases hrun with ⟨e, rfl⟩ | hrun
      · cases hc
      · rw [← hrun, FileSystem.run_ask, hstep]
    · exact .inl ⟨_, hc.failed hr⟩

/-- Why an update goes no further that has looked for its file, if it does not. -/
def noUpdate? : Except FileError Bool → Option StoreError
  | .ok true => none
  | .ok false => some .notFound
  | .error e => some (.file e)

/-- An update looks for its file first. Whatever comes of looking, nothing has been touched by then,
and unless the file is there nothing more is done. -/
structure LooksFirst (s : FileStore) (r : HostRecord)
    (next : Except FileError Bool → FileProgram StoreReply) : Prop where
  looks : s.call (.update r) = .ask (.doesExist s.path) next
  untouched : ∀ fs fs' look, Comes fs (.doesExist s.path) fs' look → fs' = fs
  ends : ∀ look cause, noUpdate? look = some cause → next look = .done (.wrote (.error cause))

theorem looksFirst (s : FileStore) (r : HostRecord) : ∃ next, LooksFirst s r next := by
  refine ⟨fun look => StoreReply.wrote <$> onOk (fun there =>
    if there then (s.write r).run else .done (.error .notFound)) look, ?_, ?_, ?_⟩
  · rw [call, update_eq]
    rfl
  · rintro fs fs' look (hstep | ⟨hleaves, -⟩)
    · exact (congrArg Prod.fst hstep).symm
    · cases hleaves
      rfl
  · intro look cause hcause
    cases look with
    | error e =>
      cases hcause
      rfl
    | ok there =>
      cases there with
      | true => cases hcause
      | false =>
        cases hcause
        rfl

/-- Where there is no file to be found, looking for it gives a reason not to go on. -/
theorem noUpdate?_of_comes {p : FilePath} {e : FileError} (he : fs.find p = .error e)
    {look : Except FileError Bool} (h : Comes fs (.doesExist p) fs' look) :
    ∃ cause, noUpdate? look = some cause := by
  rcases h with hstep | ⟨-, e, rfl⟩
  · obtain rfl : fs.doesExist p = look := congrArg Prod.snd hstep
    rw [FileSystem.doesExist, he]
    cases e <;> exact ⟨_, rfl⟩
  · exact ⟨_, rfl⟩

/-- An update of a file that is not to be found touches nothing, whatever comes of looking for it. -/
theorem reached_unfound {e : FileError} (he : fs.find s.path = .error e)
    {rest : FileProgram StoreReply} (h : fs.Reaches (s.call (.update r)) fs' rest) :
    fs' = fs ∧ (rest = s.call (.update r) ∨ ∃ look cause, Comes fs (.doesExist s.path) fs look ∧
      noUpdate? look = some cause ∧ rest = .done (.wrote (.error cause))) := by
  obtain ⟨next, hlooks⟩ := looksFirst s r
  induction h with
  | start => exact ⟨rfl, .inl rfl⟩
  | step h hcomes ih =>
    obtain ⟨rfl, hnext | ⟨look, cause, -, -, hdone⟩⟩ := ih
    · rw [hlooks.looks] at hnext
      cases hnext
      obtain rfl := hlooks.untouched _ _ _ hcomes
      obtain ⟨cause, hcause⟩ := noUpdate?_of_comes he hcomes
      exact ⟨rfl, .inr ⟨_, cause, hcomes, hcause, hlooks.ends _ _ hcause⟩⟩
    · cases hdone

/-- What there is at the path wherever a write may have come to, with this left to do of it. -/
structure AllOrNothing (s : FileStore) (c : StoreCall) (r : HostRecord) (fs fs' : FileSystem)
    (rest : FileProgram StoreReply) : Prop where
  kept : AsBefore s.path fs fs' ∨ fs'.sight s.path = .file r.renderFile.toUTF8
  failed : ∀ e, rest = .done (.wrote (.error e)) → AsBefore s.path fs fs'
  through : rest = .done (.wrote (.ok ())) →
    fs'.sight s.path = .file r.renderFile.toUTF8 ∧ fs'.run s.get = (fs', .ok (some r))
  unfound : c = .update r → ∀ e, fs.find s.path = .error e →
    fs' = fs ∧ (rest = s.call c ∨ ∃ look cause, Comes fs (.doesExist s.path) fs look ∧
      noUpdate? look = some cause ∧ rest = .done (.wrote (.error cause)))

theorem allOrNothing_of_reaches (hs : fs.Sound) (hr : c.record? = some r)
    {rest : FileProgram StoreReply} (h : fs.Reaches (s.call c) fs' rest) :
    AllOrNothing s c r fs fs' rest := by
  obtain ⟨g, hfollows, hstanding, hrun⟩ := reached hs hr h
  have hwritten : g = .over (.wrote (.ok ())) →
      fs'.sight s.path = .file r.renderFile.toUTF8 ∧ fs'.run s.get = (fs', .ok (some r)) := by
    rintro rfl
    obtain ⟨e, he⟩ | hrun := hrun
    · cases he
    rw [rest_of_over hfollows] at hrun
    obtain ⟨a, hholds⟩ := holds_of_run_call hs.toUnlinked hr hrun.symm
    exact ⟨FileSystem.sight_of_read hholds.read, hholds.run_get⟩
  refine ⟨?_, ?_, ?_, ?_⟩
  · cases g with
    | start =>
      obtain rfl : fs' = fs := hstanding
      exact .inl (.inl rfl)
    | ready =>
      have hmade : PartlyMade s.path.parent.ancestors fs fs' := hstanding
      exact .inl (AsMade.asBefore ⟨fs', hmade, rfl⟩ hs)
    | opened id => exact .inl (hstanding.1.asBefore hs)
    | written id => exact .inl (AsMade.asBefore hstanding hs)
    | «over» x =>
      cases x with
      | got reply => exact hstanding.elim
      | wrote reply =>
        cases reply with
        | ok _ => exact .inr (hwritten rfl).1
        | error e => exact .inl (AsMade.asBefore hstanding hs)
  · rintro e rfl
    obtain rfl : g = .over (.wrote (.error e)) := hfollows
    exact AsMade.asBefore hstanding hs
  · rintro rfl
    exact hwritten hfollows
  · rintro rfl e he
    exact reached_unfound he h

end FileStore

/-! ## 4. All or nothing -/

/-- A write is all or nothing, whatever stops it and wherever. An update whose file is not to be found
is over with the reason, and with all as it was. -/
theorem FileSystem.Sound.add_or_update {fs : FileSystem} (hs : fs.Sound) (s : FileStore)
    {c : StoreCall} {r : HostRecord} (hr : c.record? = some r) :
    (∀ fs' rest, fs.Reaches (s.call c) fs' rest → AllOrNothing s c r fs fs' rest) ∧
      (fs.find s.path = .error .notFound → fs.run (s.update r) = (fs, .error .notFound)) ∧
      (∀ e, e ≠ .notFound → fs.find s.path = .error e →
        fs.run (s.update r) = (fs, .error (.file e))) ∧
      (∃ next, LooksFirst s r next) ∧
      ∀ name, s.path.name? = some name → s.temporary.names ≠ s.path.names :=
  ⟨fun _ _ => allOrNothing_of_reaches hs hr, fun habsent => run_update_absent habsent r,
    fun _ he hunseen => run_update_unseen he hunseen r, looksFirst s r,
    fun _ => FilePath.names_withExtension_ne⟩

/-- Where the temporary file can be opened, a write may break off after any part of its text. -/
theorem FileStore.reaches_torn {s : FileStore} {fs made opened : FileSystem} {id : ContentId}
    (hmade : fs.makeDirectories s.path.parent = (made, .ok ()))
    (hopened : made.openEmpty s.temporary = (opened, .ok id)) (r : HostRecord) (n : Nat)
    (e : FileError) :
    fs.Reaches (s.call (.add r)) (opened.overwrite id (r.renderFile.toUTF8.extract 0 n))
      (.done (.wrote (.error (.file e)))) := by
  have hstart : fs.Reaches (s.call (.add r)) fs (.wrote <$> s.add r) := .start
  rw [add, run_write] at hstart
  exact ((hstart.step (.inl hmade)).step (.inl hopened)).step (.inr ⟨.written id _ n, e, rfl⟩)

/-- A file with some text at `c.json`. -/
def keptFile : FileSystem := (FileSystem.empty.writeFile ⟨["c.json"]⟩ "old".toUTF8).1

/-- A write that breaks off in the middle of its text has not touched the file, nor has an update at a
path that leads through the file as if it were a directory. -/
theorem add_or_update_torn :
    keptFile.Sound ∧ StoreCall.record? (.add (.ofHosts [⟨"h"⟩])) = some (.ofHosts [⟨"h"⟩]) ∧
      ∃ torn rest,
        keptFile.Reaches (FileStore.call ⟨⟨["c.json"]⟩⟩ (.add (.ofHosts [⟨"h"⟩]))) torn rest ∧
          torn.sight ⟨["c.json.tmp"]⟩ = .file "\x7b\n  \"me".toUTF8 ∧
          torn.sight ⟨["c.json"]⟩ = .file "old".toUTF8 ∧
          FileStore.AllOrNothing ⟨⟨["c.json"]⟩⟩ (.add (.ofHosts [⟨"h"⟩])) (.ofHosts [⟨"h"⟩])
            keptFile torn rest ∧
          keptFile.run (FileStore.update ⟨⟨["c.json", "d.json"]⟩⟩ (.ofHosts [⟨"h"⟩])) =
            (keptFile, .error (.file .notADirectory)) := by
  have hs : keptFile.Sound := FileSystem.sound_empty.writeFile _ _
  have hreaches : keptFile.Reaches
      (FileStore.call ⟨⟨["c.json"]⟩⟩ (.add (.ofHosts [⟨"h"⟩]))) _ _ :=
    reaches_torn (by with_unfolding_all rfl) (by with_unfolding_all rfl) _ 7 .notText
  have hunseen := (hs.add_or_update ⟨⟨["c.json", "d.json"]⟩⟩ (c := .add (.ofHosts [⟨"h"⟩])) rfl).2.2.1
  refine ⟨hs, rfl, _, _, hreaches, ?_, ?_, (hs.add_or_update _ rfl).1 _ _ hreaches,
    hunseen .notADirectory (by decide) ?_⟩
  · decide +kernel
  · decide +kernel
  · decide +kernel

/-- Beside the file there is a directory where the temporary file would have to be. -/
def blockedFile : FileSystem :=
  let old := (HostRecord.ofHosts [⟨"h"⟩]).renderFile.toUTF8
  ((FileSystem.empty.writeFile ⟨["c.json"]⟩ old).1.makeDirectory ⟨["c.json.tmp"]⟩).1

/-- A path that goes up out of a directory which is not there shows nothing. A write that fails has
made the directory, and then the path shows a file which was there all along. -/
theorem file_comes_to_light :
    let s : FileStore := ⟨⟨["a", "..", "c.json"]⟩⟩
    let r := HostRecord.ofHosts [⟨"x"⟩]
    blockedFile.Sound ∧ blockedFile.sight s.path = .nothing ∧
      (blockedFile.run s.get).2 = .ok none ∧
      (blockedFile.run (s.add r)).2 = .error (.file .isADirectory) ∧
      (blockedFile.run (s.add r)).1.sight s.path =
        .file (HostRecord.ofHosts [⟨"h"⟩]).renderFile.toUTF8 ∧
      (blockedFile.run (s.add r)).1.sight s.path ≠ .file r.renderFile.toUTF8 ∧
      ((blockedFile.run (s.add r)).1.run s.get).2 = .ok (some (.ofHosts [⟨"h"⟩])) := by
  have hs : blockedFile.Sound := (FileSystem.sound_empty.writeFile _ _).makeDirectory _
  exact ⟨hs, by decide +kernel⟩

end ClusterKeeper
