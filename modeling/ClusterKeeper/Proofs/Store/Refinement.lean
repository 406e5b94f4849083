import ClusterKeeper.Proofs.Store.Alone
import ClusterKeeper.Store

/-!
# `Proofs/Store/Refinement.lean` — a store in a file is one in memory

Who calls a store, one call after another, cannot tell where it keeps its record. From a place where
there is no file yet and one can be written, a store in a file answers every sequence of calls as one
in memory does that begins with nothing (`RecordStore.file_refines_memory`).

The simulation relation is `RecordStore.Mirrors`: nothing has been written on either side, or the
file has the text of the record in memory and there is nothing beside it. Each call keeps it and is
answered alike (`Mirrors.call`), so a list of calls is, too (`Mirrors.calls`). That the file has the
text of a record is enough because the text of any record is read as that record.
-/

set_option autoImplicit false

namespace ClusterKeeper

open FileStore

namespace RecordStore

/-! ## 1. Calls one after another -/

/-- The store after a call, and what it has answered. -/
def call (s : RecordStore) : StoreCall → RecordStore × StoreReply
  | .get => (s.get.1, .got s.get.2)
  | .add r => ((s.add r).1, .wrote (s.add r).2)
  | .update r => ((s.update r).1, .wrote (s.update r).2)

/-- The store after some calls, and what it has answered to each of them. -/
def calls (s : RecordStore) : List StoreCall → RecordStore × List StoreReply
  | [] => (s, [])
  | c :: cs => (((s.call c).1.calls cs).1, (s.call c).2 :: ((s.call c).1.calls cs).2)

theorem call_file (s : FileStore) (fs : FileSystem) (c : StoreCall) :
    (file s fs).call c = (file s (fs.run (s.call c)).1, (fs.run (s.call c)).2) := by
  cases c with
  | get => rw [FileStore.call, run_map]; rfl
  | add r => rw [FileStore.call, run_map]; rfl
  | update r => rw [FileStore.call, run_map]; rfl

/-! ## 2. The simulation -/

variable {s : FileStore} {fs₀ fs : FileSystem} {m : MemoryStore}

/-- Both stores have nothing, and in the files nothing has changed, or both have the same record. -/
def Mirrors (s : FileStore) (fs₀ fs : FileSystem) (m : MemoryStore) : Prop :=
  m.writesFail = false ∧ match m.record with
    | none => fs = fs₀
    | some r => ∃ a : Site, a.Holds s fs r

/-- What a mirrored store needs of its files: there was none, and one can be written. -/
structure Vacant (s : FileStore) (fs : FileSystem) : Prop where
  unlinked : fs.Unlinked
  writable : s.Writable fs
  absent : fs.find s.path = .error .notFound

section
variable (hv : Vacant s fs₀) (h : Mirrors s fs₀ fs m)

include h

theorem Mirrors.memory_add (r : HostRecord) :
    m.add r = ({ m.noting (.add r) with record := some r }, .ok ()) := by
  rw [MemoryStore.add]
  exact if_neg (ne_true_of_eq_false h.1)

theorem Mirrors.memory_update (r : HostRecord) :
    m.update r = match m.record with
      | none => (m.noting (.update r), .error .notFound)
      | some _ => ({ m.noting (.update r) with record := some r }, .ok ()) := by
  rw [MemoryStore.update]
  exact if_neg (ne_true_of_eq_false h.1)

include hv

theorem Mirrors.run_get : fs.run s.get = (fs, .ok m.record) := by
  obtain ⟨-, hrecord⟩ := h
  cases hm : m.record with
  | none =>
    obtain rfl : fs = fs₀ := by rwa [hm] at hrecord
    rw [FileStore.run_get, FileSystem.read, hv.absent]
    rfl
  | some r =>
    obtain ⟨a, hholds⟩ : ∃ a : Site, a.Holds s fs r := by rwa [hm] at hrecord
    exact hholds.run_get

theorem Mirrors.run_add (r : HostRecord) :
    ∃ fs', fs.run (s.add r) = (fs', .ok ()) ∧ ∃ a : Site, a.Holds s fs' r := by
  obtain ⟨-, hrecord⟩ := h
  cases hm : m.record with
  | none =>
    obtain rfl : fs = fs₀ := by rwa [hm] at hrecord
    obtain ⟨fs', a, hrun, hholds⟩ := hv.writable.run_add hv.unlinked r
    exact ⟨fs', hrun, a, hholds⟩
  | some r' =>
    obtain ⟨a, hholds⟩ : ∃ a : Site, a.Holds s fs r' := by rwa [hm] at hrecord
    obtain ⟨fs', hrun, hholds'⟩ := hholds.run_add r
    exact ⟨fs', hrun, a, hholds'⟩

theorem Mirrors.run_update (r : HostRecord) :
    fs.run (s.update r) = match m.record with
      | none => (fs, .error .notFound)
      | some _ => fs.run (s.add r) := by
  have hget := h.run_get hv
  obtain ⟨-, hrecord⟩ := h
  cases hm : m.record with
  | none =>
    obtain rfl : fs = fs₀ := by rwa [hm] at hrecord
    exact run_update_absent hv.absent r
  | some r' =>
    rw [hm, FileStore.run_get, Prod.mk.injEq] at hget
    rw [FileStore.run_update, doesExist_of_read hget.2]

/-- A call is answered alike, and afterwards the stores still mirror each other. -/
theorem Mirrors.call (c : StoreCall) :
    ∃ fs' m' reply, (file s fs).call c = (file s fs', reply) ∧
      (memory m).call c = (memory m', reply) ∧ Mirrors s fs₀ fs' m' ∧
        (m'.record = none → m.record = none ∧ ∀ r, c ≠ .add r) := by
  rw [call_file]
  cases c with
  | get =>
    refine ⟨fs, m.noting .get, .got (.ok m.record), ?_, rfl, h, fun hnone => ⟨hnone, fun r => ?_⟩⟩
    · rw [FileStore.call, run_map, h.run_get hv]
    · exact StoreCall.noConfusion
  | add r =>
    obtain ⟨fs', hrun, hholds⟩ := h.run_add hv r
    refine ⟨fs', { m.noting (.add r) with record := some r }, .wrote (.ok ()), ?_, ?_,
      ⟨h.1, hholds⟩, fun hnone => absurd hnone (Option.some_ne_none r)⟩
    · rw [FileStore.call, run_map, hrun]
    · rw [RecordStore.call, RecordStore.add, h.memory_add]
  | update r =>
    obtain ⟨fs', hrun, hholds⟩ := h.run_add hv r
    have hupdate := h.run_update hv r
    have hmemory := h.memory_update r
    cases hm : m.record with
    | none =>
      rw [hm] at hupdate hmemory
      refine ⟨fs, m.noting (.update r), .wrote (.error .notFound), ?_, ?_, h,
        fun _ => ⟨rfl, fun r => ?_⟩⟩
      · rw [FileStore.call, run_map, hupdate]
      · rw [RecordStore.call, RecordStore.update, hmemory]
      · exact StoreCall.noConfusion
    | some r' =>
      rw [hm] at hupdate hmemory
      refine ⟨fs', { m.noting (.update r) with record := some r }, .wrote (.ok ()), ?_, ?_,
        ⟨h.1, hholds⟩, fun hnone => absurd hnone (Option.some_ne_none r)⟩
      · rw [FileStore.call, run_map, hupdate, hrun]
      · rw [RecordStore.call, RecordStore.update, hmemory]

/-- So are any number of calls. -/
theorem Mirrors.calls (cs : List StoreCall) :
    ∃ fs' m', (file s fs).calls cs = (file s fs', ((memory m).calls cs).2) ∧
      Mirrors s fs₀ fs' m' ∧ (m'.record = none → m.record = none ∧ ∀ r, .add r ∉ cs) := by
  induction cs generalizing fs m with
  | nil => exact ⟨fs, m, rfl, h, fun hnone => ⟨hnone, fun _ => List.not_mem_nil⟩⟩
  | cons c cs ih =>
    obtain ⟨fs', m', reply, hfile, hmemory, hnext, hadd⟩ := h.call hv c
    obtain ⟨fs'', m'', hrest, hlast, hadds⟩ := ih hnext
    refine ⟨fs'', m'', ?_, hlast, fun hnone => ?_⟩
    · rw [RecordStore.calls, RecordStore.calls, hfile, hmemory, hrest]
    · obtain ⟨hnone, hcs⟩ := hadds hnone
      obtain ⟨hnone, hc⟩ := hadd hnone
      exact ⟨hnone, fun r hmem => (List.mem_cons.1 hmem).elim (fun heq => hc r heq.symm) (hcs r)⟩

end

/-! ## 3. The refinement -/

/-- Where there is no file and one can be written, a store in a file is one in memory that begins
with nothing, and a temporary file is there afterwards only if one was there before and nothing has
been written. So any text of a record is read as that record; and what has been read from whatever
text is read again when it has been written back, for neither the order of the hosts in it counts nor
how often they are listed. -/
theorem file_refines_memory (hu : fs.Unlinked) (hw : s.Writable fs)
    (habsent : fs.find s.path = .error .notFound) :
    (∀ cs, ((file s fs).calls cs).2 = ((memory (.holding none)).calls cs).2 ∧
      ∃ fs', ((file s fs).calls cs).1 = file s fs' ∧
        (fs'.find s.temporary = .error .notFound ∨ fs' = fs ∧ ∀ r, .add r ∉ cs)) ∧
      (∀ r : HostRecord, HostRecord.ofText r.renderFile = .ok r) ∧
      (∀ fs' r, fs'.Unlinked → s.Writable fs' →
        ((file s fs').calls [.add r, .get]).2 = [.wrote (.ok ()), .got (.ok (some r))]) ∧
      (∀ hs, HostRecord.ofText (HostRecord.listing hs).renderPretty = .ok (.ofHosts hs)) ∧
      ∀ hs hs', (∀ h, h ∈ hs ↔ h ∈ hs') → HostRecord.ofHosts hs = .ofHosts hs' := by
  have hv : Vacant s fs := ⟨hu, hw, habsent⟩
  have hstart : Mirrors s fs fs (.holding none) := ⟨rfl, rfl⟩
  refine ⟨fun cs => ?_, HostRecord.ofText_renderFile, fun fs' r hu' hw' => ?_,
    HostRecord.ofText_listing, fun _ _ => HostRecord.ofHosts_congr⟩
  · obtain ⟨fs', m', hcalls, ⟨-, hrecord⟩, hadds⟩ := hstart.calls hv cs
    rw [hcalls]
    refine ⟨rfl, fs', rfl, ?_⟩
    cases hm : m'.record with
    | none =>
      rw [hm] at hrecord
      exact .inr ⟨hrecord, (hadds hm).2⟩
    | some r =>
      obtain ⟨a, hholds⟩ : ∃ a : Site, a.Holds s fs' r := by rwa [hm] at hrecord
      exact .inl hholds.find_temporary
  · obtain ⟨fs'', a, hrun, hholds⟩ := hw'.run_add hu' r
    simp only [calls, call_file, FileStore.call, run_map, hrun, hholds.run_get]

/-- An update too early, a record, another one. -/
theorem file_refines_memory_updated :
    FileSystem.empty.Unlinked ∧ FileStore.Writable ⟨⟨["etc", "c.json"]⟩⟩ .empty ∧
      FileSystem.empty.find ⟨["etc", "c.json"]⟩ = .error .notFound ∧
      ((file ⟨⟨["etc", "c.json"]⟩⟩ .empty).calls
          [.get, .update (.ofHosts [⟨"a"⟩]), .add (.ofHosts [⟨"\"\\\n"⟩, ⟨"ü"⟩]), .get,
            .update .empty, .get]).2 =
        [.got (.ok none), .wrote (.error .notFound), .wrote (.ok ()),
          .got (.ok (some (.ofHosts [⟨"ü"⟩, ⟨"\"\\\n"⟩]))), .wrote (.ok ()),
          .got (.ok (some .empty))] := by
  have hu : FileSystem.empty.Unlinked := ⟨nofun, nofun⟩
  have hw : FileStore.Writable ⟨⟨["etc", "c.json"]⟩⟩ .empty :=
    Site.exists_fits (r := .empty) (by with_unfolding_all rfl)
  have habsent : FileSystem.empty.find ⟨["etc", "c.json"]⟩ = .error .notFound := by
    with_unfolding_all rfl
  refine ⟨hu, hw, habsent, ((file_refines_memory hu hw habsent).1 _).1.trans ?_⟩
  decide +kernel

end RecordStore

end ClusterKeeper
