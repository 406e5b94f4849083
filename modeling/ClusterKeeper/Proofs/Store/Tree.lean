import ClusterKeeper.Proofs.Store.Site
import ClusterKeeper.Proofs.Store.Walks

/-!
# `Proofs/Store/Tree.lean` — what there is to see at a path

`FileSystem.sight` is what a path shows, whether it is reached through the same names as before or
not: nothing, a directory, or a file with these bytes. Making directories takes none of that away
(`Grown.sight`). Can it bring something to light? Where each name is in a directory that is there
(`FileSystem.Sound`, which every step keeps: `Sound.step`), a path without steps upwards leads only
through its own names, and the directories above it are shorter, so what it shows was there before
(`PartlyMade.find_back`).

A path such as `a/../c` is different. It leads nowhere as long as there is no `a`, and to `c`, which
may have been there all along, once there is one. `FileSystem.AsBefore` makes that exception and no
other; `AsMade.asBefore` is the result that is used: however many of the directories above a
path have been made, what the path shows is as before.
-/

set_option autoImplicit false

namespace ClusterKeeper

/-- What a path shows. -/
inductive Sight
  | nothing
  | directory
  | file (bytes : ByteArray)

instance : DecidableEq Sight
  | .nothing, .nothing => isTrue rfl
  | .directory, .directory => isTrue rfl
  | .file bytes, .file bytes' =>
    decidable_of_iff (bytes.data = bytes'.data) (by rw [Sight.file.injEq, ByteArray.ext_iff])
  | .nothing, .directory | .nothing, .file _ | .directory, .nothing | .directory, .file _
  | .file _, .nothing | .file _, .directory => isFalse (by simp)

namespace FileSystem

variable {fs fs' : FileSystem}

/-! ## 1. Sight -/

def sight (fs : FileSystem) (p : FilePath) : Sight :=
  match fs.find p with
  | .error _ => .nothing
  | .ok .directory => .directory
  | .ok (.file id) => .file (fs.content id)

/-- What is found at a path decides what is seen there. -/
theorem sight_of_find {p : FilePath} (hfind : ∀ e, fs'.find p = .ok e ↔ fs.find p = .ok e)
    (hcontent : ∀ id, fs.find p = .ok (.file id) → fs'.content id = fs.content id) :
    fs'.sight p = fs.sight p := by
  unfold sight
  cases hf : fs.find p with
  | ok e =>
    rw [(hfind e).2 hf]
    cases e with
    | directory => rfl
    | file id => exact congrArg Sight.file (hcontent id hf)
  | error e =>
    cases hf' : fs'.find p with
    | error e' => rfl
    | ok e' =>
      rw [(hfind e').1 hf'] at hf
      cases hf

theorem sight_of_read {p : FilePath} {bytes : ByteArray} (h : fs.read p = .ok bytes) :
    fs.sight p = .file bytes := by
  unfold read at h
  unfold sight
  cases hf : fs.find p with
  | error e =>
    rw [hf] at h
    cases h
  | ok entry =>
    rw [hf] at h
    cases entry with
    | directory => cases h
    | file id =>
      cases h
      rfl

/-- What is found is found wherever all that is there is there, too. -/
theorem find_mono (hkept : ∀ k e, fs.entries.get? k = some e → fs'.entries.get? k = some e)
    {p : FilePath} {e : FileEntry} (hf : fs.find p = .ok e) : fs'.find p = .ok e := by
  unfold find at hf ⊢
  cases hl : fs.locate p with
  | error e =>
    rw [hl] at hf
    cases hf
  | ok place =>
    rw [hl] at hf
    rw [locate_mono (fun k hk => hkept k _ hk) hl]
    cases place with
    | directory d => exact hf
    | entry d name closed =>
      dsimp only at hf ⊢
      cases hc : fs.child d name with
      | error e =>
        rw [hc] at hf
        cases hf
      | ok there =>
        obtain ⟨hshort, hget⟩ := child_eq_ok.1 hc
        rw [hc] at hf
        cases there with
        | none => cases hf
        | some there =>
          rw [child_eq_ok.2 ⟨hshort, hkept _ _ hget⟩]
          exact hf

theorem Grown.content (h : fs.Grown fs') (id : ContentId) : fs'.content id = fs.content id := by
  rw [FileSystem.content, FileSystem.content, h.contents]

/-- What can be found goes on being found. -/
theorem Grown.sight (h : fs.Grown fs') {p : FilePath} (hp : fs.sight p ≠ .nothing) :
    fs'.sight p = fs.sight p := by
  unfold FileSystem.sight at hp ⊢
  cases hf : fs.find p with
  | error e =>
    rw [hf] at hp
    exact absurd rfl hp
  | ok e =>
    rw [find_mono h.kept hf]
    cases e with
    | directory => rfl
    | file id => exact congrArg Sight.file (h.content id)

/-! ## 2. Where everything has its place -/

/-- There is a directory by these names. -/
def HasDirectory (fs : FileSystem) (d : List String) : Prop :=
  d = [] ∨ fs.entries.get? d = some .directory

/-- A file system without links: no file has two names, and whatever is there is in a directory. -/
structure Sound (fs : FileSystem) : Prop extends fs.Unlinked where
  rooted : ∀ d name e, fs.entries.get? (d ++ [name]) = some e → fs.HasDirectory d

theorem Sound.above (hs : fs.Sound) {d more : List String} (h : fs.HasDirectory (d ++ more)) :
    fs.HasDirectory d := by
  induction more using List.reverseRecOn with
  | nil => rwa [List.append_nil] at h
  | append_singleton more name ih =>
    refine ih ?_
    rw [← List.append_assoc] at h
    rcases h with h | h
    · simp at h
    · exact hs.rooted _ _ _ h

/-- Where a path leads when there are more directories, it leads already if its end is there. -/
theorem Sound.walk_back (hs : fs.Sound) {here parts d : List String} (hup : ".." ∉ parts)
    (h : fs'.walk here parts = .ok d) (hd : fs.HasDirectory d) : fs.walk here parts = .ok d := by
  induction parts generalizing here with
  | nil => exact h
  | cons part rest ih =>
    have hrest : ".." ∉ rest := fun hr => hup (.tail _ hr)
    rw [walk] at h ⊢
    split
    · next hleads =>
      rw [if_pos hleads] at h
      exact ih hrest h
    · next hleads =>
      rw [if_neg hleads] at h
      have hdown : ¬ part = ".." := fun hpart => hup (hpart ▸ .head _)
      rw [if_neg hdown] at h ⊢
      split at h
      · cases h
      · cases h
      · cases h
      · next hc =>
        have hthere : fs.HasDirectory (here ++ [part]) := by
          rw [walk_names hrest h] at hd
          exact hs.above hd
        rcases hthere with hnil | hthere
        · simp at hnil
        rw [child_eq_ok.2 ⟨(child_eq_ok.1 hc).1, hthere⟩]
        exact ih hrest h

/-- A walk ends in a directory. -/
theorem Sound.hasDirectory (hs : fs.Sound) {here parts d : List String}
    (hhere : fs.HasDirectory here) (h : fs.walk here parts = .ok d) : fs.HasDirectory d := by
  induction parts generalizing here with
  | nil =>
    cases h
    exact hhere
  | cons part rest ih =>
    rw [walk] at h
    split at h
    · exact ih hhere h
    · split at h
      · refine ih ?_ h
        rcases List.eq_nil_or_concat here with rfl | ⟨above, name, rfl⟩
        · exact .inl rfl
        · rw [List.concat_eq_append] at hhere ⊢
          rw [List.dropLast_concat]
          exact hs.above hhere
      · split at h
        · cases h
        · cases h
        · cases h
        · next hc => exact ih (.inr (child_eq_ok.1 hc).2) h

/-- The directory of a name that a path leads to is there. -/
theorem Sound.hasDirectory_of_locate (hs : fs.Sound) {p : FilePath} {d : List String}
    {name : String} {closed : Bool} (h : fs.locate p = .ok (.entry d name closed)) :
    fs.HasDirectory d := by
  obtain ⟨-, -, -, -, front, -, hwalk⟩ := locate_entry_iff.1 h
  exact hs.hasDirectory (.inl rfl) hwalk

theorem Sound.makeDirectory (hs : fs.Sound) (p : FilePath) : (fs.makeDirectory p).1.Sound := by
  have hgrown := grown_makeDirectory fs p
  refine ⟨hgrown.unlinked hs.toUnlinked, fun d name e hk => ?_⟩
  have hkeeps : fs.HasDirectory d → (fs.makeDirectory p).1.HasDirectory d :=
    fun h => h.imp_right (hgrown.directories d)
  unfold FileSystem.makeDirectory at hk
  split at hk
  · exact hkeeps (hs.rooted d name e hk)
  · exact hkeeps (hs.rooted d name e hk)
  · next hl =>
    split at hk
    · exact hkeeps (hs.rooted d name e hk)
    · exact hkeeps (hs.rooted d name e hk)
    · rw [OrderedMap.get?_put] at hk
      split at hk
      · next heq =>
        obtain ⟨rfl, -⟩ := List.append_inj' heq rfl
        exact hkeeps (hs.hasDirectory_of_locate hl)
      · exact hkeeps (hs.rooted d name e hk)

/-! ## 3. Directories that are made -/

/-- Some of these directories have been made, in any order. -/
inductive PartlyMade (ps : List FilePath) (fs : FileSystem) : FileSystem → Prop
  | none : PartlyMade ps fs fs
  | more {fs' : FileSystem} {p : FilePath} (h : PartlyMade ps fs fs') (hp : p ∈ ps) :
      PartlyMade ps fs (fs'.makeDirectory p).1

section
variable {ps : List FilePath}

theorem PartlyMade.grown (h : PartlyMade ps fs fs') : fs.Grown fs' := by
  induction h with
  | none => exact .refl fs
  | more h hp ih => exact ih.trans (grown_makeDirectory _ _)

theorem PartlyMade.sound (h : PartlyMade ps fs fs') (hs : fs.Sound) : fs'.Sound := by
  induction h with
  | none => exact hs
  | more h hp ih => exact ih.makeDirectory _

theorem PartlyMade.ensureDirectory (h : PartlyMade ps fs fs') {p : FilePath} (hp : p ∈ ps) :
    PartlyMade ps fs (fs'.ensureDirectory p).1 := by
  have hmade := h.more hp
  unfold FileSystem.ensureDirectory
  split
  · next hm =>
    rw [hm] at hmade
    exact hmade
  · exact hmade

theorem PartlyMade.ensureFirst (h : PartlyMade ps fs fs') {qs : List FilePath} (hq : qs ⊆ ps) :
    PartlyMade ps fs (fs'.ensureFirst qs).1 := by
  induction qs generalizing fs' with
  | nil => exact h
  | cons q above ih =>
    rw [FileSystem.ensureFirst]
    have hmade := h.ensureDirectory (hq (.head _))
    split
    · have habove := ih h (List.subset_of_cons_subset hq)
      split
      · next hm =>
        rw [hm] at habove
        exact habove.ensureDirectory (hq (.head _))
      · exact habove
    · exact hmade

theorem partlyMade_makeDirectories (fs : FileSystem) (p : FilePath) :
    PartlyMade p.ancestors fs (fs.makeDirectories p).1 :=
  PartlyMade.none.ensureFirst (List.Subset.refl _)

/-- Directories that are there are not made. -/
theorem PartlyMade.eq_of_find (h : PartlyMade ps fs fs')
    (hps : ∀ p ∈ ps, fs.find p = .ok .directory) : fs' = fs := by
  induction h with
  | none => rfl
  | more h hp ih =>
    subst ih
    rw [makeDirectory_of_find (hps _ hp)]

/-- A directory that has been made has the names of its path. -/
theorem makeDirectory_names {p : FilePath} (hup : ".." ∉ p.parts) {k : List String} {e : FileEntry}
    (h : (fs.makeDirectory p).1.entries.get? k = some e) :
    fs.entries.get? k = some e ∨ k = p.names := by
  unfold makeDirectory at h
  split at h
  · exact .inl h
  · exact .inl h
  · next hl =>
    split at h
    · exact .inl h
    · exact .inl h
    · rw [OrderedMap.get?_put] at h
      split at h
      · next hk => exact .inr (hk.trans (names_of_locate hup hl).symm)
      · exact .inl h

theorem PartlyMade.entries (h : PartlyMade ps fs fs') (hup : ∀ p ∈ ps, ".." ∉ p.parts)
    {k : List String} {e : FileEntry} (hk : fs'.entries.get? k = some e) :
    fs.entries.get? k = some e ∨ ∃ p ∈ ps, k = p.names := by
  induction h with
  | none => exact .inl hk
  | more h hp ih =>
    rcases makeDirectory_names (hup _ hp) hk with hk | hk
    · exact ih hk
    · exact .inr ⟨_, hp, hk⟩

end

/-! ## 4. Every step leaves everything in its place -/

/-- A file gets a name in a directory; it is a new one, or its old name is gone. -/
theorem Sound.put (hs : fs.Sound) {entries : OrderedMap (List String) FileEntry} {d : List String}
    {name : String} {id : ContentId} (hd : fs.HasDirectory d)
    (hfree : fs.entries.get? (d ++ [name]) ≠ some .directory)
    (hfiles : ∀ k j, entries.get? k = some (.file j) → fs.entries.get? k = some (.file j) ∧ j ≠ id)
    (hdirs : ∀ k, entries.get? k = some .directory ↔ fs.entries.get? k = some .directory)
    (hentries : fs'.entries = entries.put (d ++ [name]) (.file id)) (hid : id < fs'.nextId)
    (hnext : fs.nextId ≤ fs'.nextId) : fs'.Sound := by
  refine ⟨hs.toUnlinked.put hfiles hentries hid hnext, fun d' name' e hk => ?_⟩
  have hkept : ∀ {d'}, fs.HasDirectory d' → fs'.HasDirectory d' := by
    refine fun h => h.imp_right fun hk => ?_
    rw [hentries, OrderedMap.get?_put, if_neg]
    · exact (hdirs _).2 hk
    · rintro rfl
      exact hfree hk
  refine hkept ?_
  rw [hentries, OrderedMap.get?_put] at hk
  split at hk
  · next heq =>
    obtain ⟨rfl, -⟩ := List.append_inj' heq rfl
    exact hd
  · cases e with
    | directory => exact hs.rooted d' name' _ ((hdirs _).1 hk)
    | file j => exact hs.rooted d' name' _ (hfiles _ _ hk).1

theorem Sound.openEmpty (hs : fs.Sound) (p : FilePath) : (fs.openEmpty p).1.Sound := by
  unfold FileSystem.openEmpty
  split
  · exact hs
  · exact hs
  · exact hs
  next d name hl =>
  split
  · exact hs
  · exact hs
  · exact ⟨⟨hs.single, hs.used⟩, hs.rooted⟩
  · next hc =>
    refine hs.put (hs.hasDirectory_of_locate hl) ?_ (fun k j hk => ⟨hk, ?_⟩) (fun k => Iff.rfl) rfl
      (Nat.lt_succ_self _) (Nat.le_succ _)
    · rw [(child_eq_ok.1 hc).2]
      exact nofun
    · exact Nat.ne_of_lt (hs.used _ _ hk)

theorem Sound.overwrite (hs : fs.Sound) (id : ContentId) (bytes : ByteArray) :
    (fs.overwrite id bytes).Sound :=
  ⟨⟨hs.single, hs.used⟩, hs.rooted⟩

theorem Sound.rename (hs : fs.Sound) (p q : FilePath) : (fs.rename p q).1.Sound := by
  unfold FileSystem.rename
  split
  · exact hs
  · exact hs
  · next hp hq =>
    split
    · exact hs
    · exact hs
    · exact hs
    · exact hs
    · next id there hc hc' =>
      have hwas := (child_eq_ok.1 hc).2
      split
      · exact hs
      split
      · exact hs
      · next hfree =>
        rw [← (child_eq_ok.1 hc').2] at hfree
        refine hs.put (hs.hasDirectory_of_locate hq) hfree (fun k j hk => ?_) (fun k => ?_) rfl
          (hs.used _ _ hwas) (Nat.le_refl _)
        · rw [OrderedMap.get?_erase] at hk
          split at hk
          · cases hk
          · next hne =>
            refine ⟨hk, ?_⟩
            rintro rfl
            exact hne (hs.single _ _ _ hk hwas)
        · rw [OrderedMap.get?_erase]
          split
          · next heq =>
            rw [heq, hwas]
            simp
          · exact Iff.rfl
  · exact hs

theorem sound_empty : FileSystem.empty.Sound :=
  ⟨⟨nofun, nofun⟩, nofun⟩

/-- Every step keeps everything in its place. -/
theorem Sound.step (hs : fs.Sound) (op : FileStep) : (fs.step op).1.Sound := by
  cases op with
  | doesExist p => exact hs
  | makeDirectories p => exact (partlyMade_makeDirectories fs p).sound hs
  | openEmpty p => exact hs.openEmpty p
  | write id bytes => exact hs.overwrite id bytes
  | rename p q => exact hs.rename p q
  | read p => exact hs

theorem Sound.writeFile (hs : fs.Sound) (p : FilePath) (bytes : ByteArray) :
    (fs.writeFile p bytes).1.Sound := by
  have hmade := (partlyMade_makeDirectories fs p.parent).sound hs
  unfold FileSystem.writeFile
  split
  · next hm =>
    rw [hm] at hmade
    exact hmade
  · next hm =>
    rw [hm] at hmade
    have hopened := hmade.openEmpty p
    split
    · next ho =>
      rw [ho] at hopened
      exact hopened
    · next ho =>
      rw [ho] at hopened
      exact hopened.overwrite _ _

/-! ## 5. What comes to light -/

/-- Making directories above a path that has no steps upwards brings nothing to light there. -/
theorem PartlyMade.find_back (hs : fs.Sound) {p : FilePath} (hup : ".." ∉ p.parts)
    (h : PartlyMade p.parent.ancestors fs fs') {e : FileEntry} (hf : fs'.find p = .ok e) :
    fs.find p = .ok e := by
  have hups : ∀ q ∈ p.parent.ancestors, ".." ∉ q.parts := fun q hq hmem =>
    hup (p.parent_prefix.subset ((FilePath.prefix_of_mem_ancestors hq).subset hmem))
  cases e with
  | directory =>
    obtain ⟨hpassable, d, hd⟩ := find_directory_iff.1 hf
    refine find_directory_iff.2 ⟨hpassable, d, hs.walk_back hup hd ?_⟩
    obtain rfl : d = p.names := walk_names hup hd
    rcases (h.sound hs).hasDirectory (.inl rfl) hd with hroot | hget
    · exact .inl hroot
    rcases h.entries hups hget with hget | ⟨q, hq, hnames⟩
    · exact .inr hget
    · -- The names of the directories that are made are fewer.
      have hprefix : q.names <+: p.parent.names :=
        (FilePath.prefix_of_mem_ancestors hq).filter FilePath.leads
      rw [FilePath.names_parent, ← hnames] at hprefix
      have hlength := hprefix.length_le
      rw [List.length_dropLast] at hlength
      exact .inl (List.length_eq_zero_iff.1 (by omega))
  | file id =>
    obtain ⟨d, name, hl, hc⟩ := find_file_iff.1 hf
    obtain ⟨hshort, hget⟩ := child_eq_ok.1 hc
    have hget := h.grown.files _ _ hget
    obtain ⟨hpassable, hclosed, hpoint, hdown, front, hparts, hwalk⟩ := locate_entry_iff.1 hl
    have hupFront : ".." ∉ front := fun hmem => by
      have hmem : ".." ∈ p.parts.filter (· ≠ "") := hparts ▸ List.mem_append_left _ hmem
      exact hup (List.mem_filter.1 hmem).1
    have hwalk := hs.walk_back hupFront hwalk (hs.rooted d name _ hget)
    exact find_file_iff.2 ⟨d, name,
      locate_entry_iff.2 ⟨hpassable, hclosed, hpoint, hdown, front, hparts, hwalk⟩,
      child_eq_ok.2 ⟨hshort, hget⟩⟩

/-- The path shows what it shows once some of the directories above it have been made. -/
def AsMade (p : FilePath) (fs fs' : FileSystem) : Prop :=
  ∃ made, PartlyMade p.parent.ancestors fs made ∧ fs'.sight p = made.sight p

/-- The path is as it was before. Only a path that goes up out of a directory which was not there
may show, where some of the directories above it have been made, what it leads to then. -/
def AsBefore (p : FilePath) (fs fs' : FileSystem) : Prop :=
  fs'.sight p = fs.sight p ∨
    (".." ∈ p.parts ∧ fs.find p.parent ≠ .ok .directory ∧ fs.sight p = .nothing) ∧ AsMade p fs fs'

theorem AsMade.asBefore {p : FilePath} (h : AsMade p fs fs') (hs : fs.Sound) :
    AsBefore p fs fs' := by
  obtain ⟨made, h, hsight⟩ := h
  by_cases hnothing : fs.sight p = .nothing
  · by_cases hup : ".." ∈ p.parts
    · by_cases hparent : fs.find p.parent = .ok .directory
      · obtain rfl := h.eq_of_find fun q hq =>
          find_of_prefix hparent (FilePath.prefix_of_mem_ancestors hq)
        exact .inl hsight
      · exact .inr ⟨⟨hup, hparent, hnothing⟩, made, h, hsight⟩
    · refine .inl (hsight.trans (sight_of_find (fun e => ?_) fun id _ => h.grown.content id))
      exact ⟨h.find_back hs hup, find_mono h.grown.kept⟩
  · exact .inl (hsight.trans (h.grown.sight hnothing))

end FileSystem

end ClusterKeeper
