import ClusterKeeper.Proofs.Duration.Range
import ClusterKeeper.Settings.Toml
import Mathlib.Data.List.Flatten

/-!
# `Proofs/Settings/Reading.lean` — whether reading a configuration has an answer

An answer is settings that can be used, or what is wrong with the document (`Answered`). All that a
document can do to prevent one is to spell, in one of the two entries that take a duration, a duration
that cannot be added up (`Duration.TextTipsOver`), and to have nothing wrong before it. Other entries are
not asked for durations, and the first entry that is wrong is the answer.
-/

set_option autoImplicit false

namespace ClusterKeeper.Settings

/-- What reading a configuration may come to: settings with which a drain pauses between its looks, or
an error. -/
inductive Answered : Except ReadError Settings → Prop
  | settings {s : Settings} (h : s.pollInterval.nanos ≠ 0) : Answered (.ok s)
  | malformed : Answered (.error .malformed)
  | entry (message : String) : Answered (.error (.entry message))
  | zeroInterval : Answered (.error .zeroInterval)

/-- An entry that takes a duration spells one that cannot be added up. -/
def EntryTipsOver (name : String) (v : Toml.Value) : Prop :=
  (name = "max_drain_wait" ∨ name = "poll_interval") ∧
    ∃ text, v = .string text ∧ Duration.TextTipsOver text

/-- The document has such an entry, and those before it will do. -/
def DocumentTipsOver (text : String) : Prop :=
  ∃ before name v after, Toml.read text = some (before ++ (name, v) :: after) ∧
    (∃ s, standard.applyEntries before = .ok s) ∧ EntryTipsOver name v

theorem durationOf_eq_overflow_iff {v : Toml.Value} :
    durationOf v = .error .overflow ↔ ∃ text, v = .string text ∧ Duration.TextTipsOver text := by
  cases v with
  | string text =>
    simp only [Toml.Value.string.injEq, exists_eq_left', ← Duration.read_eq_overflow_iff]
    rw [durationOf]
    cases Duration.read text with
    | ok d => simp
    | error e => cases e <;> simp
  | _ =>
    refine iff_of_false (fun h => ?_) ?_
    · cases h
    · rintro ⟨_, h, -⟩
      cases h

theorem countOf_ne_overflow (v : Toml.Value) : countOf v ≠ .error .overflow := by
  intro h
  unfold countOf at h
  split at h <;> cases h

theorem textOf_ne_overflow (v : Toml.Value) : textOf v ≠ .error .overflow := by
  intro h
  unfold textOf at h
  split at h <;> cases h

theorem setEntry_eq_overflow_iff {s : Settings} {name : String} {v : Toml.Value} :
    s.setEntry name v = .error .overflow ↔ EntryTipsOver name v := by
  rw [EntryTipsOver, ← durationOf_eq_overflow_iff]
  unfold setEntry
  split
  · rw [bind_pure_eq_error_iff]
    simp
  · rw [bind_pure_eq_error_iff]
    simp
  · rw [bind_pure_eq_error_iff]
    exact iff_of_false (countOf_ne_overflow v) (by simp)
  · rw [bind_pure_eq_error_iff]
    exact iff_of_false (textOf_ne_overflow v) (by simp)
  · rw [bind_pure_eq_error_iff]
    exact iff_of_false (textOf_ne_overflow v) (by simp)
  · next hwait hinterval _ _ _ =>
    refine iff_of_false (fun h => ?_) ?_
    · cases h
    · rintro ⟨h | h, -⟩
      · exact hwait h
      · exact hinterval h

theorem applyEntries_eq_overflow_iff {s : Settings} {entries : Toml.Table} :
    s.applyEntries entries = .error .overflow ↔ ∃ before name v after,
      entries = before ++ (name, v) :: after ∧ (∃ s', s.applyEntries before = .ok s') ∧
        EntryTipsOver name v := by
  rw [applyEntries, foldlM_eq_error_iff]
  constructor
  · rintro ⟨before, ⟨name, v⟩, after, s', hsplit, hbefore, h⟩
    exact ⟨before, name, v, after, hsplit, ⟨s', hbefore⟩, setEntry_eq_overflow_iff.1 h⟩
  · rintro ⟨before, name, v, after, hsplit, ⟨s', hbefore⟩, h⟩
    exact ⟨before, (name, v), after, s', hsplit, hbefore, setEntry_eq_overflow_iff.2 h⟩

section
variable {entries : Toml.Table} {s : Settings} {e : ReadError}

theorem ofEntries_of_error (h : standard.applyEntries entries = .error e) :
    ofEntries entries = .error e := by
  rw [ofEntries, h]
  rfl

theorem ofEntries_of_ok (h : standard.applyEntries entries = .ok s) :
    ofEntries entries = if s.pollInterval.nanos = 0 then .error .zeroInterval else .ok s := by
  have hvalid : s.isValid = true ↔ s.pollInterval.nanos ≠ 0 := by simp [isValid, Duration.isZero]
  rw [ofEntries, h]
  show (if s.isValid then pure s else throw .zeroInterval : Except ReadError Settings) = _
  rw [if_congr hvalid rfl rfl, ite_not]
  rfl

theorem ofEntries_eq_ok_iff : ofEntries entries = .ok s ↔
    standard.applyEntries entries = .ok s ∧ s.pollInterval.nanos ≠ 0 := by
  cases h : standard.applyEntries entries with
  | error e => simp [ofEntries_of_error h]
  | ok t =>
    rw [ofEntries_of_ok h]
    split
    · next hzero => exact iff_of_false (fun h => by cases h) fun h => by cases h.1; exact h.2 hzero
    · next hpos => exact ⟨fun h => by cases h; exact ⟨rfl, hpos⟩, fun h => h.1⟩

/-- Whether settings can be used is asked when all entries are read. -/
theorem ofEntries_eq_error_iff : ofEntries entries = .error e ↔
    standard.applyEntries entries = .error e ∨ (e = .zeroInterval ∧
      ∃ s, standard.applyEntries entries = .ok s ∧ s.pollInterval.nanos = 0) := by
  cases h : standard.applyEntries entries with
  | error e' => simp [ofEntries_of_error h]
  | ok t =>
    rw [ofEntries_of_ok h]
    split
    · next hzero => simp [hzero, eq_comm]
    · next hpos => simp [hpos]

end

theorem read_eq_overflow_iff {text : String} :
    read text = .error .overflow ↔ DocumentTipsOver text := by
  rw [read, DocumentTipsOver]
  cases Toml.read text with
  | none => simp
  | some entries =>
    simp only [Option.some.injEq]
    rw [← applyEntries_eq_overflow_iff]
    exact ofEntries_eq_error_iff.trans (or_iff_left fun h => by cases h.1)

theorem pollInterval_of_read {text : String} {s : Settings} (h : read text = .ok s) :
    s.pollInterval.nanos ≠ 0 := by
  rw [read] at h
  cases hentries : Toml.read text with
  | none =>
    rw [hentries] at h
    cases h
  | some entries =>
    rw [hentries] at h
    exact (ofEntries_eq_ok_iff.1 h).2

/-- Every document has an answer but those in which a duration cannot be added up. -/
theorem answered_iff (text : String) : Answered (read text) ↔ ¬ DocumentTipsOver text := by
  rw [← read_eq_overflow_iff]
  cases h : read text with
  | ok s => exact iff_of_true (.settings (pollInterval_of_read h)) fun h' => by cases h'
  | error e =>
    cases e with
    | malformed => exact iff_of_true .malformed fun h' => by cases h'
    | entry message => exact iff_of_true (.entry message) fun h' => by cases h'
    | zeroInterval => exact iff_of_true .zeroInterval fun h' => by cases h'
    | overflow =>
      refine iff_of_false (fun h' => ?_) fun h' => h' rfl
      cases h'

/-- A second's nanoseconds, written as such, on top of the most seconds that there can be. -/
theorem not_answered_of_second_carried :
    ¬ Answered (read "poll_interval = \"18446744073709551615s 1000000000ns\"\n") := by
  have hread : read "poll_interval = \"18446744073709551615s 1000000000ns\"\n" =
      .error .overflow := by decide +kernel
  rw [hread]
  intro h
  cases h

end ClusterKeeper.Settings
