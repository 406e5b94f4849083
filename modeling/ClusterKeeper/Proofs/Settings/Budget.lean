import ClusterKeeper.Handler.Transition
import ClusterKeeper.Proofs.Duration.Words
import Mathlib.Order.Bounds.Basic

/-!
# `Proofs/Settings/Budget.lean` — the budget of a drain

What the settings allow a drain is a time; what its wait is given is a number of polls. That number is
the greatest of 32 bits whose pauses fit the time (`Settings.isGreatest_maxPolls`), and everything said
about the budget follows from that: the pauses together are a duration, they take no longer than the
settings allow, and less than one pause is left of it unless the 32 bits are used up. A longer time or
shorter pauses never make for fewer polls.

The number and the budget are those which a machine computes in words (`Settings.toNat_pollsInWords`,
`Settings.times?_pollsInWords`), up to the longest duration there is.
-/

set_option autoImplicit false

namespace ClusterKeeper

namespace Settings

variable {s t : Settings}

/-! ## 1. Polls -/

/-- So many pauses fit the time that a drain may take. -/
theorem maxPolls_mul_le (s : Settings) : s.maxPolls * s.pollInterval.nanos ≤ s.maxDrainWait.nanos := by
  rw [maxPolls]
  split
  · rw [Nat.zero_mul]
    exact Nat.zero_le _
  · exact (Nat.mul_le_mul_right _ (Nat.min_le_left _ _)).trans (Nat.div_mul_le_self _ _)

theorem maxPolls_eq (h : s.isValid = true) :
    s.maxPolls = min (s.maxDrainWait.nanos / s.pollInterval.nanos) mostPolls := by
  have hpause : ¬ s.pollInterval.isZero = true := by simpa [isValid] using h
  rw [maxPolls, if_neg hpause]

theorem pollInterval_pos (h : s.isValid = true) : 0 < s.pollInterval.nanos := by
  have hpause : s.pollInterval.nanos ≠ 0 := by simpa [isValid, Duration.isZero] using h
  exact Nat.pos_of_ne_zero hpause

/-- The polls of a drain are as many as fit its time and 32 bits. -/
theorem isGreatest_maxPolls (h : s.isValid = true) :
    IsGreatest {n | n ≤ mostPolls ∧ n * s.pollInterval.nanos ≤ s.maxDrainWait.nanos} s.maxPolls := by
  refine ⟨⟨?_, s.maxPolls_mul_le⟩, fun n hn => ?_⟩
  · rw [maxPolls_eq h]
    exact Nat.min_le_right _ _
  · obtain ⟨hmost, hfits⟩ := hn
    rw [maxPolls_eq h]
    exact Nat.le_min.2 ⟨(Nat.le_div_iff_mul_le (pollInterval_pos h)).2 hfits, hmost⟩

/-- One more poll does not fit the time, unless it does not fit 32 bits. -/
theorem maxDrainWait_lt (h : s.isValid = true) (hmost : s.maxPolls < mostPolls) :
    s.maxDrainWait.nanos < s.maxPolls * s.pollInterval.nanos + s.pollInterval.nanos := by
  by_contra hle
  rw [Nat.not_lt, ← Nat.succ_mul] at hle
  exact Nat.not_succ_le_self _ ((isGreatest_maxPolls h).2 ⟨hmost, hle⟩)

/-- A longer time and shorter pauses do not make for fewer polls. -/
theorem maxPolls_le_maxPolls (hs : s.isValid = true) (ht : t.isValid = true)
    (hwait : s.maxDrainWait.nanos ≤ t.maxDrainWait.nanos)
    (hpause : t.pollInterval.nanos ≤ s.pollInterval.nanos) : s.maxPolls ≤ t.maxPolls := by
  obtain ⟨hmost, hfits⟩ := (isGreatest_maxPolls hs).1
  refine (isGreatest_maxPolls ht).2 ⟨hmost, ?_⟩
  calc s.maxPolls * t.pollInterval.nanos
    _ ≤ s.maxPolls * s.pollInterval.nanos := Nat.mul_le_mul_left _ hpause
    _ ≤ s.maxDrainWait.nanos := hfits
    _ ≤ t.maxDrainWait.nanos := hwait

/-! ## 2. The budget -/

/-- The pauses of a drain together are a duration. -/
theorem times?_maxPolls (s : Settings) :
    s.pollInterval.times? s.maxPolls = some (Handler.drainWait s).budget := by
  have hfits : s.pollInterval.nanos * s.maxPolls < wordLimit * nanosPerSecond := by
    rw [Nat.mul_comm]
    exact Nat.lt_of_le_of_lt s.maxPolls_mul_le s.maxDrainWait.nanos_lt
  have hsome : s.pollInterval.times? s.maxPolls = some ⟨_, hfits⟩ :=
    Duration.ofNanos?_eq_some_iff.2 rfl
  rw [BoundedWait.budget, Handler.drainWait, hsome, Option.getD_some]

theorem drainWait_budget_nanos (s : Settings) :
    (Handler.drainWait s).budget.nanos = s.maxPolls * s.pollInterval.nanos := by
  rw [← Duration.ofNanos?_eq_some_iff.1 s.times?_maxPolls, Nat.mul_comm]

/-! ## 3. The same in words -/

/-- The number of polls as a machine computes it, with all nanoseconds of each duration in a word of 128
bits and the result in one of 32. -/
def pollsInWords (s : Settings) : UInt32 :=
  if s.pollInterval.isZero then 0 else s.maxDrainWait.words.quotient s.pollInterval.words

theorem toNat_pollsInWords (s : Settings) : s.pollsInWords.toNat = s.maxPolls := by
  rw [pollsInWords, maxPolls]
  split
  · rfl
  · rw [Duration.Words.toNat_quotient, Duration.duration_words, Duration.duration_words, mostPolls]

theorem times?_pollsInWords (s : Settings) :
    s.pollInterval.words.times? s.pollsInWords = some (Handler.drainWait s).budget.words := by
  have hmap := s.pollInterval.words.map_duration_times? s.pollsInWords
  rw [Duration.duration_words, toNat_pollsInWords, times?_maxPolls, Option.map_eq_some_iff] at hmap
  obtain ⟨w, hw, hbudget⟩ := hmap
  rw [hw, ← hbudget, Duration.Words.words_duration]

/-! ## 4. All together -/

/-- For all settings that pause between two looks: the polls are the time divided by the pause, or as
many as 32 bits hold; their pauses together never leave the range of durations; in words both come to
the same. The pauses take no more than the time, and leave less than a pause of it unless the 32 bits are
used up. A longer time and shorter pauses never make for fewer polls. -/
theorem budget_fits (s : Settings) (h : s.isValid = true) :
    (s.maxPolls = min (s.maxDrainWait.nanos / s.pollInterval.nanos) (shortLimit - 1) ∧
      s.pollsInWords.toNat = s.maxPolls) ∧
    (s.pollInterval.times? s.maxPolls = some (Handler.drainWait s).budget ∧
      s.pollInterval.words.times? s.pollsInWords = some (Handler.drainWait s).budget.words) ∧
    (Handler.drainWait s).budget.nanos ≤ s.maxDrainWait.nanos ∧
    (s.maxPolls < shortLimit - 1 →
      s.maxDrainWait.nanos - (Handler.drainWait s).budget.nanos < s.pollInterval.nanos) ∧
    ∀ t : Settings, t.isValid = true → s.maxDrainWait.nanos ≤ t.maxDrainWait.nanos →
      t.pollInterval.nanos ≤ s.pollInterval.nanos → s.maxPolls ≤ t.maxPolls := by
  have hbudget := s.drainWait_budget_nanos
  refine ⟨⟨maxPolls_eq h, s.toNat_pollsInWords⟩, ⟨s.times?_maxPolls, s.times?_pollsInWords⟩, ?_, ?_, ?_⟩
  · rw [hbudget]
    exact s.maxPolls_mul_le
  · intro hmost
    rw [hbudget]
    exact Nat.sub_lt_left_of_lt_add s.maxPolls_mul_le (maxDrainWait_lt h hmost)
  · intro t ht
    exact maxPolls_le_maxPolls h ht

/-- The longest time for a drain, with pauses of nearly a second more than 2³³ seconds. -/
def longestDrain : Settings :=
  { standard with maxDrainWait := .longest, pollInterval := ⟨8589934592999999999, by decide⟩ }

/-- More than two thousand million such pauses fit, and the nanoseconds of their last seconds alone come
to almost as many seconds that are carried. With pauses of a nanosecond there are no fewer polls. -/
theorem budget_fits_longestDrain :
    longestDrain.isValid = true ∧ longestDrain.pollsInWords.toNat = 2147483647 ∧
    longestDrain.pollInterval.words.times? longestDrain.pollsInWords =
      some (Handler.drainWait longestDrain).budget.words ∧
    Duration.longest.nanos - (Handler.drainWait longestDrain).budget.nanos < 8589934592999999999 ∧
    longestDrain.maxPolls ≤ { longestDrain with pollInterval := ⟨1, by decide⟩ : Settings }.maxPolls := by
  have hvalid : longestDrain.isValid = true := by decide
  obtain ⟨⟨hpolls, hwords⟩, ⟨-, hbudget⟩, -, hleft, hgrow⟩ := budget_fits longestDrain hvalid
  have hcount : longestDrain.maxPolls = 2147483647 := hpolls.trans (by decide)
  refine ⟨hvalid, hwords.trans hcount, hbudget, hleft (hcount.trans_lt (by decide)), ?_⟩
  exact hgrow _ (by decide) (Nat.le_refl _) (by decide)

end Settings

end ClusterKeeper
