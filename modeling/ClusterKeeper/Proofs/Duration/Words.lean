import ClusterKeeper.Duration

/-!
# `Proofs/Duration/Words.lean` — durations in the words of a machine

A duration is a single number here. A machine keeps it in two words, the whole seconds in one of 64
bits and the nanoseconds of the last second in one of 32 (`Duration.Words`), and computes with these.
Its sums and products wrap around where nothing checks them, so that they come to the same is a
matter of bounds, and each operation has its own:

* All nanoseconds of a duration together fit 128 bits (`Words.toNat_wide`). So one duration is divided
  by another exactly, and what is cut down to 32 bits is the exact quotient (`Words.toNat_quotient`).
* The nanoseconds of a last second, taken as often as a word of 32 bits says, fit 64 bits
  (`Words.toNat_product`). So that product needs no check; only the seconds do, and they are refused
  exactly if there is no duration for the whole product (`Words.map_duration_times?`).
-/

set_option autoImplicit false

namespace ClusterKeeper

/-! ## 1. Checked words -/

/-- The result of a checked operation on words: the exact one, if it is a word. -/
def checked (n : Nat) : Option UInt64 := (word? n).map .ofNat

theorem checked_eq_some_iff {n : Nat} {a : UInt64} : checked n = some a ↔ n = a.toNat := by
  rw [checked, Option.map_eq_some_iff]
  constructor
  · rintro ⟨m, hm, rfl⟩
    obtain ⟨rfl, hlt⟩ := word?_eq_some_iff.1 hm
    exact (UInt64.toNat_ofNat_of_lt' hlt).symm
  · rintro rfl
    exact ⟨a.toNat, word?_of_lt a.toNat_lt, UInt64.ofNat_toNat⟩

theorem checked_eq_none_iff {n : Nat} : checked n = none ↔ wordLimit ≤ n := by
  rw [checked, Option.map_eq_none_iff, word?_eq_none_iff]

namespace Duration

/-! ## 2. Two words for a duration -/

/-- Whole seconds, and fewer than a second's nanoseconds beside them. -/
structure Words where
  seconds : UInt64
  subsecond : UInt32
  subsecond_lt : subsecond.toNat < nanosPerSecond
  deriving DecidableEq, Repr

/-- The words in which a machine keeps a duration. -/
def words (d : Duration) : Words where
  seconds := .ofNat d.seconds
  subsecond := .ofNat d.subsecond
  subsecond_lt := Nat.lt_of_le_of_lt (Nat.mod_le _ _) d.subsecond_lt

namespace Words

theorem ext {v w : Words} (hseconds : v.seconds.toNat = w.seconds.toNat)
    (hsubsecond : v.subsecond.toNat = w.subsecond.toNat) : v = w := by
  cases v; cases w
  cases UInt64.toNat_inj.1 hseconds
  cases UInt32.toNat_inj.1 hsubsecond
  rfl

def duration (w : Words) : Duration where
  nanos := w.seconds.toNat * nanosPerSecond + w.subsecond.toNat
  nanos_lt := by
    have hseconds := w.seconds.toNat_lt
    have hsubsecond := w.subsecond_lt
    simp only [wordLimit, nanosPerSecond] at *
    omega

theorem nanos_duration (w : Words) :
    w.duration.nanos = w.seconds.toNat * nanosPerSecond + w.subsecond.toNat := rfl

theorem seconds_duration (w : Words) : w.duration.seconds = w.seconds.toNat := by
  have := w.subsecond_lt
  simp only [Duration.seconds, duration, nanosPerSecond] at *
  omega

theorem subsecond_duration (w : Words) : w.duration.subsecond = w.subsecond.toNat := by
  have := w.subsecond_lt
  simp only [Duration.subsecond, duration, nanosPerSecond] at *
  omega

end Words

theorem seconds_words (d : Duration) : d.words.seconds.toNat = d.seconds :=
  UInt64.toNat_ofNat_of_lt' d.seconds_lt

theorem subsecond_words (d : Duration) : d.words.subsecond.toNat = d.subsecond :=
  UInt32.toNat_ofNat_of_lt' (Nat.lt_trans d.subsecond_lt (by decide))

theorem duration_words (d : Duration) : d.words.duration = d := by
  apply ext
  rw [Words.nanos_duration, seconds_words, subsecond_words, ← nanos_eq]

namespace Words

variable (w : Words)

theorem words_duration : w.duration.words = w := by
  apply ext
  · rw [seconds_words, seconds_duration]
  · rw [subsecond_words, subsecond_duration]

/-! ## 3. Quotients -/

/-- All nanoseconds of a duration, in one word of 128 bits. Nothing here is checked. -/
def wide : BitVec 128 :=
  w.seconds.toBitVec.setWidth 128 * .ofNat 128 nanosPerSecond + w.subsecond.toBitVec.setWidth 128

theorem toNat_wide : w.wide.toNat = w.duration.nanos := by
  have hseconds : w.seconds.toNat < 2 ^ 128 := Nat.lt_trans w.seconds.toNat_lt (by decide)
  have hsubsecond : w.subsecond.toNat < 2 ^ 128 := Nat.lt_trans w.subsecond.toNat_lt (by decide)
  have hsecond : nanosPerSecond < 2 ^ 128 := by decide
  have hsum : w.duration.nanos < 2 ^ 128 := Nat.lt_trans w.duration.nanos_lt (by decide)
  rw [nanos_duration] at hsum ⊢
  have hproduct := Nat.lt_of_le_of_lt (Nat.le_add_right _ _) hsum
  -- No factor is cut off where it is widened, and neither the product nor the sum wraps around.
  rw [wide, BitVec.toNat_add, BitVec.toNat_mul, BitVec.toNat_setWidth, BitVec.toNat_setWidth,
    BitVec.toNat_ofNat, UInt64.toNat_toBitVec, UInt32.toNat_toBitVec, Nat.mod_eq_of_lt hseconds,
    Nat.mod_eq_of_lt hsubsecond, Nat.mod_eq_of_lt hsecond, Nat.mod_eq_of_lt hproduct,
    Nat.mod_eq_of_lt hsum]

/-- How often another duration goes into this one, as a word of 32 bits: the greatest such word if it
is more often than that. -/
def quotient (part : Words) : UInt32 :=
  let times := w.wide / part.wide
  if times.toNat < shortLimit then .ofBitVec (times.setWidth 32) else .ofNat (shortLimit - 1)

theorem toNat_quotient (part : Words) :
    (w.quotient part).toNat = min (w.duration.nanos / part.duration.nanos) (shortLimit - 1) := by
  have htimes : (w.wide / part.wide).toNat = w.duration.nanos / part.duration.nanos := by
    rw [BitVec.toNat_udiv, toNat_wide, toNat_wide]
  rw [quotient]
  split
  · next hlt =>
    rw [UInt32.toNat_ofBitVec, BitVec.toNat_setWidth, Nat.mod_eq_of_lt hlt]
    rw [htimes] at hlt ⊢
    exact (Nat.min_eq_left (Nat.le_sub_one_of_lt hlt)).symm
  · next hle =>
    rw [htimes] at hle
    rw [UInt32.toNat_ofNat_of_lt' (Nat.sub_lt (by decide) (by decide))]
    exact (Nat.min_eq_right (Nat.le_trans (Nat.sub_le _ _) (Nat.le_of_not_lt hle))).symm

/-! ## 4. Multiples -/

/-- A second's nanoseconds, as a word of 64 bits. -/
def second : UInt64 := 1000000000

theorem toNat_second : second.toNat = nanosPerSecond := rfl

theorem toNat_rest (n : UInt64) : (n % second).toUInt32.toNat = n.toNat % nanosPerSecond := by
  have hlt : n.toNat % nanosPerSecond < 2 ^ 32 :=
    Nat.lt_trans (Nat.mod_lt _ (by decide)) (show nanosPerSecond < 2 ^ 32 by decide)
  rw [UInt64.toNat_toUInt32, UInt64.toNat_mod, toNat_second, Nat.mod_eq_of_lt hlt]

theorem rest_lt (n : UInt64) : (n % second).toUInt32.toNat < nanosPerSecond := by
  rw [toNat_rest]
  exact Nat.mod_lt _ (by decide)

/-- The nanoseconds of the last second so many times. -/
def product (n : UInt32) : UInt64 := w.subsecond.toUInt64 * n.toUInt64

theorem toNat_product (n : UInt32) : (w.product n).toNat = w.subsecond.toNat * n.toNat := by
  have hlt : w.subsecond.toNat * n.toNat < 2 ^ 64 :=
    calc w.subsecond.toNat * n.toNat
      _ ≤ nanosPerSecond * n.toNat := Nat.mul_le_mul_right _ (Nat.le_of_lt w.subsecond_lt)
      _ ≤ nanosPerSecond * 2 ^ 32 := Nat.mul_le_mul_left _ (Nat.le_of_lt n.toNat_lt)
      _ < 2 ^ 64 := by decide
  rw [product, UInt64.toNat_mul, UInt32.toNat_toUInt64, UInt32.toNat_toUInt64, Nat.mod_eq_of_lt hlt]

/-- The duration so many times. The product of the nanoseconds is not checked; the whole seconds in it
are carried. -/
def times? (n : UInt32) : Option Words :=
  match checked (w.seconds.toNat * n.toNat) with
  | none => none
  | some whole =>
    match checked (whole.toNat + (w.product n / second).toNat) with
    | none => none
    | some seconds => some ⟨seconds, (w.product n % second).toUInt32, rest_lt _⟩

/-- The nanoseconds of a multiple, by whole seconds and a rest. -/
theorem nanos_mul (n : UInt32) :
    w.duration.nanos * n.toNat =
      (w.seconds.toNat * n.toNat + (w.product n / second).toNat) * nanosPerSecond +
        (w.product n % second).toUInt32.toNat := by
  rw [UInt64.toNat_div, toNat_rest, toNat_second, toNat_product]
  calc w.duration.nanos * n.toNat
    _ = w.seconds.toNat * n.toNat * nanosPerSecond + w.subsecond.toNat * n.toNat := by
      rw [nanos_duration, Nat.add_mul, Nat.mul_right_comm]
    _ = _ := by rw [Nat.add_mul, Nat.add_assoc, Nat.div_add_mod']

theorem ofNanos?_eq_none {whole rest : Nat} (h : wordLimit ≤ whole) :
    ofNanos? (whole * nanosPerSecond + rest) = none :=
  ofNanos?_eq_none_iff.2 (Nat.le_trans (Nat.mul_le_mul_right _ h) (Nat.le_add_right _ _))

/-- A multiple in words is the multiple, and is refused if there is no duration for it. -/
theorem map_duration_times? (n : UInt32) :
    (w.times? n).map duration = w.duration.times? n.toNat := by
  rw [Duration.times?, nanos_mul, times?]
  cases hwhole : checked (w.seconds.toNat * n.toNat) with
  | none =>
    -- What is too much already without the seconds carried is too much with them.
    have hle := checked_eq_none_iff.1 hwhole
    exact (ofNanos?_eq_none (Nat.le_trans hle (Nat.le_add_right _ _))).symm
  | some whole =>
    rw [checked_eq_some_iff.1 hwhole]
    dsimp only
    cases hseconds : checked (whole.toNat + (w.product n / second).toNat) with
    | none => exact (ofNanos?_eq_none (checked_eq_none_iff.1 hseconds)).symm
    | some seconds =>
      rw [checked_eq_some_iff.1 hseconds]
      exact (ofNanos?_nanos _).symm

end Words

end Duration

end ClusterKeeper
