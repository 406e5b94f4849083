import ClusterKeeper.Numeral

/-!
# `Duration.lean` — spans of time with nanosecond precision

A duration is a number of whole nanoseconds below 2⁶⁴ seconds; the bound is part of the type and
every sum and product is checked against it. Seconds and nanoseconds of the last second are views
(`Duration.seconds`, `Duration.subsecond`), so arithmetic is arithmetic of `Nat`.
-/

set_option autoImplicit false

namespace ClusterKeeper

/-- Nanoseconds in a second. -/
abbrev nanosPerSecond : Nat := 1000000000

/-- A span of time: whole nanoseconds, fewer than 2⁶⁴ seconds of them. -/
structure Duration where
  nanos : Nat
  nanos_lt : nanos < wordLimit * nanosPerSecond
  deriving DecidableEq, Repr

namespace Duration

theorem ext {a b : Duration} (h : a.nanos = b.nanos) : a = b := by
  cases a; cases b
  cases h
  rfl

def zero : Duration := ⟨0, by decide⟩

instance : Inhabited Duration := ⟨zero⟩

def longest : Duration := ⟨wordLimit * nanosPerSecond - 1, by decide⟩

/-- The duration of that many nanoseconds, if it is in range. -/
def ofNanos? (n : Nat) : Option Duration :=
  if h : n < wordLimit * nanosPerSecond then some ⟨n, h⟩ else none

/-- Whole seconds and further nanoseconds, which may be more than a second. -/
def ofParts? (seconds nanos : Nat) : Option Duration := ofNanos? (seconds * nanosPerSecond + nanos)

def ofSeconds (s : Nat) (h : s < wordLimit) : Duration :=
  ⟨s * nanosPerSecond, Nat.mul_lt_mul_of_pos_right h (by decide)⟩

def seconds (d : Duration) : Nat := d.nanos / nanosPerSecond

/-- The nanoseconds beyond the whole seconds. -/
def subsecond (d : Duration) : Nat := d.nanos % nanosPerSecond

def isZero (d : Duration) : Bool := d.nanos = 0

def times? (d : Duration) (n : Nat) : Option Duration := ofNanos? (d.nanos * n)

def sum? (ds : List Duration) : Option Duration := ofNanos? (ds.foldl (fun n d => n + d.nanos) 0)

theorem ofNanos?_eq_some_iff {n : Nat} {d : Duration} : ofNanos? n = some d ↔ n = d.nanos := by
  unfold ofNanos?
  split
  · constructor
    · rintro ⟨⟩
      rfl
    · intro h
      exact congrArg some (ext h)
  · next h =>
    constructor
    · intro h'
      cases h'
    · rintro rfl
      exact absurd d.nanos_lt h

theorem ofNanos?_nanos (d : Duration) : ofNanos? d.nanos = some d := ofNanos?_eq_some_iff.2 rfl

theorem ofNanos?_eq_none_iff {n : Nat} : ofNanos? n = none ↔ wordLimit * nanosPerSecond ≤ n := by
  unfold ofNanos?
  split
  · next h => simp only [reduceCtorEq, false_iff]; omega
  · next h => simp only [true_iff]; omega

theorem seconds_lt (d : Duration) : d.seconds < wordLimit := by
  have := d.nanos_lt
  simp only [seconds, nanosPerSecond] at *
  omega

theorem subsecond_lt (d : Duration) : d.subsecond < nanosPerSecond := Nat.mod_lt _ (by decide)

theorem nanos_eq (d : Duration) : d.nanos = d.seconds * nanosPerSecond + d.subsecond := by
  simp only [seconds, subsecond, nanosPerSecond]
  omega

end Duration

end ClusterKeeper
