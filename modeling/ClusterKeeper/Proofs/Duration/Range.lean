import ClusterKeeper.Proofs.Duration.RoundTrip
import Mathlib.Tactic.SplitIfs

/-!
# `Proofs/Duration/Range.lean` — where reading a duration has no answer

Spans are added up in words of 64 bits, and every sum and product is checked, but one. What is carried
from the nanoseconds is checked if they are more than a second; a second exactly is carried when the
sum is put together, and nothing is asked then (`addParts`). So there is one corner: nanoseconds that
come to a second exactly, on top of seconds that come to the most that there can be (`TipsOver`). The
sum there is 2⁶⁴ seconds, one nanosecond more than the longest duration.

A text has no answer exactly if it comes to that corner at the end of one of its spans
(`read_eq_overflow_iff`). All other texts are read, or refused.
-/

set_option autoImplicit false

namespace ClusterKeeper

/-- A fold that fails has failed at one of the entries, and has got through those before it. -/
theorem foldlM_eq_error_iff {α σ ε : Type} {f : σ → α → Except ε σ} {as : List α} {s : σ} {e : ε} :
    as.foldlM f s = .error e ↔
      ∃ before a after s', as = before ++ a :: after ∧ before.foldlM f s = .ok s' ∧
        f s' a = .error e := by
  induction as generalizing s with
  | nil =>
    refine iff_of_false (fun h => ?_) ?_
    · cases h
    · rintro ⟨before, a, after, s', h, -⟩
      simp at h
  | cons a as ih =>
    rw [List.foldlM_cons]
    cases ha : f s a with
    | error e' =>
      constructor
      · intro h
        exact ⟨[], a, as, s, rfl, rfl, ha.trans h⟩
      · rintro ⟨before, b, after, s', hsplit, hbefore, hb⟩
        cases before with
        | nil =>
          cases hbefore
          cases hsplit
          exact ha.symm.trans hb
        | cons c before =>
          cases hsplit
          rw [List.foldlM_cons, ha] at hbefore
          cases hbefore
    | ok s₁ =>
      refine ih.trans ⟨?_, ?_⟩
      · rintro ⟨before, b, after, s', rfl, hbefore, hb⟩
        refine ⟨a :: before, b, after, s', rfl, ?_, hb⟩
        rw [List.foldlM_cons, ha]
        exact hbefore
      · rintro ⟨before, b, after, s', hsplit, hbefore, hb⟩
        cases before with
        | nil =>
          cases hbefore
          cases hsplit
          rw [ha] at hb
          cases hb
        | cons c before =>
          cases hsplit
          rw [List.foldlM_cons, ha] at hbefore
          exact ⟨before, b, after, s', rfl, hbefore, hb⟩

/-- To go on from a result changes nothing about there being none. -/
theorem bind_pure_eq_error_iff {α β ε : Type} {r : Except ε α} {f : α → β} {e : ε} :
    (do return f (← r)) = .error e ↔ r = .error e := by
  cases r with
  | error e' =>
    constructor
    · intro h
      cases h
      rfl
    · intro h
      cases h
      rfl
  | ok x =>
    refine iff_of_false (fun h => ?_) fun h => ?_
    · cases h
    · cases h

namespace Duration

/-! ## 1. Additions -/

/-- There is a second to carry in the nanoseconds, and no room for it. -/
def TipsOver (total : Duration) (seconds nanos : Nat) : Prop :=
  nanos + total.subsecond = nanosPerSecond ∧ seconds + total.seconds = wordLimit - 1

variable {total : Duration} {seconds nanos : Nat}

theorem TipsOver.sum (h : TipsOver total seconds nanos) :
    total.nanos + (seconds * nanosPerSecond + nanos) = wordLimit * nanosPerSecond := by
  obtain ⟨hnanos, hseconds⟩ := h
  have htotal := total.nanos_eq
  simp only [nanosPerSecond, wordLimit] at *
  omega

/-- The parts of a sum fit unless they are those of the corner. -/
theorem ofParts?_eq_none_iff {s rest : Nat} (hs : s < wordLimit) (hrest : rest ≤ nanosPerSecond) :
    ofParts? s rest = none ↔ s = wordLimit - 1 ∧ rest = nanosPerSecond := by
  rw [ofParts?, ofNanos?_eq_none_iff]
  simp only [nanosPerSecond, wordLimit] at *
  omega

/-- The last steps of an addition, whatever it is that checks the bounds. -/
theorem overflow_of_words {word : Nat → Option Nat} {ofParts : Nat → Nat → Option Duration}
    {s seconds rest : Nat} :
    (match word s with
      | none => .error .malformed
      | some s =>
        match word (s + seconds) with
        | none => .error .malformed
        | some s' =>
          match ofParts s' rest with
          | some d => .ok d
          | none => .error .overflow) = (.error .overflow : Except ReadError Duration) ↔
      ∃ s₁ s₂, word s = some s₁ ∧ word (s₁ + seconds) = some s₂ ∧ ofParts s₂ rest = none := by
  cases hs : word s with
  | none => simp
  | some s₁ =>
    cases hsum : word (s₁ + seconds) with
    | none => simp [hsum]
    | some s₂ => cases hparts : ofParts s₂ rest <;> simp [hsum, hparts]

/-- What is left of nanoseconds when more than a second of them is carried: a second at most, and a
second only if there was nothing to carry. -/
theorem rest_eq_second_iff (n : Nat) :
    (if n > nanosPerSecond then n % nanosPerSecond else n) ≤ nanosPerSecond ∧
    ((if n > nanosPerSecond then n % nanosPerSecond else n) = nanosPerSecond ↔ n = nanosPerSecond) := by
  split
  · have := Nat.mod_lt n (show 0 < nanosPerSecond by decide)
    omega
  · omega

/-- An addition has no answer in the corner, and there only. -/
theorem addParts_eq_overflow_iff :
    addParts total seconds nanos = .error .overflow ↔ TipsOver total seconds nanos := by
  have hsecond : nanosPerSecond < wordLimit := by decide
  by_cases hnanos : nanos + total.subsecond < wordLimit
  · obtain ⟨hle, hrest⟩ := rest_eq_second_iff (nanos + total.subsecond)
    rw [addParts, word?_of_lt hnanos]
    refine overflow_of_words.trans ⟨?_, fun htips => ?_⟩
    · rintro ⟨s₁, s₂, hs₁, hs₂, hparts⟩
      obtain ⟨rfl, -⟩ := word?_eq_some_iff.1 hs₁
      obtain ⟨rfl, hlt⟩ := word?_eq_some_iff.1 hs₂
      obtain ⟨hs, hsecond⟩ := (ofParts?_eq_none_iff hlt hle).1 hparts
      -- A second is left, so nothing was carried and the seconds are those that were added.
      have hexact := hrest.1 hsecond
      rw [if_neg (by omega), Nat.add_zero] at hs
      exact ⟨hexact, hs⟩
    · obtain ⟨hexact, hs⟩ := htips
      have hlt : seconds + total.seconds < wordLimit := by omega
      have hcarry : ¬ nanos + total.subsecond > nanosPerSecond := by omega
      refine ⟨seconds, seconds + total.seconds, ?_, word?_of_lt hlt, ?_⟩
      · rw [if_neg hcarry, Nat.add_zero]
        exact word?_of_lt (by omega)
      · exact (ofParts?_eq_none_iff hlt hle).2 ⟨hs, hrest.2 hexact⟩
  · have hnone := word?_eq_none_iff.2 (Nat.le_of_not_lt hnanos)
    rw [addParts, hnone]
    refine iff_of_false (fun herror => ?_) fun htips => ?_
    · cases herror
    · have := htips.1
      omega

/-! ## 2. Spans -/

/-- What there is to add comes to the corner. -/
def TipsOver? (total : Duration) (parts : Option (Nat × Nat)) : Prop :=
  ∃ seconds nanos, parts = some (seconds, nanos) ∧ TipsOver total seconds nanos

theorem addParts?_eq_overflow_iff {parts : Option (Nat × Nat)} :
    addParts? total parts = .error .overflow ↔ TipsOver? total parts := by
  cases parts with
  | none =>
    refine iff_of_false (fun h => ?_) ?_
    · cases h
    · rintro ⟨_, _, h, -⟩
      cases h
  | some parts =>
    obtain ⟨seconds, nanos⟩ := parts
    refine addParts_eq_overflow_iff.trans ⟨fun h => ⟨seconds, nanos, rfl, h⟩, ?_⟩
    rintro ⟨_, _, ⟨⟩, h⟩
    exact h

/-- A finished span comes to the corner, with its whole units or, after them, with its fraction. -/
def SpanTipsOver (total : Duration) (n : Nat) (part : Option (Nat × Nat)) (name : List Char) : Prop :=
  ∃ u, TimeUnit.ofName? (String.ofList name) = some u ∧
    (TipsOver? total (u.multiple? n) ∨
      ∃ total' numerator denominator, addParts? total (u.multiple? n) = .ok total' ∧
        part = some (numerator, denominator) ∧ TipsOver? total' (u.fraction? numerator denominator))

theorem addSpan_eq_overflow_iff {n : Nat} {part : Option (Nat × Nat)} {name : List Char} :
    addSpan total n part name = .error .overflow ↔ SpanTipsOver total n part name := by
  rw [addSpan, SpanTipsOver]
  cases TimeUnit.ofName? (String.ofList name) with
  | none => simp
  | some u =>
    simp only [Option.some.injEq, exists_eq_left', ← addParts?_eq_overflow_iff]
    cases addParts? total (u.multiple? n) with
    | error e =>
      refine ⟨fun h => .inl h, ?_⟩
      rintro (h | ⟨_, _, _, h, -⟩)
      · exact h
      · cases h
    | ok total' =>
      cases part with
      | none =>
        refine iff_of_false (fun h => ?_) ?_
        · cases h
        · rintro (h | ⟨_, _, _, -, h, -⟩)
          · cases h
          · cases h
      | some part =>
        obtain ⟨numerator, denominator⟩ := part
        refine ⟨fun h => .inr ⟨_, _, _, rfl, rfl, h⟩, ?_⟩
        rintro (h | ⟨_, _, _, ⟨⟩, ⟨⟩, h⟩)
        · cases h
        · exact h

/-! ## 3. Texts -/

/-- A text comes to the corner at the end of one of its spans: behind it there is a digit or a blank, or
nothing at all. -/
def TextTipsOver (text : String) : Prop :=
  ∃ before after total n part name, text.toList = before ++ after ∧
    before.foldlM Scan.step ⟨zero, .start⟩ = .ok ⟨total, .unit n part name⟩ ∧
    (∀ c ∈ after.head?, c.isDigit = true ∨ Text.isBlank c = true) ∧
    SpanTipsOver total n part name

/-- Before a unit is named there is nothing to add. -/
theorem step_ne_overflow {phase : Phase} {c : Char}
    (hphase : ∀ n part name, phase ≠ .unit n part name) :
    Scan.step ⟨total, phase⟩ c ≠ .error .overflow := by
  intro h
  cases phase with
  | unit n part name => exact hphase n part name rfl
  | whole n =>
    rw [Scan.step] at h
    dsimp only at h
    cases hw : word? (n * 10 + digitValue c) <;> simp only [hw] at h <;> split_ifs at h <;> cases h
  | fraction n numerator denominator =>
    rw [Scan.step] at h
    dsimp only at h
    cases hn : word? (numerator * 10 + digitValue c) <;>
      cases hd : word? (denominator * 10) <;> simp only [hn, hd] at h <;> split_ifs at h <;> cases h
  | _ =>
    rw [Scan.step] at h
    split_ifs at h <;> cases h

theorem step_eq_overflow_iff {s : Scan} {c : Char} :
    s.step c = .error .overflow ↔ ∃ n part name, s.phase = .unit n part name ∧
      (c.isDigit = true ∨ Text.isBlank c = true) ∧ SpanTipsOver s.total n part name := by
  obtain ⟨total, phase⟩ := s
  cases phase with
  | unit n part name =>
    simp only [Phase.unit.injEq, ← addSpan_eq_overflow_iff]
    rw [Scan.step]
    dsimp only
    split
    · next hdigit =>
      rw [bind_pure_eq_error_iff]
      refine ⟨fun h => ⟨n, part, name, ⟨rfl, rfl, rfl⟩, .inl hdigit, h⟩, ?_⟩
      rintro ⟨_, _, _, ⟨rfl, rfl, rfl⟩, -, h⟩
      exact h
    · next hdigit =>
      split
      · next hblank =>
        rw [bind_pure_eq_error_iff]
        refine ⟨fun h => ⟨n, part, name, ⟨rfl, rfl, rfl⟩, .inr hblank, h⟩, ?_⟩
        rintro ⟨_, _, _, ⟨rfl, rfl, rfl⟩, -, h⟩
        exact h
      · next hblank =>
        refine iff_of_false (fun h => ?_) ?_
        · split at h <;> cases h
        · rintro ⟨_, _, _, -, hc | hc, -⟩
          · exact hdigit hc
          · exact hblank hc
  | _ =>
    refine iff_of_false (step_ne_overflow fun _ _ _ h => ?_) ?_
    · cases h
    · rintro ⟨_, _, _, h, -⟩
      cases h

theorem finish_eq_overflow_iff {s : Scan} :
    s.finish = .error .overflow ↔ ∃ n part name, s.phase = .unit n part name ∧
      SpanTipsOver s.total n part name := by
  obtain ⟨total, phase⟩ := s
  cases phase with
  | unit n part name =>
    refine addSpan_eq_overflow_iff.trans ⟨fun h => ⟨n, part, name, rfl, h⟩, ?_⟩
    rintro ⟨_, _, _, ⟨⟩, h⟩
    exact h
  | _ =>
    refine iff_of_false (fun h => ?_) ?_
    · cases h
    · rintro ⟨_, _, _, h, -⟩
      cases h

/-- A text has no answer if it comes to the corner, and only then. -/
theorem read_eq_overflow_iff {text : String} :
    read text = .error .overflow ↔ TextTipsOver text := by
  rw [read]
  split
  · next hzero =>
    -- A lone zero has no unit.
    refine iff_of_false (fun h => ?_) ?_
    · cases h
    · rintro ⟨before, after, total, n, part, name, hsplit, hbefore, -, -⟩
      have htext : '0' :: [] = before ++ after := by
        rw [← hsplit, hzero]
        rfl
      rcases List.append_eq_singleton_iff.1 htext.symm with ⟨rfl, -⟩ | ⟨rfl, -⟩
      · cases hbefore
      · cases hbefore
  · constructor
    · intro h
      cases hscan : text.toList.foldlM Scan.step ⟨zero, .start⟩ with
      | error e =>
        rw [hscan] at h
        cases h
        obtain ⟨before, c, after, ⟨total, phase⟩, hsplit, hbefore, hstep⟩ :=
          foldlM_eq_error_iff.1 hscan
        obtain ⟨n, part, name, rfl, hc, htips⟩ := step_eq_overflow_iff.1 hstep
        refine ⟨before, c :: after, total, n, part, name, hsplit, hbefore, fun c' hc' => ?_, htips⟩
        obtain rfl : c = c' := Option.some.inj hc'
        exact hc
      | ok s =>
        rw [hscan] at h
        obtain ⟨total, phase⟩ := s
        obtain ⟨n, part, name, rfl, htips⟩ := finish_eq_overflow_iff.1 h
        refine ⟨text.toList, [], total, n, part, name, (List.append_nil _).symm, hscan, ?_, htips⟩
        intro c hc
        cases hc
    · rintro ⟨before, after, total, n, part, name, hsplit, hbefore, hend, htips⟩
      cases after with
      | nil =>
        rw [hsplit, List.append_nil, hbefore]
        exact finish_eq_overflow_iff (s := ⟨total, .unit n part name⟩).2 ⟨n, part, name, rfl, htips⟩
      | cons c after =>
        have hstep : Scan.step ⟨total, .unit n part name⟩ c = .error .overflow :=
          step_eq_overflow_iff.2 ⟨n, part, name, rfl, hend c rfl, htips⟩
        rw [foldlM_eq_error_iff.2 ⟨before, c, after, _, hsplit, hbefore, hstep⟩]
        rfl

end Duration

end ClusterKeeper
