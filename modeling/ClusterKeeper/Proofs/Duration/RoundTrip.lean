import ClusterKeeper.Duration.Readable
import Mathlib.Algebra.GroupWithZero.Nat

/-!
# `Proofs/Duration/RoundTrip.lean` — a written duration is read as that duration

What `Duration.render` writes is a row of spans, each the digits of a count and a word for its unit.
The reader, at the beginning or behind a blank, takes such a span letter by letter (`scan_span`) and
adds it up at the blank behind it or at the end of the text, so it comes to the sum of the spans
(`scan_spans`). Each addition is exact as long as the sum is in the range (`addSpan_eq`), and the
sum of what is written is the duration, which is in the range by its type. Only the bounds of the
arithmetic on the way need an argument: units below a second are written with fewer than a second's
nanoseconds, so none is ever carried.
-/

set_option autoImplicit false

namespace ClusterKeeper

/-- The size of a unit in nanoseconds. -/
def TimeUnit.nanos (u : TimeUnit) : Nat := if u.isShort then u.size else u.size * nanosPerSecond

namespace Duration

/-! ## 1. Additions -/

/-- The last steps of an addition, whatever it is that checks the bounds: the checks themselves are
better not computed with, for their bounds are large. -/
theorem sum_of_words {word : Nat → Option Nat} {ofParts : Nat → Nat → Option Duration}
    {s seconds rest : Nat} {d : Duration} (hs : word s = some s)
    (hsum : word (s + seconds) = some (s + seconds))
    (hparts : ofParts (s + seconds) rest = some d) :
    (match word s with
      | none => .error .malformed
      | some s =>
        match word (s + seconds) with
        | none => .error .malformed
        | some s' =>
          match ofParts s' rest with
          | some d => .ok d
          | none => .error .overflow) = (.ok d : Except ReadError Duration) := by
  simp only [hs, hsum, hparts]

/-- An addition is exact if there is a duration for its result. -/
theorem addParts_eq {total d : Duration} {seconds nanos : Nat}
    (hnanos : nanos + total.subsecond < wordLimit)
    (hd : d.nanos = total.nanos + (seconds * nanosPerSecond + nanos)) :
    addParts total seconds nanos = .ok d := by
  have htotal := total.nanos_eq
  have hlt := d.nanos_lt
  have hadd : ∀ carry rest, carry * nanosPerSecond + rest = nanos + total.subsecond →
      word? (seconds + carry) = some (seconds + carry) ∧
        word? (seconds + carry + total.seconds) = some (seconds + carry + total.seconds) ∧
          ofParts? (seconds + carry + total.seconds) rest = some d := by
    intro carry rest hrest
    have hd : d.nanos = (seconds + carry + total.seconds) * nanosPerSecond + rest := by
      simp only [nanosPerSecond] at hd htotal hrest ⊢
      omega
    have hword : seconds + carry + total.seconds < wordLimit := by
      simp only [nanosPerSecond] at hd hlt
      omega
    exact ⟨word?_of_lt (Nat.lt_of_le_of_lt (Nat.le_add_right _ _) hword), word?_of_lt hword,
      ofNanos?_eq_some_iff.2 hd.symm⟩
  -- Whether a second is carried or not, the parts come to the same sum.
  have hcarried : ∀ n, (if n > nanosPerSecond then n / nanosPerSecond else 0) * nanosPerSecond +
      (if n > nanosPerSecond then n % nanosPerSecond else n) = n := by
    intro n
    split
    · exact Nat.div_add_mod' n nanosPerSecond
    · rw [Nat.zero_mul, Nat.zero_add]
  obtain ⟨hs, hsum, hparts⟩ := hadd _ _ (hcarried (nanos + total.subsecond))
  rw [addParts, word?_of_lt hnanos]
  exact sum_of_words hs hsum hparts

/-- A count of units, and a word for them. -/
structure Span where
  count : Nat
  word : String
  unit : TimeUnit

namespace Span

def nanos (s : Span) : Nat := s.count * s.unit.nanos

def text (s : Span) : String := toString s.count ++ s.word

/-- The word names the unit, and a unit below a second is not counted up to one. -/
structure Proper (s : Span) : Prop where
  count_lt : s.count < wordLimit
  named : TimeUnit.ofName? s.word = some s.unit
  letters : ∀ c ∈ s.word.toList, isUnitLetter c = true
  short : s.unit.isShort = true → s.count * s.unit.size < nanosPerSecond

theorem text_toList (s : Span) : s.text.toList = Nat.toDigits 10 s.count ++ s.word.toList := by
  rw [text, String.toList_append, Nat.toString_eq_repr, Nat.toList_repr]

theorem Proper.word_ne_nil {s : Span} (h : s.Proper) : s.word.toList ≠ [] := by
  intro hnil
  have hempty : s.word = "" := String.toList_inj.1 hnil
  have hnamed := h.named
  rw [hempty] at hnamed
  revert hnamed
  exact (by decide : TimeUnit.ofName? "" = none) ▸ nofun

end Span

/-- Adding a span is exact if there is a duration for the result. -/
theorem addSpan_eq {s : Span} (hs : s.Proper) {total d : Duration}
    (hd : d.nanos = total.nanos + s.nanos) :
    addSpan total s.count none s.word.toList = .ok d := by
  have hsub := total.subsecond_lt
  have hlt := d.nanos_lt
  have hcarry : (nanosPerSecond : Nat) + nanosPerSecond < wordLimit := by decide
  have hadd : ∀ {seconds nanos}, s.unit.multiple? s.count = some (seconds, nanos) →
      nanos + total.subsecond < wordLimit → s.nanos = seconds * nanosPerSecond + nanos →
        addSpan total s.count none s.word.toList = .ok d := by
    intro seconds nanos hmultiple hnanos hsum
    rw [addSpan, String.ofList_toList, hs.named]
    simp only [hmultiple, addParts?, addParts_eq hnanos (hsum ▸ hd)]
    rfl
  by_cases hshort : s.unit.isShort = true
  · have hsmall := hs.short hshort
    have hmultiple : s.unit.multiple? s.count = some (0, s.count * s.unit.size) := by
      rw [TimeUnit.multiple?, word?_of_lt (by omega), Option.map_some, if_pos hshort]
    refine hadd hmultiple (by omega) ?_
    rw [Span.nanos, TimeUnit.nanos, if_pos hshort, Nat.zero_mul, Nat.zero_add]
  · have hnanos : s.nanos = s.count * s.unit.size * nanosPerSecond + 0 := by
      rw [Span.nanos, TimeUnit.nanos, if_neg hshort, Nat.mul_assoc, Nat.add_zero]
    have hcount : s.count * s.unit.size < wordLimit :=
      Nat.lt_of_mul_lt_mul_right (a := nanosPerSecond) (by omega)
    refine hadd ?_ (by omega) hnanos
    rw [TimeUnit.multiple?, word?_of_lt hcount, Option.map_some, if_neg hshort]

/-- Spans are added one after another. -/
def addSpans (total : Duration) (spans : List Span) : Except ReadError Duration :=
  spans.foldlM (fun total s => addSpan total s.count none s.word.toList) total

theorem addSpans_eq {spans : List Span} (hspans : ∀ s ∈ spans, s.Proper) {total d : Duration}
    (hd : d.nanos = total.nanos + (spans.map Span.nanos).sum) : addSpans total spans = .ok d := by
  induction spans generalizing total with
  | nil => exact congrArg Except.ok (ext hd.symm)
  | cons s spans ih =>
    obtain ⟨hs, hspans⟩ := List.forall_mem_cons.1 hspans
    rw [List.map_cons, List.sum_cons] at hd
    rw [← Nat.add_assoc] at hd
    have hlt : total.nanos + s.nanos < wordLimit * nanosPerSecond :=
      Nat.lt_of_le_of_lt (Nat.le_add_right _ _) (hd ▸ d.nanos_lt)
    have hnext : addSpan total s.count none s.word.toList = .ok ⟨_, hlt⟩ := addSpan_eq hs rfl
    rw [addSpans, List.foldlM_cons, hnext]
    exact ih hspans hd

/-! ## 2. Reading spans -/

/-- A letter of a unit's name is neither a digit nor a blank. -/
theorem isUnitLetter_other {c : Char} (hc : isUnitLetter c = true) :
    c.isDigit = false ∧ Text.isBlank c = false := by
  have hrange : 65 ≤ c.toNat ∧ c.toNat ≤ 122 ∨ c.toNat = 181 := by
    have hupper (h : c.isUpper = true) : 65 ≤ c.toNat ∧ c.toNat ≤ 90 :=
      (of_decide_eq_true h).imp UInt32.le_iff_toNat_le.1 UInt32.le_iff_toNat_le.1
    have hlower (h : c.isLower = true) : 97 ≤ c.toNat ∧ c.toNat ≤ 122 := by
      obtain ⟨hlow, hhigh⟩ := Bool.and_eq_true_iff.1 h
      exact ⟨UInt32.le_iff_toNat_le.1 (of_decide_eq_true hlow),
        UInt32.le_iff_toNat_le.1 (of_decide_eq_true hhigh)⟩
    rcases Bool.or_eq_true_iff.1 hc with hc | hc
    · rcases Bool.or_eq_true_iff.1 hc with hc | hc
      · have := hupper hc
        omega
      · have := hlower hc
        omega
    · obtain rfl := beq_iff_eq.1 hc
      exact .inr rfl
  constructor
  · refine Bool.eq_false_iff.2 fun hdigit => ?_
    simp only [Char.isDigit, Bool.and_eq_true, decide_eq_true_eq] at hdigit
    have hhigh : c.toNat ≤ 57 := UInt32.le_iff_toNat_le.1 hdigit.2
    omega
  · simp only [Text.isBlank, Text.blankRanges, List.any_cons, List.any_nil, Bool.or_false,
      Bool.or_eq_false_iff, Bool.and_eq_false_iff, decide_eq_false_iff_not]
    omega

theorem scan_digits {total : Duration} {cs : List Char} (hcs : ∀ c ∈ cs, c.isDigit = true) {n : Nat}
    (h : Nat.ofDigitChars 10 cs n < wordLimit) :
    cs.foldlM Scan.step ⟨total, .whole n⟩ = .ok ⟨total, .whole (Nat.ofDigitChars 10 cs n)⟩ := by
  induction cs generalizing n with
  | nil => rfl
  | cons c cs ih =>
    obtain ⟨hc, hcs⟩ := List.forall_mem_cons.1 hcs
    rw [Nat.ofDigitChars_cons, Nat.mul_comm] at h ⊢
    have hstep : Scan.step ⟨total, .whole n⟩ c = .ok ⟨total, .whole (n * 10 + digitValue c)⟩ := by
      have hword : word? (n * 10 + digitValue c) = some (n * 10 + digitValue c) :=
        word?_of_lt (Nat.lt_of_le_of_lt (le_ofDigitChars cs _) h)
      simp only [Scan.step, if_pos hc, hword]
    rw [List.foldlM_cons, hstep]
    exact ih hcs h

theorem scan_letters {total : Duration} {n : Nat} {cs name : List Char}
    (hcs : ∀ c ∈ cs, isUnitLetter c = true) :
    cs.foldlM Scan.step ⟨total, .unit n none name⟩ = .ok ⟨total, .unit n none (name ++ cs)⟩ := by
  induction cs generalizing name with
  | nil => rw [List.append_nil]; rfl
  | cons c cs ih =>
    obtain ⟨hc, hcs⟩ := List.forall_mem_cons.1 hcs
    obtain ⟨hdigit, hblank⟩ := isUnitLetter_other hc
    have hstep : Scan.step ⟨total, .unit n none name⟩ c =
        .ok ⟨total, .unit n none (name ++ [c])⟩ := by
      simp [Scan.step, hdigit, hblank, hc]
    have hname : name ++ c :: cs = name ++ [c] ++ cs := List.append_cons name c cs
    rw [List.foldlM_cons, hstep, hname]
    exact ih hcs

/-- Nothing of a span has been read yet. -/
def Phase.Between (p : Phase) : Prop := p = .start ∨ p = .gap

/-- A span is taken letter by letter and not added up before it is known to be over. -/
theorem scan_span {s : Span} (hs : s.Proper) {total : Duration} {p : Phase} (hp : p.Between) :
    s.text.toList.foldlM Scan.step ⟨total, p⟩ =
      .ok ⟨total, .unit s.count none s.word.toList⟩ := by
  have hdigits : (Nat.toDigits 10 s.count).foldlM Scan.step ⟨total, p⟩ =
      .ok ⟨total, .whole s.count⟩ := by
    have hall : ∀ c ∈ Nat.toDigits 10 s.count, c.isDigit = true := fun c => isDigit_toDigits
    have hvalue : Nat.ofDigitChars 10 (Nat.toDigits 10 s.count) 0 = s.count :=
      Nat.ofDigitChars_ten_toDigits
    cases hds : Nat.toDigits 10 s.count with
    | nil => exact absurd hds Nat.toDigits_ne_nil
    | cons c cs =>
      rw [hds] at hall hvalue
      obtain ⟨hc, hcs⟩ := List.forall_mem_cons.1 hall
      rw [Nat.ofDigitChars_cons, Nat.mul_zero, Nat.zero_add] at hvalue
      have hstep : Scan.step ⟨total, p⟩ c = .ok ⟨total, .whole (digitValue c)⟩ := by
        rcases hp with rfl | rfl <;> simp [Scan.step, hc]
      have hvalue : Nat.ofDigitChars 10 cs (digitValue c) = s.count := hvalue
      have hrest : cs.foldlM Scan.step ⟨total, .whole (digitValue c)⟩ = _ :=
        scan_digits hcs (hvalue ▸ hs.count_lt)
      rw [List.foldlM_cons, hstep, ← hvalue]
      exact hrest
  have hletters : s.word.toList.foldlM Scan.step ⟨total, .whole s.count⟩ =
      .ok ⟨total, .unit s.count none s.word.toList⟩ := by
    cases hword : s.word.toList with
    | nil => exact absurd hword hs.word_ne_nil
    | cons c cs =>
      have hall := hs.letters
      rw [hword] at hall
      obtain ⟨hc, hcs⟩ := List.forall_mem_cons.1 hall
      obtain ⟨hdigit, hblank⟩ := isUnitLetter_other hc
      have hstep : Scan.step ⟨total, .whole s.count⟩ c = .ok ⟨total, .unit s.count none [c]⟩ := by
        simp [Scan.step, hdigit, hblank, hc]
      rw [List.foldlM_cons, hstep]
      exact scan_letters hcs
  rw [Span.text_toList, List.foldlM_append, hdigits]
  exact hletters

/-- A row of spans comes to what they add up to. -/
theorem scan_spans {s : Span} {spans : List Span} (hs : s.Proper) (hspans : ∀ t ∈ spans, t.Proper)
    (total : Duration) {p : Phase} (hp : p.Between) :
    (do (← (" ".intercalate ((s :: spans).map Span.text)).toList.foldlM Scan.step
          ⟨total, p⟩).finish) = addSpans total (s :: spans) := by
  induction spans generalizing s total p with
  | nil =>
    rw [List.map_singleton, String.intercalate_singleton, scan_span hs hp, addSpans,
      List.foldlM_cons]
    show addSpan total s.count none s.word.toList = _
    cases addSpan total s.count none s.word.toList <;> rfl
  | cons t spans ih =>
    obtain ⟨ht, hspans⟩ := List.forall_mem_cons.1 hspans
    have htext : (" ".intercalate ((s :: t :: spans).map Span.text)).toList =
        s.text.toList ++ ' ' :: (" ".intercalate ((t :: spans).map Span.text)).toList := by
      rw [List.map_cons, List.map_cons, String.intercalate_cons_cons, ← List.map_cons]
      simp
    have hblank : Scan.step ⟨total, .unit s.count none s.word.toList⟩ ' ' =
        (do return ⟨← addSpan total s.count none s.word.toList, .gap⟩) := rfl
    rw [htext, List.foldlM_append, scan_span hs hp, addSpans, List.foldlM_cons]
    show (Scan.step _ ' ' >>= _) >>= _ = _
    rw [hblank]
    cases addSpan total s.count none s.word.toList with
    | error e => rfl
    | ok total => exact ih ht hspans total (.inr rfl)

/-! ## 3. What is written -/

/-- The span that is written of a count. -/
def written (count : Nat) (word : String) (takesPlural : Bool) (u : TimeUnit) : List Span :=
  if count = 0 then []
  else [⟨count, if takesPlural && count > 1 then word ++ "s" else word, u⟩]

section
variable {count : Nat} {word : String} {takesPlural : Bool} {u : TimeUnit}

theorem renderPart_eq :
    renderPart count word takesPlural = (written count word takesPlural u).map Span.text := by
  unfold renderPart written
  split
  · rfl
  · split
    · simp [Span.text, String.append_assoc]
    · simp [Span.text]

theorem sum_written : ((written count word takesPlural u).map Span.nanos).sum = count * u.nanos := by
  unfold written
  split
  · next hzero => rw [hzero, Nat.zero_mul]; rfl
  · rfl

/-- The word alone and, if it has one, its plural name the unit. -/
theorem proper_of_mem_written {s : Span} (hs : s ∈ written count word takesPlural u)
    (hcount : count < wordLimit)
    (hword : TimeUnit.ofName? word = some u) (hletters : word.toList.all isUnitLetter = true)
    (hplural : takesPlural = true → TimeUnit.ofName? (word ++ "s") = some u)
    (hshort : u.isShort = true → count * u.size < nanosPerSecond) : s.Proper := by
  unfold written at hs
  split at hs
  · cases hs
  obtain rfl := List.mem_singleton.1 hs
  refine ⟨hcount, ?_, ?_, hshort⟩
  · dsimp only
    split
    · next hmany => exact hplural (Bool.and_eq_true _ _ ▸ hmany).1
    · exact hword
  · dsimp only
    split
    · intro c hc
      rw [String.toList_append] at hc
      rcases List.mem_append.1 hc with hc | hc
      · exact List.all_eq_true.1 hletters c hc
      · obtain rfl := List.mem_singleton.1 hc
        rfl
    · exact List.all_eq_true.1 hletters

end

/-- The spans that are written of so many seconds and further nanoseconds. -/
def writtenSpans (seconds nanos : Nat) : List Span :=
  let yearRest := seconds % 31557600
  let monthRest := yearRest % 2630016
  let dayRest := monthRest % 86400
  written (seconds / 31557600) "year" true .year
    ++ written (yearRest / 2630016) "month" true .month
    ++ written (monthRest / 86400) "day" true .day
    ++ written (dayRest / 3600) "h" false .hour
    ++ written (dayRest % 3600 / 60) "m" false .minute
    ++ written (dayRest % 60) "s" false .second
    ++ written (nanos / 1000000) "ms" false .millisecond
    ++ written (nanos / 1000 % 1000) "us" false .microsecond
    ++ written (nanos % 1000) "ns" false .nanosecond

theorem renderParts_eq (seconds nanos : Nat) :
    renderParts seconds nanos = (writtenSpans seconds nanos).map Span.text := by
  simp only [writtenSpans, List.map_append, ← renderPart_eq]
  rfl

theorem sum_writtenSpans (seconds nanos : Nat) :
    ((writtenSpans seconds nanos).map Span.nanos).sum = seconds * nanosPerSecond + nanos := by
  simp only [writtenSpans, List.map_append, List.sum_append, sum_written]
  simp only [TimeUnit.nanos, TimeUnit.isShort, TimeUnit.size, nanosPerSecond]
  simp only [Bool.false_eq_true, ↓reduceIte]
  omega

theorem proper_of_mem_writtenSpans {seconds nanos : Nat} (hseconds : seconds < wordLimit)
    (hnanos : nanos < nanosPerSecond) {s : Span} (hs : s ∈ writtenSpans seconds nanos) :
    s.Proper := by
  simp only [writtenSpans, List.mem_append] at hs
  have hsmall : nanosPerSecond < wordLimit := by decide
  simp only [nanosPerSecond] at hnanos hsmall
  rcases hs with (((((((hs | hs) | hs) | hs) | hs) | hs) | hs) | hs) | hs
  · exact proper_of_mem_written hs (by omega) rfl rfl (fun _ => rfl) nofun
  · exact proper_of_mem_written hs (by omega) rfl rfl (fun _ => rfl) nofun
  · exact proper_of_mem_written hs (by omega) rfl rfl (fun _ => rfl) nofun
  · exact proper_of_mem_written hs (by omega) rfl rfl nofun nofun
  · exact proper_of_mem_written hs (by omega) rfl rfl nofun nofun
  · exact proper_of_mem_written hs (by omega) rfl rfl nofun nofun
  all_goals
    refine proper_of_mem_written hs (by omega) rfl rfl nofun fun _ => ?_
    simp only [TimeUnit.size, nanosPerSecond]
    omega

/-- A written duration is read as that duration. -/
theorem read_render (d : Duration) : read d.render = .ok d := by
  by_cases hzero : d.nanos = 0
  · obtain rfl : d = zero := ext hzero
    with_unfolding_all rfl
  have hproper : ∀ s ∈ writtenSpans d.seconds d.subsecond, s.Proper :=
    fun s => proper_of_mem_writtenSpans d.seconds_lt d.subsecond_lt
  have hsum : d.nanos = zero.nanos + ((writtenSpans d.seconds d.subsecond).map Span.nanos).sum := by
    rw [sum_writtenSpans, ← d.nanos_eq]
    exact (Nat.zero_add _).symm
  have hrender : d.render =
      " ".intercalate ((writtenSpans d.seconds d.subsecond).map Span.text) := by
    rw [render, if_neg (by simpa [isZero] using hzero), renderParts_eq]
  have hadd := addSpans_eq hproper hsum
  cases hspans : writtenSpans d.seconds d.subsecond with
  | nil =>
    rw [hspans] at hsum
    exact absurd hsum hzero
  | cons s spans =>
    rw [hspans] at hproper hrender hadd
    obtain ⟨hs, hproper⟩ := List.forall_mem_cons.1 hproper
    have hscan := scan_spans hs hproper zero (.inl rfl)
    rw [hadd, ← hrender] at hscan
    rw [read, if_neg]
    · exact hscan
    · -- A lone zero has no unit.
      intro hlone
      rw [hlone] at hscan
      cases hscan

end Duration

end ClusterKeeper
