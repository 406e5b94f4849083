import ClusterKeeper.Proofs.Json.RoundTrip

/-!
# `Proofs/Json/Values.lean` — the text of a value is read as that value

For the values that events are made of: strings, words, booleans and arrays of strings. Their text
is the one on a single line, whose brackets have nothing but commas between them
(`separated_eq`), so what has been proved of arrays and objects with blanks holds here without.
-/

set_option autoImplicit false

namespace ClusterKeeper.Json

/-! ## 1. One line -/

theorem separated_eq (texts : List (List Char)) : separated texts = inside [] [] texts := by
  cases texts with
  | nil => rfl
  | cons t ts =>
    have hbehind : ∀ t, separated (t :: ts) = t ++ behind [] ts := by
      induction ts with
      | nil => simp [separated, behind]
      | cons u us ih =>
        intro t
        rw [separated, ih]
        · simp [behind]
        · simp
    simp [inside, hbehind]

theorem chars_array (vs : List Value) :
    (Value.array vs).chars = '[' :: (inside [] [] (vs.map Value.chars) ++ [']']) := by
  have hitems : itemChars vs = vs.map Value.chars := by
    induction vs with
    | nil => rfl
    | cons v vs ih => rw [itemChars, ih, List.map_cons]
  rw [Value.chars, separated_eq, hitems]

theorem chars_object (ms : List (String × Value)) :
    (Value.object ms).chars =
      '{' :: (inside [] [] ((ms.map fun m => (m.1, ':' :: m.2.chars)).map memberText) ++ ['}']) := by
  have hmembers : memberChars ms = (ms.map fun m => (m.1, ':' :: m.2.chars)).map memberText := by
    induction ms with
    | nil => rfl
    | cons m ms ih =>
      obtain ⟨k, v⟩ := m
      rw [memberChars, ih]
      rfl
  rw [Value.chars, separated_eq, hmembers]

/-! ## 2. Numerals -/

theorem takeWord_eq {cs : List Char} {n : Nat} (h : Nat.ofDigitChars 10 cs n < wordLimit) :
    takeWord n cs = (Nat.ofDigitChars 10 cs n, 0) := by
  induction cs generalizing n with
  | nil => rfl
  | cons c cs ih =>
    rw [Nat.ofDigitChars_cons, Nat.mul_comm] at h ⊢
    exact (if_pos (Nat.lt_of_le_of_lt (le_ofDigitChars cs _) h)).trans (ih h)

theorem spanDigits_append {cs rest : List Char} (hcs : ∀ c ∈ cs, c.isDigit = true)
    (hrest : Ended rest) : spanDigits (cs ++ rest) = (cs, rest) := by
  have hnone : rest.takeWhile Char.isDigit = [] ∧ rest.dropWhile Char.isDigit = rest := by
    cases rest with
    | nil => exact ⟨rfl, rfl⟩
    | cons c rest => simp [(hrest c rfl).1]
  rw [spanDigits, List.takeWhile_append_of_pos hcs, List.dropWhile_append_of_pos hcs, hnone.1,
    hnone.2, List.append_nil]

theorem takesValue_readInteger (n : Nat) :
    TakesValue readInteger (Nat.toDigits 10 n) (Nat.toDigits 10 n) := by
  intro rest hrest
  by_cases hn : n = 0
  · subst hn
    cases rest with
    | nil => rfl
    | cons c rest => simp [readInteger, (hrest c rfl).1]
  · obtain ⟨c, cs, hdigits, hc⟩ := toDigits_eq_cons (Nat.pos_of_ne_zero hn)
    have hall : ∀ d ∈ c :: cs, d.isDigit = true := fun d hd => isDigit_toDigits (hdigits ▸ hd)
    have hspan := spanDigits_append hall hrest
    rw [hdigits]
    rw [List.cons_append] at hspan ⊢
    rw [readInteger.eq_4 _ _ fun h => hc h, if_pos (hall c (.head _)), hspan]

theorem takesValue_readNumber {n : Nat} (hn : n < wordLimit) :
    TakesValue (readNumber false) (Nat.toDigits 10 n) (.natural n) := by
  intro rest hrest
  have hfraction : readFraction rest = .ok (none, rest) := by
    cases rest with
    | nil => rfl
    | cons c rest => exact readFraction.eq_2 _ fun rest' h => (hrest c rfl).2.1 (List.cons.inj h).1
  have hexponent : readExponent rest = .ok (none, rest) := by
    cases rest with
    | nil => rfl
    | cons c rest => simp [readExponent, (hrest c rfl).2.2]
  have hword : takeWord 0 (Nat.toDigits 10 n) = (n, 0) := by
    rw [takeWord_eq (by rwa [Nat.ofDigitChars_ten_toDigits]), Nat.ofDigitChars_ten_toDigits]
  rw [readNumber, bind_eq (takesValue_readInteger n rest hrest), bind_eq hfraction,
    bind_eq hexponent]
  show (numberOfParts false (Nat.toDigits 10 n) none none >>= _) = _
  simp only [numberOfParts, hword]
  rfl

/-! ## 3. Values -/

/-- What is neither an array nor an object is read the same at any depth. -/
theorem takesValue_scalar {c : Char} {cs : List Char} {v : Value} (hblank : isBlank c = false)
    (harray : c ≠ '[') (hobject : c ≠ '{') (h : TakesValue (readScalar c) (c :: cs) v)
    (depth : Nat) : TakesValue (readValue depth) (c :: cs) v := by
  have hwith : ∀ nested, TakesValue (readValueWith nested) (c :: cs) v := by
    intro nested
    refine TakesValue.peek hblank ?_
    split
    · next heq => cases heq
    · next heq => exact absurd (Option.some.inj heq) harray
    · next heq => exact absurd (Option.some.inj heq) hobject
    · next heq =>
      cases heq
      exact h
  cases depth with
  | zero => exact hwith none
  | succ depth => exact hwith (some _)

theorem takesValue_string (s : String) (depth : Nat) :
    TakesValue (readValue depth) (Value.string s).chars (.string s) := by
  refine takesValue_scalar (by decide) (by decide) (by decide) ?_ depth
  exact (takes_drop '"').bindValue ((takes_stringRest s).value.map Value.string)

theorem takesValue_boolean (b : Bool) (depth : Nat) :
    TakesValue (readValue depth) (Value.boolean b).chars (.boolean b) := by
  cases b with
  | true => exact takesValue_scalar (by decide) (by decide) (by decide) (fun _ _ => rfl) depth
  | false => exact takesValue_scalar (by decide) (by decide) (by decide) (fun _ _ => rfl) depth

theorem takesValue_natural {n : Nat} (hn : n < wordLimit) (depth : Nat) :
    TakesValue (readValue depth) (Value.number (.natural n)).chars (.number (.natural n)) := by
  have hchars : (Value.number (.natural n)).chars = Nat.toDigits 10 n := by
    rw [Value.chars, Number.render, Nat.toString_eq_repr, Nat.toList_repr]
  have hnumber := (takesValue_readNumber hn).map fun n => Value.number n
  rw [hchars]
  cases hdigits : Nat.toDigits 10 n with
  | nil => exact absurd hdigits Nat.toDigits_ne_nil
  | cons c cs =>
    have hmem : c ∈ Nat.toDigits 10 n := by simp [hdigits]
    have hc : c.isDigit = true := isDigit_toDigits hmem
    have hne : ∀ d : Char, d.isDigit = false → c ≠ d := by
      rintro d hd rfl
      rw [hc] at hd
      cases hd
    have hscalar : readScalar c = do return .number (← readNumber false) := by
      simp [readScalar, hne, hc]
    rw [hdigits] at hnumber
    refine takesValue_scalar ?_ (hne _ (by decide)) (hne _ (by decide)) (hscalar ▸ hnumber) depth
    simp [isBlank, hne]

/-- An array of strings is read wherever one array may be. -/
theorem takesValue_strings (ss : List String) (depth : Nat) :
    TakesValue (readValue (depth + 1)) (Value.array (ss.map Value.string)).chars
      (.array (ss.map Value.string)) := by
  rw [chars_array]
  refine TakesValue.peek rfl ((takes_drop '[').bindValue ?_)
  have hitems : ∀ v ∈ ss.map Value.string, TakesValue (readValue depth) v.chars v :=
    List.forall_mem_map.2 fun s _ => takesValue_string s depth
  have hbegins : ∀ v ∈ ss.map Value.string, Begins v.chars :=
    List.forall_mem_map.2 fun s _ => ⟨'"', _, rfl, rfl, by decide⟩
  have hread := (takes_items isBlank_nil isBlank_nil hitems hbegins).value.map Value.array
  simp only [bind_assoc, pure_bind] at hread
  exact hread

end ClusterKeeper.Json
