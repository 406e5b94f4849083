import ClusterKeeper.Json.Decode
import ClusterKeeper.Json.Printer

/-!
# `Proofs/Json/RoundTrip.lean` — what is written is read back

Printers produce a list of characters, readers take one from the front of a text. So what relates
the two is `Takes r cs a`: from every text that begins with `cs` the reader takes just these
characters and comes to `a`. It composes along `bind` (`Takes.bind`), and so the proof that a text
is read back follows the reader, one lemma per reader, and never speaks of what comes behind.

Some readers leave behind what they have looked at. `peek` only passes over blanks, so its lemma is
about what goes on with the character it shows (`Takes.peek`). A number goes on as long as there are
digits, so it is read back only where it ends (`TakesValue`), as every value of a text does: a comma
or a bracket follows, or a blank. And the items of an array end in front of its bracket, so their
lemma is about the array as a whole (`takes_items`).
-/

set_option autoImplicit false

namespace ClusterKeeper.Json

variable {α β : Type}

/-- From a text that begins with these characters the reader takes them and comes to `a`. -/
def Takes (r : Reader α) (cs : List Char) (a : α) : Prop := ∀ rest, r (cs ++ rest) = .ok (a, rest)

theorem Takes.run {r : Reader α} {cs : List Char} {a : α} (h : Takes r cs a) :
    r cs = .ok (a, []) := by
  have hall := h []
  rwa [List.append_nil] at hall

theorem takes_pure (a : α) : Takes (pure a) [] a := fun _ => rfl

theorem bind_eq {r : Reader α} {f : α → Reader β} {cs rest : List Char} {a : α}
    (h : r cs = .ok (a, rest)) : (r >>= f) cs = f a rest := by
  show (r cs >>= fun p => f p.1 p.2) = _
  rw [h]
  rfl

theorem Takes.bind {r : Reader α} {f : α → Reader β} {cs ds : List Char} {a : α} {b : β}
    (h : Takes r cs a) (hf : Takes (f a) ds b) : Takes (r >>= f) (cs ++ ds) b := by
  intro rest
  rw [List.append_assoc, bind_eq (h _)]
  exact hf rest

theorem drop_cons (c : Char) (cs : List Char) : drop (c :: cs) = .ok ((), cs) := rfl

theorem takes_drop (c : Char) : Takes drop [c] () := drop_cons c

theorem peek_eq {blanks cs : List Char} {c : Char} (hb : ∀ b ∈ blanks, isBlank b = true)
    (hc : isBlank c = false) : peek (blanks ++ c :: cs) = .ok (some c, c :: cs) := by
  have hrest : (blanks ++ c :: cs).dropWhile isBlank = c :: cs := by
    rw [List.dropWhile_append_of_pos hb, List.dropWhile_cons_of_neg (by simp [hc])]
  simp [peek, hrest]

theorem isBlank_nil : ∀ b ∈ ([] : List Char), isBlank b = true :=
  fun _ h => absurd h List.not_mem_nil

theorem peek_cons {c : Char} (hc : isBlank c = false) (cs : List Char) :
    peek (c :: cs) = .ok (some c, c :: cs) :=
  peek_eq isBlank_nil hc

/-- Blanks are passed over; the character behind them is shown and not taken. -/
theorem Takes.peek {f : Option Char → Reader β} {blanks cs : List Char} {c : Char} {b : β}
    (hb : ∀ b ∈ blanks, isBlank b = true) (hc : isBlank c = false)
    (h : Takes (f (some c)) (c :: cs) b) : Takes (peek >>= f) (blanks ++ c :: cs) b := by
  intro rest
  rw [List.append_assoc, List.cons_append, bind_eq (peek_eq hb hc)]
  exact h rest

/-- No number goes on like this. -/
def Ended (rest : List Char) : Prop :=
  ∀ c ∈ rest.head?, c.isDigit = false ∧ c ≠ '.' ∧ c ≠ 'e' ∧ c ≠ 'E'

theorem ended_cons {c : Char} (hc : c.isDigit = false ∧ c ≠ '.' ∧ c ≠ 'e' ∧ c ≠ 'E')
    (rest : List Char) : Ended (c :: rest) := by
  rintro d ⟨⟩
  exact hc

/-- Behind blanks that stand before a bracket there is the end of any value. -/
theorem ended_close {close : List Char} (hclose : ∀ b ∈ close, isBlank b = true) {rest : List Char}
    (h : Ended rest) : Ended (close ++ rest) := by
  cases close with
  | nil => exact h
  | cons b close =>
    refine ended_cons ?_ _
    have hb := hclose b (.head _)
    simp only [isBlank, Bool.or_eq_true, decide_eq_true_eq] at hb
    rcases hb with ((rfl | rfl) | rfl) | rfl <;> decide

/-- From a text that begins with these characters, and in which they end a value, the reader takes
them and comes to `a`. -/
def TakesValue (r : Reader α) (cs : List Char) (a : α) : Prop :=
  ∀ rest, Ended rest → r (cs ++ rest) = .ok (a, rest)

theorem Takes.value {r : Reader α} {cs : List Char} {a : α} (h : Takes r cs a) :
    TakesValue r cs a := fun rest _ => h rest

theorem Takes.bindValue {r : Reader α} {f : α → Reader β} {cs ds : List Char} {a : α} {b : β}
    (h : Takes r cs a) (hf : TakesValue (f a) ds b) : TakesValue (r >>= f) (cs ++ ds) b := by
  intro rest hrest
  rw [List.append_assoc, bind_eq (h _)]
  exact hf rest hrest

theorem TakesValue.map {r : Reader α} {cs : List Char} {a : α} (h : TakesValue r cs a)
    (f : α → β) : TakesValue (do return f (← r)) cs (f a) := by
  intro rest hrest
  rw [bind_eq (h rest hrest)]
  rfl

theorem TakesValue.peek {f : Option Char → Reader β} {cs : List Char} {c : Char} {b : β}
    (hc : isBlank c = false) (h : TakesValue (f (some c)) (c :: cs) b) :
    TakesValue (peek >>= f) (c :: cs) b := by
  intro rest hrest
  rw [List.cons_append, bind_eq (peek_cons hc _)]
  exact h rest hrest

/-! ## 1. Strings -/

theorem hexValue_hexDigit : ∀ n < 16, hexValue? (hexDigit n) = some n := by decide

theorem hasFourBytes_cons (a b c d : Char) (rest : List Char) :
    hasFourBytes (a :: b :: c :: d :: rest) = true := by
  have ha := a.utf8Size_pos
  have hb := b.utf8Size_pos
  have hc := c.utf8Size_pos
  have hd := d.utf8Size_pos
  simp [hasFourBytes]
  omega

/-- A character that has been read, in front of what follows it. -/
def prepend (c : Char) (p : List Char × List Char) : List Char × List Char := (c :: p.1, p.2)

theorem stringBody_plain {c : Char} (hquote : c ≠ '"') (hslash : c ≠ '\\') (hc : ¬ c.toNat < 0x20)
    (rest : List Char) :
    stringBody false .plain (c :: rest) = prepend c <$> stringBody false .plain rest := by
  rw [stringBody.eq_3 _ _ _ hquote hslash, if_neg hc]
  cases stringBody false .plain rest <;> rfl

theorem stringBody_short {l c : Char} (hl : l ≠ 'u') (h : shortEscape? l = some c)
    (rest : List Char) :
    stringBody false .plain ('\\' :: l :: rest) = prepend c <$> stringBody false .plain rest := by
  rw [stringBody, stringBody.eq_5 _ _ _ hl]
  simp only [h]
  cases stringBody false .plain rest <;> rfl

theorem stringBody_control {c : Char} (hc : c.toNat < 0x20) (rest : List Char) :
    stringBody false .plain
        ('\\' :: 'u' :: '0' :: '0' :: hexDigit (c.toNat / 16) :: hexDigit (c.toNat % 16) :: rest) =
      prepend c <$> stringBody false .plain rest := by
  have hhigh := hexValue_hexDigit (c.toNat / 16) (by omega)
  have hlow := hexValue_hexDigit (c.toNat % 16) (by omega)
  have hcode : c.toNat / 16 * 16 + c.toNat % 16 = c.toNat := by omega
  have htrail : isTrailHalf c.toNat = false := by simp [isTrailHalf]; omega
  have hlead : isLeadHalf c.toNat = false := by simp [isLeadHalf]; omega
  have hzero : hexValue? '0' = some 0 := rfl
  simp [stringBody, hasFourBytes_cons, hzero, hhigh, hlow, hcode, endOfHex, htrail, hlead]
  show (fun p => ([c] ++ p.1, p.2)) <$> stringBody false .plain rest = _
  cases stringBody false .plain rest <;> rfl

/-- One character, however it is written. -/
theorem stringBody_escapeChar (c : Char) (rest : List Char) :
    stringBody false .plain (escapeChar c ++ rest) =
      prepend c <$> stringBody false .plain rest := by
  unfold escapeChar
  iterate 7
    split
    · subst_vars
      exact stringBody_short (by decide) rfl rest
  split
  · next hc => exact stringBody_control hc rest
  · next hquote hslash _ _ _ _ _ hc => exact stringBody_plain hquote hslash hc rest

theorem stringBody_escaped (cs rest : List Char) :
    stringBody false .plain (cs.flatMap escapeChar ++ '"' :: rest) = .ok (cs, rest) := by
  induction cs with
  | nil => rfl
  | cons c cs ih =>
    rw [List.flatMap_cons, List.append_assoc, stringBody_escapeChar, ih]
    rfl

/-- What stands between the quotes is read back, whatever the characters. -/
theorem takes_stringRest (s : String) :
    Takes stringRest (s.toList.flatMap escapeChar ++ ['"']) s := by
  intro rest
  rw [List.append_assoc, List.singleton_append, stringRest, stringBody_escaped]
  show Except.ok (String.ofList s.toList, rest) = _
  rw [String.ofList_toList]

theorem takes_readString {blanks : List Char} (hb : ∀ b ∈ blanks, isBlank b = true)
    (expected s : String) : Takes (readString expected) (blanks ++ stringChars s) s :=
  .peek hb rfl ((takes_drop '"').bind (takes_stringRest s))

/-! ## 2. Arrays -/

/-- Items behind the first one, each with a comma and blanks in front of it. -/
def behind (lead : List Char) (texts : List (List Char)) : List Char :=
  texts.flatMap fun t => ',' :: (lead ++ t)

/-- What stands between the brackets of an array. -/
def inside (lead close : List Char) : List (List Char) → List Char
  | [] => []
  | t :: ts => lead ++ (t ++ (behind lead ts ++ close))

theorem separatedLines_cons (level : Nat) (t : List Char) (ts : List (List Char)) :
    separatedLines level (t :: ts) = newLine level ++ (t ++ behind (newLine level) ts) := by
  induction ts generalizing t with
  | nil => simp [separatedLines, behind]
  | cons u us ih =>
    rw [separatedLines, ih]
    · simp [behind]
    · simp

theorem prettyChars_array (level : Nat) (vs : List Value) :
    (Value.array vs).prettyChars level =
      '[' :: (inside (newLine (level + 1)) (newLine level) (prettyItems (level + 1) vs) ++
        [']']) := by
  cases vs with
  | nil => simp [Value.prettyChars, prettyItems, inside]
  | cons v vs =>
    rw [Value.prettyChars, prettyItems, separatedLines_cons, inside]
    simp

theorem prettyItems_map {f : α → Value} (level : Nat) (xs : List α) :
    prettyItems level (xs.map f) = xs.map fun x => (f x).prettyChars level := by
  induction xs with
  | nil => rfl
  | cons x xs ih => rw [List.map_cons, prettyItems, ih, List.map_cons]

theorem isBlank_newLine (level : Nat) : ∀ b ∈ newLine level, isBlank b = true := by
  intro b hb
  rcases List.mem_cons.1 hb with rfl | hb
  · rfl
  · obtain rfl := (List.mem_replicate.1 hb).2
    rfl

theorem hasItem_last {close : List Char} (hclose : ∀ b ∈ close, isBlank b = true) (first : Bool)
    (rest : List Char) : hasItem first (close ++ ']' :: rest) = .ok (false, ']' :: rest) := by
  rw [hasItem, bind_eq (peek_eq hclose rfl)]
  rfl

/-- What an item begins with: neither a blank nor the end of the array. -/
def Begins (cs : List Char) : Prop := ∃ c rest, cs = c :: rest ∧ isBlank c = false ∧ c ≠ ']'

theorem Begins.length_pos {cs : List Char} (h : Begins cs) : 0 < cs.length := by
  obtain ⟨c, rest, rfl, -, -⟩ := h
  exact Nat.succ_pos _

section
variable {lead close : List Char} (hlead : ∀ b ∈ lead, isBlank b = true)
  (hclose : ∀ b ∈ close, isBlank b = true)

include hlead

theorem hasItem_first {cs : List Char} (h : Begins cs) (rest : List Char) :
    hasItem true (lead ++ (cs ++ rest)) = .ok (true, cs ++ rest) := by
  obtain ⟨c, cs, rfl, hc, hne⟩ := h
  rw [List.cons_append, hasItem, bind_eq (peek_eq hlead hc)]
  simp only [↓reduceIte]
  rfl

theorem hasItem_more {cs : List Char} (h : Begins cs) (rest : List Char) :
    hasItem false (',' :: (lead ++ (cs ++ rest))) = .ok (true, cs ++ rest) := by
  obtain ⟨c, cs, rfl, hc, hne⟩ := h
  rw [List.cons_append, hasItem, bind_eq (peek_cons rfl _)]
  show (drop >>= _) (',' :: (lead ++ c :: (cs ++ rest))) = _
  rw [bind_eq (drop_cons ',' _), bind_eq (peek_eq hlead hc)]
  simp only
  rfl

omit hlead in
include hclose in
/-- Every item ends where it should: in front of a comma, of blanks or of the bracket. -/
theorem ended_behind {c : Char} (hc : c.isDigit = false ∧ c ≠ '.' ∧ c ≠ 'e' ∧ c ≠ 'E')
    (texts : List (List Char)) (rest : List Char) :
    Ended (behind lead texts ++ (close ++ c :: rest)) := by
  cases texts with
  | nil => exact ended_close hclose (ended_cons hc rest)
  | cons t ts =>
    rw [behind, List.flatMap_cons, List.cons_append, List.cons_append]
    exact ended_cons (by decide) _

variable {item : Reader α} {print : α → List Char} {xs : List α}

include hclose

theorem items_behind (hprint : ∀ x ∈ xs, TakesValue item (print x) x)
    (hbegins : ∀ x ∈ xs, Begins (print x)) {fuel : List Char} (hfuel : xs.length < fuel.length)
    (rest : List Char) :
    items item fuel false (behind lead (xs.map print) ++ (close ++ ']' :: rest)) =
      .ok (xs, ']' :: rest) := by
  induction xs generalizing fuel with
  | nil =>
    cases fuel with
    | nil => simp at hfuel
    | cons _ fuel =>
      rw [items, List.map_nil, behind, List.flatMap_nil, List.nil_append,
        bind_eq (hasItem_last hclose false rest)]
      rfl
  | cons x xs ih =>
    obtain ⟨hx, hprint⟩ := List.forall_mem_cons.1 hprint
    obtain ⟨hxs, hbegins⟩ := List.forall_mem_cons.1 hbegins
    cases fuel with
    | nil => simp at hfuel
    | cons _ fuel =>
      have htext : behind lead ((x :: xs).map print) ++ (close ++ ']' :: rest) =
          ',' :: (lead ++ (print x ++
            (behind lead (xs.map print) ++ (close ++ ']' :: rest)))) := by
        simp [behind]
      rw [htext, items, bind_eq (hasItem_more hlead hxs _)]
      simp only [↓reduceIte]
      rw [bind_eq (hx _ (ended_behind hclose (by decide) _ rest)),
        bind_eq (ih hprint hbegins (by simpa using hfuel))]
      rfl

/-- Items are read up to the bracket behind them. -/
theorem items_inside (hprint : ∀ x ∈ xs, TakesValue item (print x) x)
    (hbegins : ∀ x ∈ xs, Begins (print x)) {fuel : List Char} (hfuel : xs.length < fuel.length)
    (rest : List Char) :
    items item fuel true (inside lead close (xs.map print) ++ ']' :: rest) =
      .ok (xs, ']' :: rest) := by
  cases fuel with
  | nil => simp at hfuel
  | cons _ fuel =>
    cases xs with
    | nil =>
      rw [items, List.map_nil, inside, bind_eq (hasItem_last (by simp) true rest)]
      rfl
    | cons x xs =>
      obtain ⟨hx, hprint⟩ := List.forall_mem_cons.1 hprint
      obtain ⟨hxs, hbegins⟩ := List.forall_mem_cons.1 hbegins
      have htext : inside lead close ((x :: xs).map print) ++ ']' :: rest =
          lead ++ (print x ++ (behind lead (xs.map print) ++ (close ++ ']' :: rest))) := by
        simp [inside]
      rw [htext, items, bind_eq (hasItem_first hlead hxs _)]
      simp only [↓reduceIte]
      rw [bind_eq (hx _ (ended_behind hclose (by decide) _ rest)),
        bind_eq (items_behind hlead hclose hprint hbegins (by simpa using hfuel) rest)]
      rfl

omit hlead hclose in
theorem length_le_inside (hbegins : ∀ x ∈ xs, Begins (print x)) (lead close : List Char) :
    xs.length ≤ (inside lead close (xs.map print)).length := by
  have hbehind : ∀ ys : List α, ys.length ≤ (behind lead (ys.map print)).length := by
    intro ys
    induction ys with
    | nil => exact Nat.zero_le _
    | cons y ys ih =>
      simp only [behind, List.map_cons, List.flatMap_cons, List.length_append,
        List.length_cons] at ih ⊢
      omega
  cases xs with
  | nil => exact Nat.zero_le _
  | cons x xs =>
    have hx := (hbegins x (.head _)).length_pos
    have hxs := hbehind xs
    simp only [inside, List.map_cons, List.length_append, List.length_cons]
    omega

theorem takes_items (hprint : ∀ x ∈ xs, TakesValue item (print x) x)
    (hbegins : ∀ x ∈ xs, Begins (print x)) :
    Takes (do
        let xs ← bounded fun fuel => items item fuel true
        endArray
        return xs)
      (inside lead close (xs.map print) ++ [']']) xs := by
  intro rest
  rw [List.append_assoc, List.singleton_append]
  have hfuel : xs.length < (inside lead close (xs.map print) ++ ']' :: rest).length := by
    have hle := length_le_inside hbegins lead close
    simp only [List.length_append, List.length_cons]
    omega
  have hitems : bounded (fun fuel => items item fuel true)
      (inside lead close (xs.map print) ++ ']' :: rest) = .ok (xs, ']' :: rest) :=
    items_inside hlead hclose hprint hbegins hfuel rest
  rw [bind_eq hitems, endArray]
  rfl

/-- An array is read back if each of its items is. -/
theorem takes_readArray {blanks : List Char} (hb : ∀ b ∈ blanks, isBlank b = true)
    (expected : String) (hprint : ∀ x ∈ xs, TakesValue item (print x) x)
    (hbegins : ∀ x ∈ xs, Begins (print x)) :
    Takes (readArray expected item)
      (blanks ++ '[' :: (inside lead close (xs.map print) ++ [']'])) xs :=
  .peek hb rfl ((takes_drop '[').bind (takes_items hlead hclose hprint hbegins))

end

/-! ## 3. Objects -/

variable {σ : Type}

/-- A member as it is written: its name, and what stands behind that. -/
def memberText (m : String × List Char) : List Char := stringChars m.1 ++ m.2

theorem prettyChars_object (level : Nat) (ms : List (String × Value)) :
    (Value.object ms).prettyChars level =
      '{' :: (inside (newLine (level + 1)) (newLine level) (prettyMembers (level + 1) ms) ++
        ['}']) := by
  cases ms with
  | nil => simp [Value.prettyChars, prettyMembers, inside]
  | cons m ms =>
    obtain ⟨k, v⟩ := m
    rw [Value.prettyChars, prettyMembers, separatedLines_cons, inside]
    simp

theorem prettyMembers_map (level : Nat) (ms : List (String × Value)) :
    prettyMembers level ms =
      (ms.map fun m => (m.1, ':' :: ' ' :: m.2.prettyChars level)).map memberText := by
  induction ms with
  | nil => rfl
  | cons m ms ih =>
    obtain ⟨k, v⟩ := m
    rw [prettyMembers, ih]
    rfl

/-- Members that are read one after another, and what is known before and after them. -/
inductive TakesMembers (member : String → σ → Reader σ) :
    σ → List (String × List Char) → σ → Prop
  | nil (known : σ) : TakesMembers member known [] known
  | cons {known next last : σ} {m : String × List Char} {ms : List (String × List Char)}
      (h : TakesValue (member m.1 known) m.2 next) (hs : TakesMembers member next ms last) :
      TakesMembers member known (m :: ms) last

theorem hasMember_last {close : List Char} (hclose : ∀ b ∈ close, isBlank b = true) (first : Bool)
    (rest : List Char) : hasMember first (close ++ '}' :: rest) = .ok (false, '}' :: rest) := by
  rw [hasMember, bind_eq (peek_eq hclose rfl)]
  rfl

theorem takes_colon {blanks : List Char} (hb : ∀ b ∈ blanks, isBlank b = true) :
    Takes colon (blanks ++ [':']) () :=
  .peek hb rfl (takes_drop ':')

section
variable {lead close : List Char} (hlead : ∀ b ∈ lead, isBlank b = true)
  (hclose : ∀ b ∈ close, isBlank b = true)

include hlead

theorem hasMember_first (rest : List Char) :
    hasMember true (lead ++ '"' :: rest) = .ok (true, rest) := by
  rw [hasMember, bind_eq (peek_eq hlead rfl)]
  rfl

theorem hasMember_more (rest : List Char) :
    hasMember false (',' :: (lead ++ '"' :: rest)) = .ok (true, rest) := by
  rw [hasMember, bind_eq (peek_cons rfl _)]
  show (drop >>= _) (',' :: (lead ++ '"' :: rest)) = _
  rw [bind_eq (drop_cons ',' _), bind_eq (peek_eq hlead rfl)]
  rfl

variable {member : String → σ → Reader σ} {known last : σ} {ms : List (String × List Char)}

include hclose

theorem members_behind (h : TakesMembers member known ms last) {fuel : List Char}
    (hfuel : ms.length < fuel.length) (rest : List Char) :
    members member fuel false known (behind lead (ms.map memberText) ++ (close ++ '}' :: rest)) =
      .ok (last, '}' :: rest) := by
  induction h generalizing fuel with
  | nil known =>
    cases fuel with
    | nil => simp at hfuel
    | cons _ fuel =>
      rw [members, List.map_nil, behind, List.flatMap_nil, List.nil_append,
        bind_eq (hasMember_last hclose false rest)]
      rfl
  | @cons known next last m ms h _ ih =>
    cases fuel with
    | nil => simp at hfuel
    | cons _ fuel =>
      have htext : behind lead ((m :: ms).map memberText) ++ (close ++ '}' :: rest) =
          ',' :: (lead ++ '"' :: ((m.1.toList.flatMap escapeChar ++ ['"']) ++ (m.2 ++
            (behind lead (ms.map memberText) ++ (close ++ '}' :: rest))))) := by
        simp [behind, memberText, stringChars]
      rw [htext, members, bind_eq (hasMember_more hlead _)]
      simp only [↓reduceIte]
      rw [bind_eq (takes_stringRest m.1 _),
        bind_eq (h _ (ended_behind hclose (by decide) _ rest))]
      exact ih (by simpa using hfuel)

theorem members_inside (h : TakesMembers member known ms last) {fuel : List Char}
    (hfuel : ms.length < fuel.length) (rest : List Char) :
    members member fuel true known (inside lead close (ms.map memberText) ++ '}' :: rest) =
      .ok (last, '}' :: rest) := by
  cases fuel with
  | nil => simp at hfuel
  | cons _ fuel =>
    cases h with
    | nil =>
      rw [members, List.map_nil, inside, bind_eq (hasMember_last (by simp) true rest)]
      rfl
    | @cons _ next _ m ms h hs =>
      have htext : inside lead close ((m :: ms).map memberText) ++ '}' :: rest =
          lead ++ '"' :: ((m.1.toList.flatMap escapeChar ++ ['"']) ++ (m.2 ++
            (behind lead (ms.map memberText) ++ (close ++ '}' :: rest)))) := by
        simp [inside, memberText, stringChars]
      rw [htext, members, bind_eq (hasMember_first hlead _)]
      simp only [↓reduceIte]
      rw [bind_eq (takes_stringRest m.1 _),
        bind_eq (h _ (ended_behind hclose (by decide) _ rest))]
      exact members_behind hlead hclose hs (by simpa using hfuel) rest

/-- An object is read back, up to its brace, if each of its members is. -/
theorem members_bounded (h : TakesMembers member known ms last) (rest : List Char) :
    bounded (fun fuel => members member fuel true known)
      (inside lead close (ms.map memberText) ++ '}' :: rest) = .ok (last, '}' :: rest) := by
  refine members_inside hlead hclose h ?_ rest
  have hbegins : ∀ m ∈ ms, Begins (memberText m) := fun m _ => ⟨'"', _, rfl, rfl, by decide⟩
  have hle := length_le_inside hbegins lead close
  simp only [List.length_append, List.length_cons]
  omega

end

/-- A record that is written as an object is read back if its members are, up to the brace. -/
theorem takes_readRecord {byPosition byName : Reader α} {cs : List Char} {a : α}
    (h : ∀ rest, byName (cs ++ '}' :: rest) = .ok (a, '}' :: rest)) (expected : String) :
    Takes (readRecord expected byPosition byName) ('{' :: (cs ++ ['}'])) a := by
  intro rest
  rw [List.cons_append, List.append_assoc, List.singleton_append, readRecord,
    bind_eq (peek_cons rfl _)]
  simp only
  rw [bind_eq (drop_cons '{' _), bind_eq (h rest)]
  rfl

end ClusterKeeper.Json
