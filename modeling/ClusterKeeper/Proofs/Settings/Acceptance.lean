import ClusterKeeper.Proofs.Settings.Reading
import ClusterKeeper.Proofs.Toml.Entries
import Mathlib.Data.List.Nodup
import Mathlib.Logic.ExistsUnique

/-!
# `Proofs/Settings/Acceptance.lean` — which entries make settings, and which settings they make

The five fields of the settings take values of three forms (`Form`), and what a field does with its
entry differs in the form only. Reading goes through the entries one after another, but as no name
comes twice, no entry undoes another: what the entries make of the standard settings can be said
field by field (`MadeOf`), with no word about their order.

The order matters to complaints. The first entry that does not fit is the one complained of,
whatever comes after it, and whether a drain would pause is asked of entries that all fit.
-/

set_option autoImplicit false

namespace ClusterKeeper.Settings

open Json (wrongType wrongValue unknownField)

/-! ## 1. Forms and fields -/

/-- A form that a field asks of the value of its entry. -/
inductive Form
  | duration
  | count
  | text
  deriving DecidableEq, Repr

namespace Form

@[reducible] def Meaning : Form → Type
  | duration => Duration
  | count => Nat
  | text => String

/-- The value has the form, and this is what it stands for. -/
inductive Means : (f : Form) → Toml.Value → f.Meaning → Prop
  | duration {text : String} {d : Duration} (h : Duration.read text = .ok d) :
      Means duration (.string text) d
  | count {n : Nat} (h : n < signedLimit) : Means count (.integer n) n
  | text {s : String} : Means text (.string s) s

/-- What is said of a value that does not have the form. One of the right type is called by its
value, another one by its type. -/
def complaint : Form → Toml.Value → String
  | duration, .string s => wrongValue (Toml.Value.string s).describe "a duration"
  | duration, v => wrongType v.describe "a duration"
  | count, .integer n => wrongValue (Toml.Value.integer n).describe "usize"
  | count, v => wrongType v.describe "usize"
  | text, v => wrongType v.describe "a string"

/-- How values of the form are read. -/
def read : (f : Form) → Toml.Value → Except ReadError f.Meaning
  | duration => durationOf
  | count => countOf
  | text => textOf

theorem Means.unique {f : Form} {v : Toml.Value} {x y : f.Meaning} (h : f.Means v x)
    (h' : f.Means v y) : x = y := by
  cases h with
  | duration h =>
    cases h' with
    | duration h' =>
      rw [h] at h'
      cases h'
      rfl
  | count => cases h'; rfl
  | text => cases h'; rfl

theorem read_of_means {f : Form} {v : Toml.Value} {x : f.Meaning} (h : f.Means v x) :
    f.read v = .ok x := by
  cases h with
  | duration h =>
    rw [read, durationOf, h]
  | count | text => rfl

/-- A value that fits a signed word, and whose duration can be added up, is read as its form has it
or complained of. -/
theorem means_or_complaint (f : Form) {v : Toml.Value} (hv : v.InRange)
    (hspelled : f = duration → ∀ text, v = .string text → ¬ Duration.TextTipsOver text) :
    (∃ x, f.Means v x) ∨ f.read v = .error (.entry (f.complaint v)) := by
  cases f with
  | duration =>
    cases v with
    | string text =>
      have hread := hspelled rfl text rfl
      rw [← Duration.read_eq_overflow_iff] at hread
      cases h : Duration.read text with
      | ok d => exact .inl ⟨d, .duration h⟩
      | error e =>
        cases e with
        | malformed =>
          refine .inr ?_
          rw [read, durationOf, h]
          rfl
        | overflow => exact absurd h hread
    | _ => exact .inr rfl
  | count =>
    cases v with
    | integer n =>
      cases n with
      | ofNat n => exact .inl ⟨n, .count (Int.ofNat_lt.1 (hv _ rfl).2)⟩
      | negSucc n => exact .inr rfl
    | _ => exact .inr rfl
  | text =>
    cases v with
    | string s => exact .inl ⟨s, .text⟩
    | _ => exact .inr rfl

end Form

/-- A field of the settings. -/
inductive Field
  | maxDrainWait
  | pollInterval
  | drainThreshold
  | statusAttribute
  | nodeTasksMap
  deriving DecidableEq, Repr

namespace Field

def all : List Field :=
  [maxDrainWait, pollInterval, drainThreshold, statusAttribute, nodeTasksMap]

/-- What the field's entry is called. -/
def name : Field → String
  | maxDrainWait => "max_drain_wait"
  | pollInterval => "poll_interval"
  | drainThreshold => "drain_threshold"
  | statusAttribute => "status_attribute"
  | nodeTasksMap => "node_tasks_map"

def form : Field → Form
  | maxDrainWait | pollInterval => .duration
  | drainThreshold => .count
  | statusAttribute | nodeTasksMap => .text

def get (s : Settings) : (f : Field) → f.form.Meaning
  | maxDrainWait => s.maxDrainWait
  | pollInterval => s.pollInterval
  | drainThreshold => s.drainThreshold
  | statusAttribute => s.statusAttribute
  | nodeTasksMap => s.nodeTasksMap

def set (s : Settings) : (f : Field) → f.form.Meaning → Settings
  | maxDrainWait, d => { s with maxDrainWait := d }
  | pollInterval, d => { s with pollInterval := d }
  | drainThreshold, n => { s with drainThreshold := n }
  | statusAttribute, t => { s with statusAttribute := t }
  | nodeTasksMap, t => { s with nodeTasksMap := t }

def ofName? (name : String) : Option Field := all.find? fun f => f.name = name

/-- These are the names that are told to one who uses another. -/
theorem names_eq : all.map name = fieldNames := rfl

theorem ofName?_name (f : Field) : ofName? f.name = some f := by cases f <;> decide

theorem name_injective {f g : Field} (h : f.name = g.name) : f = g := by
  have hf := ofName?_name f
  rw [h, ofName?_name] at hf
  exact (Option.some.inj hf).symm

theorem ofName?_eq_none {name : String} (h : ∀ f : Field, f.name ≠ name) : ofName? name = none :=
  List.find?_eq_none.2 fun f _ => by simpa using h f

theorem get_set (s : Settings) (f : Field) (x : f.form.Meaning) : get (f.set s x) f = x := by
  cases f <;> rfl

theorem get_set_of_ne (s : Settings) {f g : Field} (x : f.form.Meaning) (h : g ≠ f) :
    get (f.set s x) g = get s g := by
  cases f <;> cases g <;> first | rfl | exact absurd rfl h

theorem ext {s t : Settings} (h : ∀ f : Field, get s f = get t f) : s = t := by
  cases s
  cases t
  congr 1
  · exact h maxDrainWait
  · exact h pollInterval
  · exact h drainThreshold
  · exact h statusAttribute
  · exact h nodeTasksMap

end Field

/-! ## 2. One entry -/

/-- The entry is that of a field, and its value has the field's form. -/
def Fits (name : String) (v : Toml.Value) : Prop :=
  ∃ f : Field, f.name = name ∧ ∃ x, f.form.Means v x

/-- What is said of an entry that does not fit. -/
def complaint (name : String) (v : Toml.Value) : String :=
  match Field.ofName? name with
  | some f => f.form.complaint v
  | none => unknownField name fieldNames

section
variable {s s' : Settings} {name : String} {v : Toml.Value} {e : ReadError}

theorem setEntry_name (s : Settings) (f : Field) (v : Toml.Value) :
    s.setEntry f.name v = do return f.set s (← f.form.read v) := by
  cases f <;> rfl

theorem setEntry_of_means {f : Field} {x : f.form.Meaning} (h : f.form.Means v x) :
    s.setEntry f.name v = .ok (f.set s x) := by
  rw [setEntry_name, Form.read_of_means h]
  rfl

theorem setEntry_unknown (h : ∀ f : Field, f.name ≠ name) :
    s.setEntry name v = .error (.entry (unknownField name fieldNames)) := by
  unfold setEntry
  split
  · exact absurd rfl (h .maxDrainWait)
  · exact absurd rfl (h .pollInterval)
  · exact absurd rfl (h .drainThreshold)
  · exact absurd rfl (h .statusAttribute)
  · exact absurd rfl (h .nodeTasksMap)
  · rfl

/-- An entry fits, or is complained of. -/
theorem fits_or_complaint (s : Settings) (hv : v.InRange) (hspelled : ¬ EntryTipsOver name v) :
    Fits name v ∨ s.setEntry name v = .error (.entry (complaint name v)) := by
  by_cases hname : ∃ f : Field, f.name = name
  · obtain ⟨f, rfl⟩ := hname
    have hform : f.form = .duration → ∀ text, v = .string text → ¬ Duration.TextTipsOver text := by
      intro hf text hv htips
      refine hspelled ⟨?_, text, hv, htips⟩
      cases f <;> first | exact .inl rfl | exact .inr rfl | cases hf
    refine (f.form.means_or_complaint hv hform).imp (fun hx => ⟨f, rfl, hx⟩) fun hread => ?_
    rw [setEntry_name, hread, complaint, Field.ofName?_name]
    rfl
  · have hunknown : ∀ f : Field, f.name ≠ name := fun f hf => hname ⟨f, hf⟩
    rw [setEntry_unknown hunknown, complaint, Field.ofName?_eq_none hunknown]
    exact .inr rfl

theorem setEntry_eq_error_iff (hv : v.InRange) (hspelled : ¬ EntryTipsOver name v) :
    s.setEntry name v = .error e ↔ ¬ Fits name v ∧ e = .entry (complaint name v) := by
  constructor
  · intro h
    have hfits : ¬ Fits name v := by
      rintro ⟨f, rfl, x, hx⟩
      rw [setEntry_of_means hx] at h
      cases h
    have hcomplaint := (fits_or_complaint s hv hspelled).resolve_left hfits
    rw [h] at hcomplaint
    cases hcomplaint
    exact ⟨hfits, rfl⟩
  · rintro ⟨hfits, rfl⟩
    exact (fits_or_complaint s hv hspelled).resolve_left hfits

theorem setEntry_eq_ok (hv : v.InRange) (hspelled : ¬ EntryTipsOver name v)
    (h : s.setEntry name v = .ok s') :
    ∃ f : Field, ∃ x, f.name = name ∧ f.form.Means v x ∧ s' = f.set s x := by
  rcases fits_or_complaint s hv hspelled with ⟨f, rfl, x, hx⟩ | hcomplaint
  · rw [setEntry_of_means hx] at h
    cases h
    exact ⟨f, x, rfl, hx, rfl⟩
  · rw [h] at hcomplaint
    cases hcomplaint

end

/-! ## 3. All entries -/

/-- Every field has the value of its entry, or, if there is none, the one that it had. -/
def MadeFrom (base : Settings) (entries : Toml.Table) (s : Settings) : Prop :=
  ∀ f : Field, (∃ v, (f.name, v) ∈ entries ∧ f.form.Means v (f.get s)) ∨
    (f.name ∉ entries.map Prod.fst ∧ f.get s = f.get base)

/-- The settings that the entries describe, where nothing is said the standard ones. -/
abbrev MadeOf (entries : Toml.Table) (s : Settings) : Prop := MadeFrom standard entries s

/-- No duration that an entry spells is beyond adding up. -/
def Spelled (entries : Toml.Table) : Prop := ∀ e ∈ entries, ¬ EntryTipsOver e.1 e.2

section
variable {base s t : Settings} {entries entries' : Toml.Table} {e : ReadError}

theorem MadeFrom.cons {f : Field} {v : Toml.Value} {x : f.form.Meaning} (hx : f.form.Means v x)
    (hfresh : f.name ∉ entries.map Prod.fst) (h : MadeFrom (f.set base x) entries s) :
    MadeFrom base ((f.name, v) :: entries) s := by
  intro g
  rcases h g with ⟨w, hw, hmeans⟩ | ⟨habsent, hsame⟩
  · exact .inl ⟨w, .tail _ hw, hmeans⟩
  · by_cases hg : g = f
    · subst hg
      rw [Field.get_set] at hsame
      exact .inl ⟨v, .head _, hsame ▸ hx⟩
    · rw [Field.get_set_of_ne base x hg] at hsame
      refine .inr ⟨?_, hsame⟩
      rw [List.map_cons, List.mem_cons]
      rintro (hname | hmem)
      · exact hg (Field.name_injective hname)
      · exact habsent hmem

/-- Entries with names of their own describe one thing only. -/
theorem MadeFrom.unique (hdistinct : (entries.map Prod.fst).Nodup) (hs : MadeFrom base entries s)
    (ht : MadeFrom base entries t) : s = t := by
  refine Field.ext fun f => ?_
  rcases hs f with ⟨v, hv, hmeans⟩ | ⟨habsent, hsame⟩ <;>
    rcases ht f with ⟨w, hw, hmeans'⟩ | ⟨habsent', hsame'⟩
  · obtain rfl : v = w := (List.inj_on_of_nodup_map hdistinct hv hw rfl |> Prod.mk.inj).2
    exact hmeans.unique hmeans'
  · exact absurd (List.mem_map_of_mem hv) habsent'
  · exact absurd (List.mem_map_of_mem hw) habsent
  · exact hsame.trans hsame'.symm

/-- What entries describe does not depend on their order. -/
theorem MadeFrom.perm (hp : entries.Perm entries') (h : MadeFrom base entries s) :
    MadeFrom base entries' s := by
  intro f
  refine (h f).imp ?_ ?_
  · rintro ⟨v, hv, hmeans⟩
    exact ⟨v, hp.mem_iff.1 hv, hmeans⟩
  · rintro ⟨habsent, hsame⟩
    exact ⟨fun hmem => habsent ((hp.map Prod.fst).mem_iff.2 hmem), hsame⟩

theorem applyEntries_cons (s : Settings) (name : String) (v : Toml.Value) (rest : Toml.Table) :
    s.applyEntries ((name, v) :: rest) = s.setEntry name v >>= fun s' => s'.applyEntries rest := rfl

theorem exists_applyEntries (base : Settings) (hfits : ∀ e ∈ entries, Fits e.1 e.2) :
    ∃ s, base.applyEntries entries = .ok s := by
  induction entries generalizing base with
  | nil => exact ⟨base, rfl⟩
  | cons e entries ih =>
    obtain ⟨⟨f, hname, x, hx⟩, hrest⟩ := List.forall_mem_cons.1 hfits
    obtain ⟨s, hs⟩ := ih (f.set base x) hrest
    refine ⟨s, ?_⟩
    rw [applyEntries_cons, ← hname, setEntry_of_means hx]
    exact hs

theorem applyEntries_eq_ok (h : entries.WellFormed) (hspelled : Spelled entries)
    (hok : base.applyEntries entries = .ok s) :
    (∀ e ∈ entries, Fits e.1 e.2) ∧ MadeFrom base entries s := by
  induction entries generalizing base with
  | nil =>
    cases hok
    exact ⟨fun _ he => absurd he List.not_mem_nil, fun f => .inr ⟨List.not_mem_nil, rfl⟩⟩
  | cons e entries ih =>
    obtain ⟨name, v⟩ := e
    obtain ⟨hfresh, hdistinct⟩ := List.nodup_cons.1 h.distinct
    rw [applyEntries_cons] at hok
    cases hfirst : base.setEntry name v with
    | error e =>
      rw [hfirst] at hok
      cases hok
    | ok s₁ =>
      rw [hfirst] at hok
      obtain ⟨f, x, rfl, hx, rfl⟩ :=
        setEntry_eq_ok (h.inRange _ (.head _)) (hspelled _ (.head _)) hfirst
      obtain ⟨hfits, hmade⟩ := ih ⟨hdistinct, fun e he => h.inRange e (.tail _ he)⟩
        (fun e he => hspelled e (.tail _ he)) hok
      exact ⟨List.forall_mem_cons.2 ⟨⟨f, rfl, x, hx⟩, hfits⟩, hmade.cons hx hfresh⟩

theorem applyEntries_eq_ok_iff (h : entries.WellFormed) (hspelled : Spelled entries) :
    base.applyEntries entries = .ok s ↔
      (∀ e ∈ entries, Fits e.1 e.2) ∧ MadeFrom base entries s := by
  refine ⟨applyEntries_eq_ok h hspelled, fun ⟨hfits, hmade⟩ => ?_⟩
  obtain ⟨t, ht⟩ := exists_applyEntries base hfits
  rw [hmade.unique h.distinct (applyEntries_eq_ok h hspelled ht).2]
  exact ht

/-- The first entry that does not fit, and what is said of it. -/
def FirstUnfit (entries : Toml.Table) (message : String) : Prop :=
  ∃ before name v after, entries = before ++ (name, v) :: after ∧
    (∀ e ∈ before, Fits e.1 e.2) ∧ ¬ Fits name v ∧ message = complaint name v

theorem applyEntries_eq_error_iff (h : entries.WellFormed) (hspelled : Spelled entries) :
    base.applyEntries entries = .error e ↔
      ∃ message, FirstUnfit entries message ∧ e = .entry message := by
  rw [applyEntries, foldlM_eq_error_iff]
  constructor
  · rintro ⟨before, ⟨name, v⟩, after, s', rfl, hbefore, hentry⟩
    have hmem : (name, v) ∈ before ++ (name, v) :: after := by simp
    obtain ⟨hfits, rfl⟩ := (setEntry_eq_error_iff (h.inRange _ hmem) (hspelled _ hmem)).1 hentry
    have hsub : before ⊆ before ++ (name, v) :: after := List.subset_append_left _ _
    have hdistinct : (before.map Prod.fst).Nodup := by
      refine h.distinct.sublist ?_
      rw [List.map_append]
      exact List.sublist_append_left _ _
    have hok := applyEntries_eq_ok ⟨hdistinct, fun e he => h.inRange e (hsub he)⟩
      (fun e he => hspelled e (hsub he)) hbefore
    exact ⟨_, ⟨before, name, v, after, rfl, hok.1, hfits, rfl⟩, rfl⟩
  · rintro ⟨message, ⟨before, name, v, after, rfl, hbefore, hfits, rfl⟩, rfl⟩
    have hmem : (name, v) ∈ before ++ (name, v) :: after := by simp
    obtain ⟨s', hs'⟩ := exists_applyEntries base hbefore
    exact ⟨before, (name, v), after, s', rfl, hs',
      (setEntry_eq_error_iff (h.inRange _ hmem) (hspelled _ hmem)).2 ⟨hfits, rfl⟩⟩

end

/-! ## 4. Reading -/

/-- What reading entries comes to. -/
structure Settled (entries : Toml.Table) (result : Except ReadError Settings) : Prop where
  /-- Entries that all fit describe settings, and no two. -/
  described : (∀ e ∈ entries, Fits e.1 e.2) → ∃! s, MadeOf entries s
  accepted : ∀ s, result = .ok s ↔
    (∀ e ∈ entries, Fits e.1 e.2) ∧ MadeOf entries s ∧ s.pollInterval.nanos ≠ 0
  unordered : ∀ entries', entries.Perm entries' → ∀ s, ofEntries entries' = .ok s ↔ result = .ok s
  refused : ∀ message, result = .error (.entry message) ↔ FirstUnfit entries message
  /-- That a drain would never pause is said of entries that all fit. -/
  restless : result = .error .zeroInterval ↔
    (∀ e ∈ entries, Fits e.1 e.2) ∧ ∃ s, MadeOf entries s ∧ s.pollInterval.nanos = 0
  noOther : result ≠ .error .malformed ∧ result ≠ .error .overflow

section
variable {entries entries' : Toml.Table} {s : Settings}

theorem Spelled.perm (hp : entries.Perm entries') (h : Spelled entries) : Spelled entries' :=
  fun e he => h e (hp.mem_iff.2 he)

theorem wellFormed_perm (hp : entries.Perm entries') (h : entries.WellFormed) :
    entries'.WellFormed :=
  ⟨(hp.map Prod.fst).nodup_iff.1 h.distinct, fun e he => h.inRange e (hp.mem_iff.2 he)⟩

theorem ofEntries_accepts (h : entries.WellFormed) (hspelled : Spelled entries) :
    ofEntries entries = .ok s ↔
      (∀ e ∈ entries, Fits e.1 e.2) ∧ MadeOf entries s ∧ s.pollInterval.nanos ≠ 0 := by
  rw [ofEntries_eq_ok_iff, applyEntries_eq_ok_iff h hspelled, and_assoc]

theorem ofEntries_perm (h : entries.WellFormed) (hspelled : Spelled entries)
    (hp : entries.Perm entries') : ofEntries entries' = .ok s ↔ ofEntries entries = .ok s := by
  rw [ofEntries_accepts h hspelled, ofEntries_accepts (wellFormed_perm hp h) (hspelled.perm hp)]
  refine and_congr ?_ (and_congr_left' ⟨MadeFrom.perm hp.symm, MadeFrom.perm hp⟩)
  exact forall_congr' fun e => by rw [hp.mem_iff]

theorem ofEntries_settled (h : entries.WellFormed) (hspelled : Spelled entries) :
    Settled entries (ofEntries entries) where
  described hfits := by
    obtain ⟨s, hs⟩ := exists_applyEntries standard hfits
    have hmade : MadeOf entries s := (applyEntries_eq_ok h hspelled hs).2
    exact ⟨s, hmade, fun t ht => MadeFrom.unique h.distinct ht hmade⟩
  accepted s := ofEntries_accepts h hspelled
  unordered entries' hp s := ofEntries_perm h hspelled hp
  refused message := by
    rw [ofEntries_eq_error_iff, applyEntries_eq_error_iff h hspelled]
    simp
  restless := by
    simp [ofEntries_eq_error_iff, applyEntries_eq_error_iff h hspelled,
      applyEntries_eq_ok_iff h hspelled, and_assoc]
  noOther := by
    simp [ofEntries_eq_error_iff, applyEntries_eq_error_iff h hspelled]

/-- What entries come to goes by their values, and for settings not by their order; and so it is for
every document that has these entries. -/
theorem settled_of_spelled (hspelled : Spelled entries) :
    (entries.WellFormed → Settled entries (ofEntries entries)) ∧
      ∀ text, Toml.read text = some entries → Settled entries (read text) := by
  refine ⟨fun h => ofEntries_settled h hspelled, fun text htext => ?_⟩
  rw [read, htext]
  exact ofEntries_settled (Toml.wellFormed_of_read htext) hspelled

/-- What an entry says whose value is a text or a whole number. -/
def plain? : String × Toml.Value → Option (String × (String ⊕ Int))
  | (name, .string s) => some (name, .inl s)
  | (name, .integer n) => some (name, .inr n)
  | _ => none

theorem eq_of_plain? {e : String × Toml.Value} {x : String × (String ⊕ Int)}
    (h : plain? e = some x) : e = (x.1, x.2.elim .string .integer) := by
  obtain ⟨name, v⟩ := e
  cases v <;> cases h <;> rfl

/-- Such entries can be compared, which those of documents in general cannot. -/
theorem eq_of_map_plain? {xs : List (String × (String ⊕ Int))}
    (h : entries.map plain? = xs.map some) :
    entries = xs.map fun x => (x.1, x.2.elim .string .integer) := by
  induction entries generalizing xs with
  | nil => rw [List.map_eq_nil_iff.1 h.symm, List.map_nil]
  | cons e entries ih =>
    cases xs with
    | nil => cases h
    | cons x xs =>
      obtain ⟨he, h⟩ := List.cons.inj h
      rw [List.map_cons, eq_of_plain? he, ih h]

/-- A drain that never pauses, a name that is none, a count below zero: it is the name that is
complained of. -/
theorem unknown_name_settled :
    Spelled [("poll_interval", .string "0s"), ("max_wait", .string "1m"),
      ("drain_threshold", .integer (-1))] ∧
    read "poll_interval = \"0s\"\nmax_wait = \"1m\"\ndrain_threshold = -1\n" =
      .error (.entry (unknownField "max_wait" fieldNames)) := by
  have hspelled : Spelled [("poll_interval", .string "0s"), ("max_wait", .string "1m"),
      ("drain_threshold", .integer (-1))] := by
    refine List.forall_mem_cons.2 ⟨?_, List.forall_mem_cons.2 ⟨?_, List.forall_mem_singleton.2 ?_⟩⟩
    · rintro ⟨-, text, htext, htips⟩
      cases htext
      have hzero : Duration.read "0s" = .ok .zero := by decide +kernel
      rw [← Duration.read_eq_overflow_iff, hzero] at htips
      cases htips
    · exact fun h => absurd h.1 (by decide)
    · exact fun h => absurd h.1 (by decide)
  have hentries : Toml.read "poll_interval = \"0s\"\nmax_wait = \"1m\"\ndrain_threshold = -1\n" =
      some [("poll_interval", .string "0s"), ("max_wait", .string "1m"),
        ("drain_threshold", .integer (-1))] := by
    have hplain : (Toml.read "poll_interval = \"0s\"\nmax_wait = \"1m\"\ndrain_threshold = -1\n").map
        (·.map plain?) = some ([("poll_interval", .inl "0s"), ("max_wait", .inl "1m"),
          ("drain_threshold", .inr (-1))].map some) := by decide +kernel
    obtain ⟨entries, hentries, hplain⟩ := Option.map_eq_some_iff.1 hplain
    exact hentries.trans (congrArg some (eq_of_map_plain? hplain))
  refine ⟨hspelled, (((settled_of_spelled hspelled).2 _ hentries).refused _).2 ?_⟩
  refine ⟨[_], _, _, [_], rfl, List.forall_mem_singleton.2 ?_, ?_, rfl⟩
  · exact ⟨.pollInterval, rfl, .zero, .duration (by decide +kernel)⟩
  · rintro ⟨f, hname, -⟩
    cases f <;> exact absurd hname (by decide)

end

end ClusterKeeper.Settings
