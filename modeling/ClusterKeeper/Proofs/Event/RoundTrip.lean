import ClusterKeeper.Event.Json
import ClusterKeeper.Proofs.Duration.RoundTrip
import ClusterKeeper.Proofs.Json.Values

/-!
# `Proofs/Event/RoundTrip.lean` — the text of an event is read as that event

An event is written as an object that begins with its type, and is read in two steps. The first one
finds the type and takes the other members as values, whatever they are (`takes_readTagged`): that
is a matter of JSON. The second one decodes these values as the members of that type
(`ofContent_values`); there the counts have to fit their words, and a duration has to be read as the
one that was written.
-/

set_option autoImplicit false

namespace ClusterKeeper.ClusterEvent

open Json

/-- The counts of the event fit the words in which they are kept. -/
def InRange : ClusterEvent → Prop
  | .drainFinished polls running _ _ => polls < shortLimit ∧ running < wordLimit
  | _ => True

/-! ## 1. The members as values -/

/-- Each value of an event is read back from its text. -/
theorem takesValue_values {e : ClusterEvent} (h : e.InRange) (depth : Nat) :
    ∀ v ∈ e.values, TakesValue (readValue (depth + 1)) v.chars v := by
  cases e with
  | hostsAdded hosts =>
    refine List.forall_mem_singleton.2 ?_
    have hstrings : hosts.map Identifier.toJson = (hosts.map (·.text)).map Value.string := by
      rw [List.map_map]
      rfl
    rw [hstrings]
    exact takesValue_strings _ depth
  | hostRemoved host => exact List.forall_mem_singleton.2 (takesValue_string _ _)
  | taskResumed task node =>
    exact List.forall_mem_cons.2 ⟨takesValue_string _ _,
      List.forall_mem_singleton.2 (takesValue_string _ _)⟩
  | taskFailed task reason =>
    exact List.forall_mem_cons.2 ⟨takesValue_string _ _,
      List.forall_mem_singleton.2 (takesValue_string _ _)⟩
  | statusChanged old new =>
    exact List.forall_mem_cons.2 ⟨takesValue_string _ _,
      List.forall_mem_singleton.2 (takesValue_string _ _)⟩
  | drainFinished polls running waited timedOut =>
    have hpolls : polls < wordLimit := Nat.lt_trans h.1 (by decide)
    exact List.forall_mem_cons.2 ⟨takesValue_natural hpolls _,
      List.forall_mem_cons.2 ⟨takesValue_natural h.2 _,
        List.forall_mem_cons.2 ⟨takesValue_string _ _,
          List.forall_mem_singleton.2 (takesValue_boolean _ _)⟩⟩⟩

theorem Kind.ofTag_tag (k : Kind) : Kind.ofTag k.tag = .ok k := by
  cases k <;> rfl

theorem Kind.type_not_mem_fields (k : Kind) : "type" ∉ k.fields := by
  cases k <;> decide

variable {depth : Nat}

theorem takesValue_type (k : Kind) (ms : List (String × Value)) :
    TakesValue (Draft.read depth "type" ⟨none, ms⟩) (':' :: (Value.string k.tag).chars)
      ⟨some k, ms⟩ := by
  have htag : Takes readTag (stringChars k.tag) k := by
    intro rest
    have hstring := takes_readString isBlank_nil "variant identifier" k.tag rest
    rw [List.nil_append] at hstring
    rw [readTag, bind_eq hstring, Kind.ofTag_tag]
    rfl
  have hread := ((takes_colon isBlank_nil).bindValue (f := fun _ => readTag) htag.value).map
    fun k => (⟨some k, ms⟩ : Draft)
  simp only [bind_assoc] at hread
  exact hread

theorem takesValue_member {name : String} (hname : name ≠ "type") {v : Value}
    (hv : TakesValue (readValue depth) v.chars v) (d : Draft) :
    TakesValue (Draft.read depth name d) (':' :: v.chars)
      { d with members := d.members ++ [(name, v)] } := by
  have hrest := hv.map fun v => ({ d with members := d.members ++ [(name, v)] } : Draft)
  have hread := (takes_colon isBlank_nil).bindValue (f := fun _ => _) hrest
  rw [Draft.read, if_neg hname]
  exact hread

theorem takesMembers_draft {ms : List (String × Value)} (hnames : ∀ m ∈ ms, m.1 ≠ "type")
    (hvalues : ∀ m ∈ ms, TakesValue (readValue depth) m.2.chars m.2) (d : Draft) :
    TakesMembers (Draft.read depth) d (ms.map fun m => (m.1, ':' :: m.2.chars))
      { d with members := d.members ++ ms } := by
  induction ms generalizing d with
  | nil =>
    rw [List.append_nil]
    exact .nil d
  | cons m ms ih =>
    obtain ⟨hname, hnames⟩ := List.forall_mem_cons.1 hnames
    obtain ⟨hvalue, hvalues⟩ := List.forall_mem_cons.1 hvalues
    have hrest := ih hnames hvalues { d with members := d.members ++ [m] }
    rw [List.append_assoc, List.singleton_append] at hrest
    exact .cons (takesValue_member hname hvalue d) hrest

/-- The text of an event is taken for its kind and its members. -/
theorem takes_readTagged {e : ClusterEvent} (h : e.InRange) :
    Takes readTagged e.toJson.chars (e.kind, .object (e.kind.fields.zip e.values)) := by
  have hnames : ∀ m ∈ e.kind.fields.zip e.values, m.1 ≠ "type" := by
    rintro m hm heq
    exact e.kind.type_not_mem_fields (heq ▸ (List.of_mem_zip hm).1)
  have hvalues : ∀ m ∈ e.kind.fields.zip e.values,
      TakesValue (readValue (nestingLimit - 1)) m.2.chars m.2 :=
    fun m hm => takesValue_values h 125 _ (List.of_mem_zip hm).2
  have hmembers : TakesMembers (Draft.read (nestingLimit - 1)) ⟨none, []⟩
      ((("type", .string e.kind.tag) :: e.kind.fields.zip e.values).map fun m =>
        (m.1, ':' :: m.2.chars))
      ⟨some e.kind, e.kind.fields.zip e.values⟩ :=
    .cons (takesValue_type e.kind []) (takesMembers_draft hnames hvalues ⟨some e.kind, []⟩)
  intro rest
  rw [toJson, chars_object, List.cons_append, List.append_assoc, List.singleton_append, readTagged,
    bind_eq (peek_cons rfl _)]
  simp only
  rw [bind_eq (drop_cons '{' _), bind_eq (members_bounded isBlank_nil isBlank_nil hmembers rest)]
  rfl

/-! ## 2. The members decoded -/

theorem hostsOfJson_array (hosts : List Host) :
    hostsOfJson (.array (hosts.map Identifier.toJson)) = .ok hosts := by
  show List.mapM hostOfJson (hosts.map Identifier.toJson) = .ok hosts
  induction hosts with
  | nil => rfl
  | cons h hosts ih =>
    rw [List.map_cons, List.mapM_cons, ih]
    rfl

theorem durationOfJson_render (d : Duration) : durationOfJson (.string d.render) = .ok d := by
  simp only [durationOfJson, Value.asString, bind, Except.bind, Duration.read_render]

theorem asNatural_natural {n bound : Nat} (h : n < bound) (expected : String) :
    (Value.number (.natural n)).asNatural expected bound = .ok n :=
  if_pos h

theorem ofJson_toJson (s : Status) : Status.ofJson s.toJson = .ok s := by
  show Status.ofName s.text = .ok s
  rw [Status.ofName, Status.ofText?_text]

theorem readMembers_cons {names : List String} {known : List (String × Field)} {name : String}
    {v : Value} {field : Field} (hname : names.contains name = true)
    (hnew : known.lookup name = none) (hfield : Field.ofJson name v = .ok field)
    (rest : List (String × Value)) :
    readMembers names ((name, v) :: rest) known =
      readMembers names rest (known ++ [(name, field)]) := by
  rw [readMembers, if_pos hname, hnew, hfield]
  rfl

/-- The values of an event are decoded as that event. -/
theorem ofContent_values {e : ClusterEvent} (h : e.InRange) :
    ofContent e.kind (.object (e.kind.fields.zip e.values)) = .ok e := by
  have hofContent : ∀ {known fields}, readMembers e.kind.fields (e.kind.fields.zip e.values) [] =
      .ok known →
      (e.kind.fields.mapM fun name => required name (known.lookup name)) = .ok fields →
      ofFields? e.kind fields = some e →
      ofContent e.kind (.object (e.kind.fields.zip e.values)) = .ok e := by
    intro known fields hknown hfields he
    rw [ofContent]
    simp only [hknown, bind, Except.bind, hfields, he]
    rfl
  cases e with
  | hostsAdded hosts =>
    have hhosts : Field.ofJson "hosts" (.array (hosts.map Identifier.toJson)) =
        .ok (.hosts hosts) :=
      congrArg (Field.hosts <$> ·) (hostsOfJson_array hosts)
    exact hofContent (readMembers_cons rfl rfl hhosts []) rfl rfl
  | hostRemoved host => rfl
  | taskResumed task node => rfl
  | taskFailed task reason => rfl
  | statusChanged old new =>
    have hold : Field.ofJson "from" old.toJson = .ok (.status old) :=
      congrArg (Field.status <$> ·) (ofJson_toJson old)
    have hnew : Field.ofJson "to" new.toJson = .ok (.status new) :=
      congrArg (Field.status <$> ·) (ofJson_toJson new)
    exact hofContent ((readMembers_cons rfl rfl hold _).trans (readMembers_cons rfl rfl hnew _))
      rfl rfl
  | drainFinished polls running waited timedOut =>
    have hpolls : Field.ofJson "polls" (.number (.natural polls)) = .ok (.count polls) :=
      congrArg (Field.count <$> ·) (asNatural_natural h.1 "u32")
    have hrunning : Field.ofJson "running" (.number (.natural running)) = .ok (.count running) :=
      congrArg (Field.count <$> ·) (asNatural_natural h.2 "usize")
    have hwaited : Field.ofJson "waited" (.string waited.render) = .ok (.span waited) :=
      congrArg (Field.span <$> ·) (durationOfJson_render waited)
    have htimedOut : Field.ofJson "timed_out" (.boolean timedOut) = .ok (.truth timedOut) := rfl
    exact hofContent (((readMembers_cons rfl rfl hpolls _).trans
      (readMembers_cons rfl rfl hrunning _)).trans
      ((readMembers_cons rfl rfl hwaited _).trans (readMembers_cons rfl rfl htimedOut _)))
      rfl rfl

/-! ## 3. The round trip -/

/-- The text of an event is read as that event, whatever the names and texts in it, and a written
duration is read as that duration. -/
theorem ofText_render {e : ClusterEvent} (h : e.InRange) :
    ofText e.toJson.render = .ok e ∧ ∀ d : Duration, Duration.read d.render = .ok d := by
  refine ⟨?_, Duration.read_render⟩
  have hread : readJson e.toJson.chars = .ok (e, []) := by
    rw [readJson, bind_eq (takes_readTagged h).run]
    simp only [ofContent_values h]
    rfl
  rw [ofText, readText, Value.render, String.toList_ofList, hread]
  rfl

/-- With the longest duration there is and the greatest counts. -/
theorem ofText_render_longest :
    (drainFinished 4294967295 18446744073709551615 .longest true).InRange ∧
      Duration.longest.render = "584542046090years 7months 15days 17h 5m 3s 999ms 999us 999ns" ∧
      ofText (drainFinished 4294967295 18446744073709551615 .longest true).toJson.render =
        .ok (drainFinished 4294967295 18446744073709551615 .longest true) := by
  have h : (drainFinished 4294967295 18446744073709551615 .longest true).InRange :=
    ⟨by decide, by decide⟩
  exact ⟨h, by decide +kernel, (ofText_render h).1⟩

end ClusterKeeper.ClusterEvent
