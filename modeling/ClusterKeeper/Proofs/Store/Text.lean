import ClusterKeeper.Proofs.Json.RoundTrip
import ClusterKeeper.Store.File

/-!
# `Proofs/Store/Text.lean` — the text of a record is read as that record

A text that lists hosts, whatever their names, is read as the record of these hosts
(`HostRecord.ofText_listing`): it is one object with one member, which is an array of strings. The
text of a record lists its hosts in the order in which the set keeps them, so a record comes back
from its file as it was written (`FileStore.recordOf_renderFile`).
-/

set_option autoImplicit false

namespace ClusterKeeper

open Json

theorem Identifier.takes_readJson {kind : NameKind} (i : Identifier kind) :
    Takes Identifier.readJson (stringChars i.text) i := by
  have hs := takes_readString isBlank_nil "a string" i.text
  have h := hs.bind (f := fun text => pure (⟨text⟩ : Identifier kind)) (takes_pure _)
  rwa [List.nil_append, List.append_nil] at h

namespace HostRecord

theorem ofHosts_toList (r : HostRecord) : ofHosts r.hosts.toList = r := by
  obtain ⟨hosts⟩ := r
  exact congrArg HostRecord.mk (OrderedSet.ext_mem fun h => OrderedSet.mem_ofList)

/-- Neither the order of the hosts counts nor how often they are listed. -/
theorem ofHosts_congr {hs hs' : List Host} (h : ∀ x, x ∈ hs ↔ x ∈ hs') : ofHosts hs = ofHosts hs' :=
  congrArg HostRecord.mk
    (OrderedSet.ext_mem fun x => OrderedSet.mem_ofList.trans ((h x).trans OrderedSet.mem_ofList.symm))

/-- An object that lists these hosts, in this order. -/
def listing (hs : List Host) : Value := .object [("members", .array (hs.map Identifier.toJson))]

/-- The hosts as they stand in the text, their array beginning at a level of indentation. -/
def hostsText (hs : List Host) : List Char :=
  '[' :: (inside (newLine 2) (newLine 1) (hs.map fun h => stringChars h.text) ++ [']'])

theorem renderPretty_listing (hs : List Host) :
    (listing hs).renderPretty.toList =
      '{' :: (inside (newLine 1) (newLine 0)
        ([("members", ':' :: ' ' :: hostsText hs)].map memberText) ++ ['}']) := by
  have harray : (Value.array (hs.map Identifier.toJson)).prettyChars 1 = hostsText hs := by
    rw [prettyChars_array, prettyItems_map]
    rfl
  rw [Value.renderPretty, String.toList_ofList, listing, prettyChars_object,
    prettyMembers_map, List.map_cons, harray]
  rfl

theorem takes_readHosts (hs : List Host) : Takes readHosts (' ' :: hostsText hs) hs :=
  takes_readArray (isBlank_newLine 2) (isBlank_newLine 1) (List.forall_mem_singleton.2 rfl) _
    (fun h _ => (Identifier.takes_readJson h).value) fun _ _ => ⟨'"', _, rfl, rfl, by decide⟩

theorem takes_readMember (hs : List Host) :
    Takes (readMember "members" none) (':' :: ' ' :: hostsText hs) (some hs) := by
  have hvalue := (takes_colon isBlank_nil).bind (f := fun _ => readHosts) (takes_readHosts hs)
  have h := hvalue.bind (f := fun hosts => pure (some hosts)) (takes_pure _)
  rw [List.append_nil] at h
  exact h

theorem takes_readJson (hs : List Host) :
    Takes readJson (listing hs).renderPretty.toList (ofHosts hs) := by
  have hmembers : TakesMembers readMember none [("members", ':' :: ' ' :: hostsText hs)]
      (some hs) := .cons (takes_readMember hs).value (.nil _)
  have hrecord : Takes (readRecord "struct ClusterConfig"
      (readPosition 0 "struct ClusterConfig with 1 element" readHosts)
      (do required "members" (← bounded fun fuel => members readMember fuel true none)))
      _ hs :=
    takes_readRecord (fun rest =>
      bind_eq (members_bounded (isBlank_newLine 1) (isBlank_newLine 0) hmembers rest)) _
  have h := hrecord.bind (f := fun hosts => pure (ofHosts hosts)) (takes_pure _)
  rw [List.append_nil, ← renderPretty_listing] at h
  exact h

/-- A text that lists some hosts is read as the record of these hosts. -/
theorem ofText_listing (hs : List Host) : ofText (listing hs).renderPretty = .ok (ofHosts hs) := by
  rw [ofText, readText, (takes_readJson hs).run]
  rfl

/-- The text of a record is read as that record. -/
theorem ofText_renderFile (r : HostRecord) : ofText r.renderFile = .ok r :=
  (ofText_listing r.hosts.toList).trans (congrArg Except.ok (ofHosts_toList r))

end HostRecord

theorem FileStore.recordOf_renderFile (r : HostRecord) :
    recordOf r.renderFile.toUTF8 = .ok r := by
  have htext : String.fromUTF8? r.renderFile.toUTF8 = some r.renderFile := by
    rw [String.toUTF8_eq_toByteArray, String.fromUTF8?, dif_pos r.renderFile.isValidUTF8]
    rfl
  simp only [recordOf, htext, HostRecord.ofText_renderFile]

end ClusterKeeper
