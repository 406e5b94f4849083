import ClusterKeeper.Member
import ClusterKeeper.Json.Decode
import ClusterKeeper.Json.Printer

/-!
# `Member/Json.lean` — members and host records as JSON

Names are plain strings. A member is an object with `id` and `host`, a record one with `members`;
both may also be written as arrays, by position. Members of an object that have no meaning here
are passed over.
-/

set_option autoImplicit false

namespace ClusterKeeper

open Json

def Identifier.toJson {kind : NameKind} (i : Identifier kind) : Value := .string i.text

def Identifier.readJson {kind : NameKind} : Reader (Identifier kind) := do
  return ⟨← readString "a string"⟩

namespace Member

def toJson (m : Member) : Value := .object [("id", m.id.toJson), ("host", m.host.toJson)]

/-- What is known of a member while its object is read. -/
structure Draft where
  id : Option NodeId
  host : Option Host

def Draft.read (name : String) (d : Draft) : Reader Draft := do
  match name with
  | "id" => return { d with id := some (← readOnce name d.id Identifier.readJson) }
  | "host" => return { d with host := some (← readOnce name d.host Identifier.readJson) }
  | _ => do colon; skipValue; return d

def Draft.complete (d : Draft) : Except Error Member := do
  return ⟨← required "id" d.id, ← required "host" d.host⟩

def readJson : Reader Member :=
  let positions := "struct ClusterMember with 2 elements"
  readRecord "struct ClusterMember"
    (do return ⟨← readPosition 0 positions Identifier.readJson,
          ← readPosition 1 positions Identifier.readJson⟩)
    (do (← bounded fun fuel => members Draft.read fuel true ⟨none, none⟩).complete)

end Member

namespace HostRecord

def toJson (r : HostRecord) : Value :=
  .object [("members", .array (r.hosts.toList.map Identifier.toJson))]

def readHosts : Reader (List Host) := readArray "a sequence" Identifier.readJson

def readMember (name : String) (known : Option (List Host)) : Reader (Option (List Host)) := do
  match name with
  | "members" => return some (← readOnce name known readHosts)
  | _ => do colon; skipValue; return known

def readJson : Reader HostRecord := do
  let hosts ← readRecord "struct ClusterConfig"
    (readPosition 0 "struct ClusterConfig with 1 element" readHosts)
    (do required "members" (← bounded fun fuel => members readMember fuel true none))
  return ofHosts hosts

def renderFile (r : HostRecord) : String := r.toJson.renderPretty

def ofText (text : String) : Except Error HostRecord := readText readJson text

end HostRecord

end ClusterKeeper
