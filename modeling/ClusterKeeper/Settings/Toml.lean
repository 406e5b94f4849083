import ClusterKeeper.Settings
import ClusterKeeper.Toml.Document

/-!
# `Settings/Toml.lean` — settings from a configuration document

The entries of a document change the standard settings one after another; the first entry that is
no setting, or whose value will not do, is the one that is reported. Only settings read to the end
are asked whether they are usable.
-/

set_option autoImplicit false

namespace ClusterKeeper.Settings

open Json (wrongType wrongValue unknownField)

inductive ReadError
  | malformed
  /-- An entry of the document will not do. -/
  | entry (message : String)
  /-- A drain would never pause. -/
  | zeroInterval
  /-- The arithmetic of a duration left its range; there is no answer. -/
  | overflow
  deriving DecidableEq, Repr

def refuse {α : Type} (v : Toml.Value) (expected : String) : Except ReadError α :=
  .error (.entry (wrongType v.describe expected))

def durationOf (v : Toml.Value) : Except ReadError Duration :=
  match v with
  | .string text =>
    match Duration.read text with
    | .ok d => .ok d
    | .error .malformed => .error (.entry (wrongValue v.describe "a duration"))
    | .error .overflow => .error .overflow
  | v => refuse v "a duration"

def countOf (v : Toml.Value) : Except ReadError Nat :=
  match v with
  | .integer (.ofNat n) => .ok n
  | .integer _ => .error (.entry (wrongValue v.describe "usize"))
  | v => refuse v "usize"

def textOf (v : Toml.Value) : Except ReadError String :=
  match v with
  | .string s => .ok s
  | v => refuse v "a string"

def setEntry (s : Settings) (name : String) (v : Toml.Value) : Except ReadError Settings :=
  match name with
  | "max_drain_wait" => do return { s with maxDrainWait := ← durationOf v }
  | "poll_interval" => do return { s with pollInterval := ← durationOf v }
  | "drain_threshold" => do return { s with drainThreshold := ← countOf v }
  | "status_attribute" => do return { s with statusAttribute := ← textOf v }
  | "node_tasks_map" => do return { s with nodeTasksMap := ← textOf v }
  | _ => .error (.entry (unknownField name fieldNames))

/-- Changes the settings entry by entry, in the order of the document. -/
def applyEntries (s : Settings) (entries : Toml.Table) : Except ReadError Settings :=
  entries.foldlM (fun s (name, v) => s.setEntry name v) s

/-- The settings that the entries of a document make of the standard ones. -/
def ofEntries (entries : Toml.Table) : Except ReadError Settings := do
  let s ← standard.applyEntries entries
  if s.isValid then return s else throw .zeroInterval

def read (text : String) : Except ReadError Settings :=
  match Toml.read text with
  | none => .error .malformed
  | some entries => ofEntries entries

end ClusterKeeper.Settings
