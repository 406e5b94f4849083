import ClusterKeeper.Failure
import ClusterKeeper.History
import ClusterKeeper.Member

/-!
# `Store/Memory.lean` — a record store in memory

The store holds the record or nothing, and records every use. Writes can be made to fail; a failed
write changes nothing.
-/

set_option autoImplicit false

namespace ClusterKeeper

inductive StoreCall
  | get
  | add (record : HostRecord)
  | update (record : HostRecord)
  deriving DecidableEq

structure MemoryStore where
  record : Option HostRecord
  writesFail : Bool
  calls : History StoreCall
  deriving DecidableEq, Inhabited

namespace MemoryStore

def holding (record : Option HostRecord) : MemoryStore := ⟨record, false, ∅⟩

/-- The reason given for a failed write. -/
def writeFailure : String := "fake write failure"

def noting (s : MemoryStore) (call : StoreCall) : MemoryStore :=
  { s with calls := s.calls.add call }

/-- The record; none before it is first added. -/
def get (s : MemoryStore) : MemoryStore × Except StoreError (Option HostRecord) :=
  (s.noting .get, .ok s.record)

def add (s : MemoryStore) (r : HostRecord) : MemoryStore × Except StoreError Unit :=
  let s := s.noting (.add r)
  if s.writesFail then (s, .error (.unavailable writeFailure))
  else ({ s with record := some r }, .ok ())

def update (s : MemoryStore) (r : HostRecord) : MemoryStore × Except StoreError Unit :=
  let s := s.noting (.update r)
  if s.writesFail then (s, .error (.unavailable writeFailure))
  else
    match s.record with
    | none => (s, .error .notFound)
    | some _ => ({ s with record := some r }, .ok ())

def writeCount (s : MemoryStore) : Nat := s.calls.toList.countP (· ≠ .get)

end MemoryStore

end ClusterKeeper
