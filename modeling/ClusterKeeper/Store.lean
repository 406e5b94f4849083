import ClusterKeeper.Store.File
import ClusterKeeper.Store.Memory

/-!
# `Store.lean` — the store that a cluster shares

A record store is one in memory or one in a file of a file system; both answer the same three
questions.
-/

set_option autoImplicit false

namespace ClusterKeeper

inductive RecordStore
  | memory (store : MemoryStore)
  | file (store : FileStore) (files : FileSystem)
  deriving Inhabited

namespace RecordStore

def get : RecordStore → RecordStore × Except StoreError (Option HostRecord)
  | memory s =>
    let (s, reply) := s.get
    (memory s, reply)
  | file s files =>
    let (files, reply) := files.run s.get
    (file s files, reply)

def add (record : HostRecord) : RecordStore → RecordStore × Except StoreError Unit
  | memory s =>
    let (s, reply) := s.add record
    (memory s, reply)
  | file s files =>
    let (files, reply) := files.run (s.add record)
    (file s files, reply)

def update (record : HostRecord) : RecordStore → RecordStore × Except StoreError Unit
  | memory s =>
    let (s, reply) := s.update record
    (memory s, reply)
  | file s files =>
    let (files, reply) := files.run (s.update record)
    (file s files, reply)

/-- What is stored, read without leaving a trace. -/
def content : RecordStore → Except StoreError (Option HostRecord)
  | memory s => .ok s.record
  | file s files => (files.run s.get).2

def setWritesFail (fail : Bool) : RecordStore → RecordStore
  | memory s => memory { s with writesFail := fail }
  | s => s

def writeFile (path : FilePath) (bytes : ByteArray) : RecordStore → RecordStore
  | file s files => file s (files.writeFile path bytes).1
  | s => s

end RecordStore

end ClusterKeeper
