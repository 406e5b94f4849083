import ClusterKeeper.Member.Json
import ClusterKeeper.Program
import ClusterKeeper.Store.FileSystem

/-!
# `Store/File.lean` — a record store in a file

The record is kept as JSON text. A write makes the directories above the file, writes the text to
a temporary file beside it and then renames that over the file, so one who reads while a single
writer is at work sees the old text or the new one and nothing in between.

Reading and writing are programs of single steps (`FileStep`): what happens between two steps of
one user is for others to decide.
-/

set_option autoImplicit false

namespace ClusterKeeper

inductive FileStep
  | doesExist (path : FilePath)
  | makeDirectories (path : FilePath)
  | openEmpty (path : FilePath)
  | write (content : ContentId) (bytes : ByteArray)
  | rename (source target : FilePath)
  | read (path : FilePath)

@[reducible] def FileStep.Reply : FileStep → Type
  | doesExist _ => Except FileError Bool
  | makeDirectories _ => Except FileError Unit
  | openEmpty _ => Except FileError ContentId
  | write _ _ => Except FileError Unit
  | rename _ _ => Except FileError Unit
  | read _ => Except FileError ByteArray

abbrev FileProgram := Program FileStep.Reply

def FileStep.ask (s : FileStep) : FileProgram s.Reply := Program.request s

def FileSystem.step (fs : FileSystem) : (s : FileStep) → FileSystem × s.Reply
  | .doesExist p => (fs, fs.doesExist p)
  | .makeDirectories path => fs.makeDirectories path
  | .openEmpty p => fs.openEmpty p
  | .write id bytes => (fs.overwrite id bytes, .ok ())
  | .rename source target => fs.rename source target
  | .read p => (fs, fs.read p)

def FileSystem.run {α : Type} (fs : FileSystem) (p : FileProgram α) : FileSystem × α :=
  let (a, fs) := (p.interpret (m := StateM FileSystem)
    fun s => do
      let (fs, reply) := (← get).step s
      set fs
      return reply).run fs
  (fs, a)

structure FileStore where
  path : FilePath
  deriving DecidableEq, Repr, Inhabited

namespace FileStore

/-- The file that a write goes to first. -/
def temporary (s : FileStore) : FilePath := s.path.withExtension "json.tmp"

/-- A step whose failure ends the activity. -/
def attempt {α : Type} (p : FileProgram (Except FileError α)) : ExceptT StoreError FileProgram α :=
  ExceptT.mk do
    match ← p with
    | .ok a => return .ok a
    | .error e => return .error (.file e)

def recordOf (bytes : ByteArray) : Except StoreError HostRecord :=
  match String.fromUTF8? bytes with
  | none => .error (.file .notText)
  | some text =>
    match HostRecord.ofText text with
    | .ok r => .ok r
    | .error e => .error (.unreadable e)

/-- The record; none where there is no file. -/
def get (s : FileStore) : FileProgram (Except StoreError (Option HostRecord)) := do
  match ← (FileStep.read s.path).ask with
  | .ok bytes => return some <$> recordOf bytes
  | .error .notFound => return .ok none
  | .error e => return .error (.file e)

/-- Writes a record over whatever is there. -/
def write (s : FileStore) (r : HostRecord) : ExceptT StoreError FileProgram Unit := do
  attempt (FileStep.makeDirectories s.path.parent).ask
  let id ← attempt (FileStep.openEmpty s.temporary).ask
  attempt (FileStep.write id r.renderFile.toUTF8).ask
  attempt (FileStep.rename s.temporary s.path).ask

def add (s : FileStore) (r : HostRecord) : FileProgram (Except StoreError Unit) := (s.write r).run

def update (s : FileStore) (r : HostRecord) : FileProgram (Except StoreError Unit) :=
  ExceptT.run do
    if ← attempt (FileStep.doesExist s.path).ask then s.write r
    else throw StoreError.notFound

end FileStore

end ClusterKeeper
