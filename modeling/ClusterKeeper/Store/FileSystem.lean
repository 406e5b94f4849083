import ClusterKeeper.Failure
import ClusterKeeper.Ordered.Map
import ClusterKeeper.Store.FilePath

/-!
# `Store/FileSystem.lean` — directories, files and their contents

A file system maps paths to directories and files. A file is a name for a content, which is kept
apart (`FileSystem.contents`): a file that is opened for writing and then renamed is still written
to, under its new name. The outermost directory always exists, has no entry of its own and is the
one above itself.

The keys of `FileSystem.entries` are names only. A path as it is spelled is turned into them by
`FileSystem.walk`, which goes along its parts: whatever stands on the way must be a directory, and
a name that is too long is refused as soon as it is met. What a path ends in is then known by its
`Place`. There are no links and no permissions.
-/

set_option autoImplicit false

namespace ClusterKeeper

/-- The name by which an open file's content is known. -/
abbrev ContentId := Nat

inductive FileEntry
  | directory
  | file (content : ContentId)
  deriving DecidableEq, Repr

structure FileSystem where
  entries : OrderedMap (List String) FileEntry
  contents : OrderedMap ContentId ByteArray
  /-- No content has had this id or a greater one. -/
  nextId : ContentId
  deriving Inhabited

namespace FileSystem

def empty : FileSystem := ⟨∅, ∅, 0⟩

/-! ## 1. Where a path leads -/

/-- The most bytes that a name may have. -/
abbrev longestName : Nat := 255

/-- The most bytes that a path may have. -/
abbrev longestPath : Nat := 4095

/-- What goes by a name in a directory. -/
def child (fs : FileSystem) (directory : List String) (name : String) :
    Except FileError (Option FileEntry) :=
  if longestName < name.utf8ByteSize then .error .nameTooLong
  else .ok (fs.entries.get? (directory ++ [name]))

/-- The directory that parts of a path lead to from the directory `here`. -/
def walk (fs : FileSystem) (here : List String) : List String → Except FileError (List String)
  | [] => .ok here
  | part :: rest =>
    if !FilePath.leads part then fs.walk here rest
    else if part = ".." then fs.walk here.dropLast rest
    else
      match fs.child here part with
      | .error e => .error e
      | .ok none => .error .notFound
      | .ok (some (.file _)) => .error .notADirectory
      | .ok (some .directory) => fs.walk (here ++ [part]) rest

inductive Place
  /-- A directory that is there: the path ends in points. -/
  | directory (path : List String)
  /-- A name in a directory, whether or not anything goes by it. If `closed`, a slash behind it asks
  for a directory. -/
  | entry (directory : List String) (name : String) (closed : Bool)
  deriving DecidableEq, Repr

/-- Goes along a path up to its last part. -/
def locate (fs : FileSystem) (p : FilePath) : Except FileError Place :=
  if p.holds '\x00' then .error .invalidName
  else if longestPath < p.size then .error .nameTooLong
  else
    let parts := p.parts.filter (· ≠ "")
    match parts.getLast? with
    | none => .ok (.directory [])
    | some last =>
      if last = "." || last = ".." then .directory <$> fs.walk [] parts
      else (.entry · last (p.parts.getLast? = some "")) <$> fs.walk [] parts.dropLast

def find (fs : FileSystem) (p : FilePath) : Except FileError FileEntry :=
  match fs.locate p with
  | .error e => .error e
  | .ok (.directory _) => .ok .directory
  | .ok (.entry directory name closed) =>
    match fs.child directory name with
    | .error e => .error e
    | .ok none => .error .notFound
    | .ok (some .directory) => .ok .directory
    | .ok (some (.file id)) => if closed then .error .notADirectory else .ok (.file id)

def doesExist (fs : FileSystem) (p : FilePath) : Except FileError Bool :=
  match fs.find p with
  | .ok _ => .ok true
  | .error .notFound => .ok false
  | .error e => .error e

def isDirectory (fs : FileSystem) (p : FilePath) : Bool :=
  match fs.find p with
  | .ok .directory => true
  | _ => false

/-! ## 2. Directories -/

def makeDirectory (fs : FileSystem) (p : FilePath) : FileSystem × Except FileError Unit :=
  match fs.locate p with
  | .error e => (fs, .error e)
  | .ok (.directory _) => (fs, .error .alreadyExists)
  | .ok (.entry directory name _) =>
    match fs.child directory name with
    | .error e => (fs, .error e)
    | .ok (some _) => (fs, .error .alreadyExists)
    | .ok none =>
      ({ fs with entries := fs.entries.put (directory ++ [name]) .directory }, .ok ())

/-- Makes one directory, unless it is there. -/
def ensureDirectory (fs : FileSystem) (p : FilePath) : FileSystem × Except FileError Unit :=
  match fs.makeDirectory p with
  | (fs, .error .alreadyExists) =>
    (fs, if fs.isDirectory p then .ok () else .error .alreadyExists)
  | made => made

/-- Makes the first of the directories. Where there is nowhere to make it, the others are made
first. -/
def ensureFirst (fs : FileSystem) : List FilePath → FileSystem × Except FileError Unit
  | [] => (fs, .ok ())
  | p :: above =>
    match fs.ensureDirectory p with
    | (_, .error .notFound) =>
      match fs.ensureFirst above with
      | (fs, .ok ()) => fs.ensureDirectory p
      | failed => failed
    | made => made

/-- Makes a directory and those above it. -/
def makeDirectories (fs : FileSystem) (p : FilePath) : FileSystem × Except FileError Unit :=
  fs.ensureFirst p.ancestors

/-! ## 3. Files -/

/-- Opens a file for writing from its beginning: a file that is there is emptied, and one that is
not is created. -/
def openEmpty (fs : FileSystem) (p : FilePath) : FileSystem × Except FileError ContentId :=
  match fs.locate p with
  | .error e => (fs, .error e)
  | .ok (.directory _) | .ok (.entry _ _ true) => (fs, .error .isADirectory)
  | .ok (.entry directory name false) =>
    match fs.child directory name with
    | .error e => (fs, .error e)
    | .ok (some .directory) => (fs, .error .isADirectory)
    | .ok (some (.file id)) => ({ fs with contents := fs.contents.put id .empty }, .ok id)
    | .ok none =>
      (⟨fs.entries.put (directory ++ [name]) (.file fs.nextId), fs.contents.put fs.nextId .empty,
        fs.nextId + 1⟩, .ok fs.nextId)

/-- The bytes of the file with a content. -/
def content (fs : FileSystem) (id : ContentId) : ByteArray := (fs.contents.get? id).getD .empty

/-- The first write to a file that has been opened: it begins where the file begins. What another
one who has opened the same file has written meanwhile is written over, as far as the bytes go. -/
def overwrite (fs : FileSystem) (id : ContentId) (bytes : ByteArray) : FileSystem :=
  let old := fs.content id
  { fs with contents := fs.contents.put id (bytes ++ old.extract bytes.size old.size) }

/-- Gives the file at `source` the path `target` instead, replacing a file that is there. -/
def rename (fs : FileSystem) (source target : FilePath) : FileSystem × Except FileError Unit :=
  match fs.locate source, fs.locate target with
  | .error e, _ => (fs, .error e)
  | _, .error e => (fs, .error e)
  | .ok (.entry sourceDirectory sourceName sourceClosed),
      .ok (.entry targetDirectory targetName targetClosed) =>
    match fs.child sourceDirectory sourceName, fs.child targetDirectory targetName with
    | .error e, _ => (fs, .error e)
    | .ok none, _ => (fs, .error .notFound)
    | _, .error e => (fs, .error e)
    | .ok (some .directory), _ => (fs, .error .isADirectory)
    | .ok (some (.file id)), .ok there =>
      if sourceClosed || targetClosed then (fs, .error .notADirectory)
      else if there = some .directory then (fs, .error .isADirectory)
      else
        let entries := fs.entries.erase (sourceDirectory ++ [sourceName])
        ({ fs with entries := entries.put (targetDirectory ++ [targetName]) (.file id) }, .ok ())
  | _, _ => (fs, .error .busy)

def read (fs : FileSystem) (p : FilePath) : Except FileError ByteArray :=
  match fs.find p with
  | .error e => .error e
  | .ok .directory => .error .isADirectory
  | .ok (.file id) => .ok (fs.content id)

/-- Removes a file, if there is one. -/
def removeFile (fs : FileSystem) (p : FilePath) : FileSystem :=
  match fs.find p, fs.locate p with
  | .ok (.file _), .ok (.entry directory name _) =>
    { fs with entries := fs.entries.erase (directory ++ [name]) }
  | _, _ => fs

/-- Puts a file with that content at a path, with the directories above it. -/
def writeFile (fs : FileSystem) (p : FilePath) (bytes : ByteArray) :
    FileSystem × Except FileError Unit :=
  match fs.makeDirectories p.parent with
  | (fs, .error e) => (fs, .error e)
  | (fs, .ok ()) =>
    match fs.openEmpty p with
    | (fs, .error e) => (fs, .error e)
    | (fs, .ok id) => (fs.overwrite id bytes, .ok ())

/-- Everything in a directory and those below it: its names from there on and, for a file, its
content. -/
def listing (fs : FileSystem) (directory : List String) : List (List String × Option ByteArray) :=
  fs.entries.toList.filterMap fun (path, entry) =>
    match directory.isPrefixOf? path with
    | none | some [] => none
    | some names =>
      some (names, match entry with
        | .directory => none
        | .file id => some (fs.content id))

end FileSystem

end ClusterKeeper
