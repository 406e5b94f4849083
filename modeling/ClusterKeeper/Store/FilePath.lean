/-!
# `Store/FilePath.lean` — paths as they are spelled

A path is the list of the parts between its slashes. An empty part and a single point lead
nowhere, two points lead to the directory above, any other part is a name. Where a path leads
depends on the directories that are there, so `a/../b` is kept as it is spelled, and so is a slash
at the end: it asks for a directory.
-/

set_option autoImplicit false

namespace ClusterKeeper

/-- A path from the outermost directory: the parts between its slashes. -/
structure FilePath where
  parts : List String
  deriving DecidableEq, Repr, Inhabited

namespace FilePath

def ofText (text : String) : FilePath := ⟨text.splitOn "/"⟩

/-- The path that starts in a directory. -/
def below (directory : List String) (p : FilePath) : FilePath := ⟨directory ++ p.parts⟩

/-- The bytes of a path, with a slash before each part. -/
def size (p : FilePath) : Nat := p.parts.foldl (fun n part => n + part.utf8ByteSize + 1) 0

def holds (p : FilePath) (c : Char) : Bool := p.parts.any (·.toList.contains c)

/-- Whether a part of a path leads anywhere. -/
def leads (part : String) : Bool := part ≠ "" && part ≠ "."

/-- Parts of a path up to the last one that leads somewhere. -/
def trimEnd (parts : List String) : List String :=
  (parts.reverse.dropWhile (!leads ·)).reverse

/-- The path as it is shown: without the parts at either end that lead nowhere. -/
def text (p : FilePath) : String := "/".intercalate (trimEnd (p.parts.dropWhile (!leads ·)))

/-- The parts that lead somewhere. -/
def names (p : FilePath) : List String := p.parts.filter leads

/-- The parts before the last name, as they are spelled. -/
def beforeName (p : FilePath) : List String := (trimEnd p.parts).dropLast

/-- The path without its last name. What is left keeps its spelling. -/
def parent (p : FilePath) : FilePath := ⟨trimEnd p.beforeName⟩

/-- The path and those above it, so many of them, the longest first. -/
def withAbove : Nat → FilePath → List FilePath
  | 0, p => [p]
  | count + 1, p => p :: withAbove count p.parent

/-- The path and every path above it, the longest first. -/
def ancestors (p : FilePath) : List FilePath := withAbove p.names.length p

/-- The name of the file; a path that ends by leading upwards has none. -/
def name? (p : FilePath) : Option String :=
  match p.names.getLast? with
  | some ".." => none
  | last => last

/-- A file's name without its extension, that is, without its last point and what follows. A name
with no point but a leading one has no extension. -/
def stem (name : String) : String :=
  let behind := name.toList.reverse.dropWhile (· ≠ '.')
  match behind with
  | _ :: c :: rest => String.ofList (c :: rest).reverse
  | _ => name

/-- The path with the extension of the file's name replaced. The letters of the old extension go
first. If they end the path and only two points are left of the name, the path leads upwards and
has no file's name any more: nothing is put in their place. -/
def withExtension (p : FilePath) (extension : String) : FilePath :=
  match p.name? with
  | none => p
  | some name =>
    if stem name = "." && p.parts.getLast? = some name then ⟨p.beforeName ++ [".."]⟩
    else ⟨p.beforeName ++ [stem name ++ "." ++ extension]⟩

end FilePath

end ClusterKeeper
