import ElmPrerender.IoError

/-!
A tree of files and directories in memory that follows the rules of a POSIX file system: how a path
leads through directories, what may be opened, written and made, and which failure is reported
first. There are no links and no permissions.
-/

namespace ElmPrerender

/-- The names that lead from the root to an entry. -/
abbrev Location := List String

inductive Entry where
  | directory
  | file (bytes : List UInt8)
  deriving DecidableEq, Repr

structure FileTree where
  /-- All entries but the root. -/
  entries : List (Location × Entry)
  deriving DecidableEq, Repr

namespace FileTree

def empty : FileTree := ⟨[]⟩

/-- The root is a directory. -/
def entry? (t : FileTree) (l : Location) : Option Entry :=
  if l.isEmpty then some .directory else t.entries.lookup l

/-- Puts an entry at a location, in place of one that is there. -/
def insert (t : FileTree) (l : Location) (e : Entry) : FileTree :=
  ⟨t.entries.filter (·.1 != l) ++ [(l, e)]⟩

/-- Puts a directory at a location and at all that enclose it, where nothing is there yet. -/
def plantDirectory (t : FileTree) (l : Location) : FileTree :=
  ((List.range (l.length + 1)).map l.take).foldl
    (fun t outer => if (t.entry? outer).isSome then t else t.insert outer .directory) t

/-- Puts a file at a location, with the directories that enclose it. -/
def plantFile (t : FileTree) (l : Location) (bytes : List UInt8) : FileTree :=
  (t.plantDirectory l.dropLast).insert l (.file bytes)

/-- The longest name of an entry, in bytes. -/
def nameLimit : Nat := 255

/-- The longest path, in bytes. -/
def pathLimit : Nat := 4095

/-- From a directory to one that it holds, to itself, or to the one that holds it. -/
def step (t : FileTree) (here : Location) (name : String) : Except IoError Location :=
  if name = "." then .ok here
  else if name = ".." then .ok here.dropLast
  else if nameLimit < name.utf8ByteSize then .error .nameTooLong
  else match t.entry? (here ++ [name]) with
    | some .directory => .ok (here ++ [name])
    | some (.file _) => .error .notDirectory
    | none => .error .noSuchEntry

/-- Where a path ends. -/
inductive PathEnd where
  /-- A path that ends in `.` or `..`, or that is the root. -/
  | directory (l : Location)
  /-- A name, to which there need not be an entry, and whether a slash stands behind it. -/
  | name (l : Location) (slash : Bool)
  deriving DecidableEq, Repr

/-- The names that a path is made of. -/
def names (p : Path) : List String :=
  ((List.splitOn '/' p.text.toList).filter (!·.isEmpty)).map String.ofList

/-- Follows an absolute path up to its last name. -/
def follow (t : FileTree) (p : Path) : Except IoError PathEnd :=
  if p.text.toList.contains (Char.ofNat 0) then .error .nulInPath
  else if pathLimit < p.text.utf8ByteSize then .error .nameTooLong
  else match (names p).getLast? with
    | none => .ok (.directory [])
    | some last => do
      let here ← (names p).dropLast.foldlM t.step []
      if last = "." then pure (.directory here)
      else if last = ".." then pure (.directory here.dropLast)
      else if nameLimit < last.utf8ByteSize then throw .nameTooLong
      else pure (.name (here ++ [last]) (p.text.toList.getLast? == some '/'))

/-- The entry that a path leads to. -/
def find (t : FileTree) (p : Path) : Except IoError (Location × Entry) := do
  match ← t.follow p with
  | .directory l => pure (l, .directory)
  | .name l slash =>
    match t.entry? l with
    | none => throw .noSuchEntry
    | some (.file bytes) => if slash then throw .notDirectory else pure (l, .file bytes)
    | some .directory => pure (l, .directory)

def isFile (t : FileTree) (p : Path) : Bool :=
  match t.find p with
  | .ok (_, .file _) => true
  | _ => false

def isDirectory (t : FileTree) (p : Path) : Bool :=
  match t.find p with
  | .ok (_, .directory) => true
  | _ => false

def read (t : FileTree) (p : Path) : Except IoError (List UInt8) := do
  match ← t.find p with
  | (_, .file bytes) => pure bytes
  | (_, .directory) => throw .isDirectory

/-- Writes a file, which is made if it is not there. A path with a slash at its end asks for a
directory. -/
def write (t : FileTree) (p : Path) (bytes : List UInt8) : Except IoError FileTree := do
  match ← t.follow p with
  | .directory _ | .name _ true => throw .isDirectory
  | .name l false =>
    match t.entry? l with
    | some .directory => throw .isDirectory
    | _ => pure (t.insert l (.file bytes))

/-- Makes a directory in one that is there. -/
def createDirectory (t : FileTree) (p : Path) : Except IoError FileTree := do
  match ← t.follow p with
  | .directory _ => throw .alreadyExists
  | .name l _ =>
    match t.entry? l with
    | some _ => throw .alreadyExists
    | none => pure (t.insert l .directory)

/-- The entries below a location, by the names that lead on from it. -/
def below (t : FileTree) (l : Location) : List (Location × Entry) :=
  t.entries.filterMap fun (other, e) =>
    if l.isPrefixOf other && other != l then some (other.drop l.length, e) else none

end FileTree

end ElmPrerender
