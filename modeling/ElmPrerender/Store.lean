import ElmPrerender.IoError

/-!
Texts and directories kept in memory. A file is found under every spelling of its path and keeps
the spelling of its first write; files are listed in the order of their components.
-/

namespace ElmPrerender

structure Store where
  files : List (Path × String)
  /-- The components of each directory, in the order in which they were made. -/
  directories : List (List Path.Component)
  deriving DecidableEq, Repr

namespace Store

def empty : Store := ⟨[], []⟩

/-- Puts a text before the first later path, or in the place of the text that is there. -/
def insertFile (path : Path) (text : String) : List (Path × String) → List (Path × String)
  | [] => [(path, text)]
  | (other, old) :: rest =>
    if path.same other then (other, text) :: rest
    else if path.before other then (path, text) :: (other, old) :: rest
    else (other, old) :: insertFile path text rest

def write (s : Store) (path : Path) (text : String) : Store :=
  { s with files := insertFile path text s.files }

def file? (s : Store) (path : Path) : Option String :=
  (s.files.find? fun f => path.same f.1).map (·.2)

def read (s : Store) (path : Path) : Except IoError String :=
  match s.file? path with
  | some text => .ok text
  | none => .error (.missing path)

/-- The paths of all files, in order. -/
def paths (s : Store) : List Path := s.files.map (·.1)

def hasDirectory (s : Store) (path : Path) : Bool := s.directories.contains path.components

def insertDirectory (s : Store) (path : Path) : Store :=
  if s.hasDirectory path then s
  else { s with directories := s.directories ++ [path.components] }

/-- The path and its ancestors, up to the empty one. -/
def directoryChain (path : Path) : List Path :=
  path.ancestors.takeWhile fun p => !p.text.isEmpty

/-- Makes a directory with all that enclose it. -/
def createDirectories (s : Store) (path : Path) : Store :=
  (directoryChain path).foldl insertDirectory s

/-- The files of `t` whose text `s` does not have. -/
def changes (s t : Store) : List (Path × String) :=
  t.files.filter fun (path, text) => s.file? path != some text

end Store

end ElmPrerender
