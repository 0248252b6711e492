import ElmPrerender.FileTree
import ElmPrerender.Machine

/-!
A machine in memory, on which command lines are tried: a file tree, and stand-ins for programs that
print and end without looking at anything. It keeps what was printed and which programs were called.
-/

namespace ElmPrerender

/-- A program that prints always the same. -/
structure StandIn where
  name : String
  answer : ProgramEnd
  deriving DecidableEq, Repr

/-- A call that has been made. -/
structure CallRecord where
  name : String
  directory : Location
  arguments : List String
  deriving DecidableEq, Repr

structure Sandbox where
  tree : FileTree
  /-- The programs that are found by their name alone. -/
  commands : List StandIn
  /-- The files that are programs. -/
  programs : List (Location × StandIn)
  output : List UInt8
  errors : List String
  calls : List CallRecord
  deriving DecidableEq, Repr

namespace Sandbox

def ofTree (tree : FileTree) : Sandbox := ⟨tree, [], [], [], [], []⟩

/-- Adds a program that is found by its name. -/
def addCommand (s : Sandbox) (p : StandIn) : Sandbox :=
  { s with commands := s.commands ++ [p] }

/-- Adds a program as a file. -/
def addProgram (s : Sandbox) (l : Location) (p : StandIn) : Sandbox :=
  { s with tree := s.tree.plantFile l [], programs := s.programs ++ [(l, p)] }

/-- The program that a name means which has no slash in it. -/
def command (s : Sandbox) (name : String) : Except IoError StandIn :=
  if FileTree.nameLimit < name.utf8ByteSize then .error .nameTooLong
  else if name = "." || name = ".." then .error .permissionDenied
  else match s.commands.find? (·.name == name) with
    | some p => .ok p
    | none => .error .noSuchEntry

/-- The program that a path means. Directories and other files may not be run. -/
def program (s : Sandbox) (path : Path) : Except IoError StandIn := do
  match ← s.tree.find path with
  | (_, .directory) => throw .permissionDenied
  | (l, .file _) => match s.programs.lookup l with
    | some p => pure p
    | none => throw .permissionDenied

/-- The program of a call and the directory that it is called in. -/
def resolve (s : Sandbox) (call : ProgramCall) : Except IoError (StandIn × Location) := do
  let name := call.program.text
  if name.toList.contains (Char.ofNat 0) then throw .nulInCall
  let (directory, entry) ← s.tree.find call.directory
  if entry != .directory then throw .notDirectory
  let p ← if name.toList.contains '/' then s.program (call.directory.join call.program)
    else s.command name
  pure (p, directory)

def execute (call : ProgramCall) (s : Sandbox) : Except IoError ProgramEnd × Sandbox :=
  match s.resolve call with
  | .error e => (.error e, s)
  | .ok (p, directory) =>
    (.ok p.answer, { s with calls := s.calls ++ [⟨p.name, directory, call.arguments⟩] })

def write (path : Path) (text : String) (s : Sandbox) : Except IoError Unit × Sandbox :=
  match s.tree.write path (Text.Utf8.ofString text) with
  | .ok tree => (.ok (), { s with tree := tree })
  | .error e => (.error e, s)

def createDirectory (path : Path) (s : Sandbox) : Except IoError Unit × Sandbox :=
  match s.tree.createDirectory path with
  | .ok tree => (.ok (), { s with tree := tree })
  | .error e => (.error e, s)

/-- The clock stands still. -/
def machine : Machine (StateM Sandbox) where
  isFile path := fun s => (s.tree.isFile path, s)
  isDirectory path := fun s => (s.tree.isDirectory path, s)
  read path := fun s => (s.tree.read path, s)
  write path text := write path text
  createDirectory path := createDirectory path
  execute call := execute call
  milliseconds := pure 0
  print text := fun s => (.ok (), { s with output := s.output ++ Text.Utf8.ofString text })
  flush := pure (.ok ())
  complain line := fun s => ((), { s with errors := s.errors ++ [line] })

end Sandbox

end ElmPrerender
