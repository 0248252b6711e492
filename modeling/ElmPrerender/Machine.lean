import ElmPrerender.IoError
import ElmPrerender.Text.Utf8

/-!
What the tool needs of the machine that it is called on: files, programs, a clock and the two
standard streams. All that decides anything is written over these actions in any monad.
-/

namespace ElmPrerender

/-- A program to be run in a directory. -/
structure ProgramCall where
  program : Path
  arguments : List String
  directory : Path
  deriving DecidableEq, Repr

/-- How a program ended. -/
structure ProgramEnd where
  /-- The exit code; a program that a signal ended has none. -/
  code : Option Int
  output : List UInt8
  errors : List UInt8
  deriving DecidableEq, Repr

structure Machine (m : Type → Type) where
  isFile : Path → m Bool
  isDirectory : Path → m Bool
  read : Path → m (Except IoError (List UInt8))
  write : Path → String → m (Except IoError Unit)
  /-- Makes a directory in one that is there. -/
  createDirectory : Path → m (Except IoError Unit)
  execute : ProgramCall → m (Except IoError ProgramEnd)
  milliseconds : m Nat
  /-- Writes to standard output. -/
  print : String → m (Except IoError Unit)
  flush : m (Except IoError Unit)
  /-- Writes a line to standard error. -/
  complain : String → m Unit

namespace Machine

variable {m : Type → Type} [Monad m]

/-- The text of a file, which has to be UTF-8. -/
def readText (machine : Machine m) (path : Path) : m (Except IoError String) := do
  match ← machine.read path with
  | .error e => pure (.error e)
  | .ok bytes => match Text.Utf8.decode? bytes with
    | some s => pure (.ok (String.ofList s))
    | none => pure (.error .notUtf8)

/-- The outcome of making a directory, where one that is there already is as good as a new one. -/
def settle (machine : Machine m) (path : Path) (outcome : Except IoError Unit) :
    m (Except IoError Unit) := do
  match outcome with
  | .ok () => pure (.ok ())
  | .error e => if ← machine.isDirectory path then pure (.ok ()) else pure (.error e)

/-- Makes the first of some paths, where each is the parent of the one before it. What has been made
stays if something fails later. -/
def createAlong (machine : Machine m) : List Path → m (Except IoError Unit)
  | [] => pure (.ok ())
  | path :: parents =>
    if path.text.isEmpty then pure (.ok ())
    else do
      match ← machine.createDirectory path with
      | .error .noSuchEntry =>
        match ← createAlong machine parents with
        | .error e => pure (.error e)
        | .ok () => machine.settle path (← machine.createDirectory path)
      | outcome => machine.settle path outcome

/-- Makes a directory with all that enclose it. -/
def createDirectories (machine : Machine m) (path : Path) : m (Except IoError Unit) :=
  machine.createAlong path.ancestors

end Machine

end ElmPrerender
