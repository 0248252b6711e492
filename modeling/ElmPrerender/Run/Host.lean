import ElmPrerender.Run.Event
import ElmPrerender.Workspace

/-!
What a run needs from outside: files, a compiler, a way to run the compiled program, standard
output and a log. A run is written over these actions in any monad.
-/

namespace ElmPrerender

/-- How the compiler ended. A failure need not stop the run, since an older program may be left. -/
inductive BuildOutcome where
  | built (artifact : Path)
  | failed (code : Int)
  deriving DecidableEq, Repr

structure RunHost (m : Type → Type) where
  read : Path → m (Except IoError String)
  write : Path → String → m (Except IoError Unit)
  /-- Makes a directory and all that enclose it; those that are there already do no harm. -/
  createDirectories : Path → m (Except IoError Unit)
  /-- Compiles the program of a scratch directory. -/
  build : Workspace → m (Except ToolchainError BuildOutcome)
  /-- Runs the compiled program of a scratch directory. -/
  render : Workspace → m (Except ToolchainError Batch)
  print : String → m (Except IoError Unit)
  flush : m (Except IoError Unit)
  log : Event → m Unit

end ElmPrerender
