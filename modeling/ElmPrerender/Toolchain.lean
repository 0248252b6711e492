import ElmPrerender.Machine
import ElmPrerender.Run.Host
import ElmPrerender.Text.White

/-!
The two programs that a run calls, both in the scratch directory: the compiler, whose failure is an
outcome of its own, and the one that runs the generated script, whose output is a batch of pages.
-/

namespace ElmPrerender

structure Toolchain where
  compiler : Path
  renderer : Path
  deriving DecidableEq, Repr

namespace Toolchain

/-- Programs are called in the scratch directory, so a relative path with several components is
taken from the directory of the invocation; a single name is searched for. -/
def locate (invocation program : Path) : Path :=
  if !program.isAbsolute && 1 < program.components.length then invocation.join program
  else program

def compilation (t : Toolchain) (w : Workspace) : ProgramCall :=
  ⟨t.compiler, [Workspace.driverFile, "--yes", "--output", Workspace.artifactFile], w.root⟩

def rendering (t : Toolchain) (w : Workspace) : ProgramCall :=
  ⟨t.renderer, [Workspace.runnerFile], w.root⟩

variable {m : Type → Type} [Monad m]

/-- A program that cannot be started ends the run; one that is not there is worth a hint. -/
def start (machine : Machine m) (log : Event → m Unit) (call : ProgramCall) :
    m (Except ToolchainError ProgramEnd) := do
  match ← machine.execute call with
  | .ok ended => pure (.ok ended)
  | .error cause => do
    if cause = .noSuchEntry then log (.executableMissing call.program.text)
    pure (.error (.spawn call.program.text cause))

/-- What a program printed, without white space at its end. -/
def shown (bytes : List UInt8) : String :=
  String.ofList (Text.trimEnd (Text.Utf8.decodeReplacing bytes).toList)

/-- A compiler that a signal ended counts as one that failed with the code -1. -/
def build (t : Toolchain) (machine : Machine m) (log : Event → m Unit) (w : Workspace) :
    m (Except ToolchainError BuildOutcome) := do
  let before ← machine.milliseconds
  match ← start machine log (t.compilation w) with
  | .error e => pure (.error e)
  | .ok ended => do
    let elapsed := (← machine.milliseconds) - before
    log (.compilerOutput (shown ended.output))
    if ended.code = some 0 then do
      log (.compiled elapsed)
      pure (.ok (.built w.artifact))
    else do
      let code := ended.code.getD (-1)
      log (.compilerFailed elapsed code (shown ended.errors))
      pure (.ok (.failed code))

/-- The pages that the script prints. -/
def render (t : Toolchain) (machine : Machine m) (log : Event → m Unit) (w : Workspace) :
    m (Except ToolchainError Batch) := do
  match ← start machine log (t.rendering w) with
  | .error e => pure (.error e)
  | .ok ended =>
    if ended.code = some 0 then pure ((Batch.decode ended.output).mapError .decode)
    else
      pure (.error (.exited t.renderer.text ended.code (Text.Utf8.decodeReplacing ended.errors)))

/-- The surroundings of a run on a machine. -/
def host (t : Toolchain) (machine : Machine m) (log : Event → m Unit) : RunHost m where
  read := machine.readText
  write := machine.write
  createDirectories := machine.createDirectories
  build := t.build machine log
  render := t.render machine log
  print := machine.print
  flush := machine.flush
  log := log

end Toolchain

end ElmPrerender
