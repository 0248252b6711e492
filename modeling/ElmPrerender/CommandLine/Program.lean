import ElmPrerender.CommandLine.Help
import ElmPrerender.Log.Filter
import ElmPrerender.Run.Basic
import ElmPrerender.Settings.Load
import ElmPrerender.Toolchain

/-!
The tool as it is called: arguments, settings, log, and then an example or a run. Standard output is
kept for pages; everything that is told goes to standard error.
-/

namespace ElmPrerender.CommandLine

/-- A call of the tool. -/
structure Invocation where
  directory : Path
  arguments : List String
  environment : List (String × String)
  deriving DecidableEq, Repr

inductive Exit where
  | success
  | failure
  /-- The arguments were refused. -/
  | misuse
  deriving DecidableEq, Repr

def Exit.code : Exit → Nat
  | .success => 0
  | .failure => 1
  | .misuse => 2

/-- The variable whose directives say what is told, whatever level is set. -/
def filterVariable : String := "RUST_LOG"

variable {m : Type → Type} [Monad m]

/-- What is known of the file system when settings are looked for. -/
def settingsFiles (machine : Machine m) : Settings.Files m := ⟨machine.isFile, machine.read⟩

/-- A log on standard error. -/
def logTo (machine : Machine m) (filter : Log.Filter) (form : Log.Form) (e : Event) : m Unit :=
  if filter.admits e.record then machine.complain (e.record.text form) else pure ()

/-- Writes an example, or runs, as the arguments ask. -/
def perform (machine : Machine m) (log : Event → m Unit) (call : Invocation) (a : Arguments)
    (s : Settings) : m (Except RunError Unit) := do
  let toolchain : Toolchain :=
    ⟨Toolchain.locate call.directory s.elmMake, Toolchain.locate call.directory s.node⟩
  let host := toolchain.host machine log
  if a.initConfig then
    pure ((← Run.writeExample host call.directory).map fun _ => ())
  else match RunSource.ofArguments a with
    | .error e => pure (.error e)
    | .ok source => do
      let options : RunOptions :=
        ⟨call.directory, .resolve call.directory s.workspace, s.format⟩
      let (outcome, _) ← Run.run host options source .init
      pure (outcome.map fun _ => ())

/-- Tells of a failure, with the usage if another call would mend it. -/
def fail (machine : Machine m) (log : Event → m Unit) (e : RunError) : m Exit := do
  log (.applicationError e)
  if e.isUserError then machine.complain usage
  pure .failure

/-- Before there are settings every record is told, in words. -/
def plainLog (machine : Machine m) (e : Event) : m Unit := machine.complain e.record.words

def answer (machine : Machine m) (text : String) : m Exit := do
  match ← machine.print (text ++ "\n") with
  | .ok () => pure .success
  | .error _ => pure .failure

/-- With settings at hand: sets up the log and goes to work. -/
def work (machine : Machine m) (call : Invocation) (a : Arguments) (s : Settings) : m Exit := do
  let directives := (call.environment.lookup filterVariable).getD ""
  (Log.Filter.complaints directives).forM machine.complain
  let log := logTo machine (.ofText directives s.threshold) (if s.json then .json else .words)
  match ← perform machine log call a s with
  | .ok () => pure .success
  | .error e => fail machine log e

def run (machine : Machine m) (call : Invocation) : m Exit := do
  match Arguments.parse call.arguments call.environment with
  | .error .displayHelp => answer machine (help call.environment)
  | .error .displayVersion => answer machine version
  | .error e => do
    machine.complain ("error: " ++ e.message)
    machine.complain usage
    pure .misuse
  | .ok a =>
    match ← Settings.load (settingsFiles machine) call.directory a call.environment with
    | .error e => fail machine (plainLog machine) (.settings e)
    | .ok s => work machine call a s

end ElmPrerender.CommandLine
