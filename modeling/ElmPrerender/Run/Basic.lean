import ElmPrerender.Run.Host
import ElmPrerender.Run.Source
import ElmPrerender.Scaffold

/-!
One run: load the configuration, patch the manifest, write the generated files, compile, run, and
hand out the pages. The stage says how far a run has come; the first failure aborts it. A source
that declares no usable module is left out, and a compiler that fails does not stop the run.
-/

namespace ElmPrerender

/-- What stays the same from run to run. -/
structure RunOptions where
  /-- Relative paths are seen from here. -/
  invocation : Path
  workspace : Workspace
  format : Elm.Format
  deriving DecidableEq, Repr

/-- What a run did. -/
structure RunReport where
  /-- Sources that were left out. -/
  dropped : List Path
  build : BuildOutcome
  filesWritten : List Path
  printed : Nat
  deriving DecidableEq, Repr

namespace Run

variable {m : Type → Type} [Monad m]

/-- A part of a run: it knows the stage, and may fail. -/
abbrev Step (m : Type → Type) := ExceptT RunError (StateT Stage m)

def perform {α : Type} (action : m α) : Step m α := liftM (liftM action : StateT Stage m α)

/-- An action of the host whose failure ends the run. -/
def attempt {ε α : Type} (onError : ε → RunError) (action : m (Except ε α)) : Step m α := do
  match ← perform action with
  | .ok a => pure a
  | .error e => throw (onError e)

/-- A decision whose failure ends the run. -/
def decided {ε α : Type} (onError : ε → RunError) (decision : Except ε α) : Step m α :=
  match decision with
  | .ok a => pure a
  | .error e => throw (onError e)

def advance (host : RunHost m) (next : Stage) : Step m Unit := do
  perform (host.log (.transition (← get) next))
  set next

/-- The configuration so far, and the sources left out. -/
structure Loaded where
  config : RenderConfiguration
  dropped : List Path
  deriving DecidableEq, Repr

/-- The module that a source declares. -/
def moduleOf (host : RunHost m) (options : RunOptions) (source : Path) :
    m (Except SourceProblem ModuleName) := do
  match ← host.read (options.invocation.join source) with
  | .error cause => pure (.error (.unreadable cause))
  | .ok text => pure ((ModuleName.ofSource text).mapError .header)

/-- Adds a module with its pages. -/
def addModule (config : RenderConfiguration) (s : SourceTargets) (name : ModuleName) :
    Except DomainError RenderConfiguration := do
  config.push (← ModuleSpec.make s.source name s.targets)

/-- Adds a source, or leaves it out. -/
def addSource (host : RunHost m) (options : RunOptions) (loaded : Loaded) (s : SourceTargets) :
    Step m Loaded := do
  match ← perform (moduleOf host options s.source) with
  | .ok name => do
    let config ← decided .domain (addModule loaded.config s name)
    pure { loaded with config := config }
  | .error problem => do
    perform (host.log (.skipped s.source problem))
    pure { loaded with dropped := loaded.dropped ++ [s.source] }

/-- The sources with their pages, before any of them is opened. -/
def pendingSources (host : RunHost m) (options : RunOptions) :
    RunSource → Step m (List SourceTargets)
  | .file source output => do
    perform (host.log (.loadingFile source output))
    decided .config (SourceTargets.ofFile source output)
  | .configFile path => do
    perform (host.log (.usingConfig path))
    let text ← attempt (.configUnreadable path) (host.read (options.invocation.join path))
    decided .config ((ConfigFile.parse text).bind ConfigFile.sources)

def loadConfiguration (host : RunHost m) (options : RunOptions) (source : RunSource) :
    Step m Loaded := do
  let pending ← pendingSources host options source
  pending.foldlM (addSource host options) ⟨.empty, []⟩

def manifestPath (options : RunOptions) : Path :=
  options.invocation.join ⟨Workspace.manifestFile⟩

/-- The patched manifest and the name of the project. -/
def patchedManifest (options : RunOptions) (text : String) :
    Except ManifestError (Manifest × ProjectName) := do
  let manifest ← Manifest.parse text
  let name ← manifest.projectName
  let patched ← manifest.patch options.invocation
  pure (patched, name)

def loadManifest (host : RunHost m) (options : RunOptions) : Step m (Manifest × ProjectName) := do
  let path := manifestPath options
  let missing (problem : ManifestProblem) : RunError := .missingManifest path problem
  let text ← attempt (fun e => missing (.unreadable e)) (host.read path)
  decided (fun e => missing (.invalid e)) (patchedManifest options text)

def writeFile (host : RunHost m) (file : Path × String) : Step m Unit :=
  attempt .io (host.write file.1 file.2)

def writeScaffold (host : RunHost m) (options : RunOptions) (scaffold : Scaffold) :
    Step m Unit := do
  let workspace := options.workspace
  attempt .io (host.createDirectories workspace.native)
  let manifest ← decided .unexpected scaffold.manifest.encode
  (scaffold.filesWith workspace manifest).forM (writeFile host)
  perform (host.log
    (.wroteScaffold workspace.root scaffold.config.size scaffold.config.targetCount))

def build (host : RunHost m) (options : RunOptions) : Step m BuildOutcome := do
  let outcome ← attempt .toolchain (host.build options.workspace)
  match outcome with
  | .failed code => perform (host.log (.buildFailed code))
  | .built _ => pure ()
  pure outcome

/-- What has been handed out so far. -/
structure Delivered where
  filesWritten : List Path
  printed : Nat
  deriving DecidableEq, Repr

/-- The directory that a file needs, if it is not the current one. -/
def enclosing? (path : Path) : Option Path :=
  path.parent?.filter fun p => !p.text.isEmpty

/-- Hands out one page: an empty line follows it on standard output, a line feed ends a file. -/
def deliver (host : RunHost m) (options : RunOptions) (done : Delivered) (page : RenderedPage) :
    Step m Delivered := do
  match Destination.ofKey page.key with
  | .standardOutput => do
    attempt .io (host.print (page.html ++ "\n\n"))
    pure { done with printed := done.printed + 1 }
  | .file path => do
    let path := options.invocation.join path
    match enclosing? path with
    | some directory => attempt .io (host.createDirectories directory)
    | none => pure ()
    writeFile host (path, page.html ++ "\n")
    perform (host.log (.saved path))
    pure { done with filesWritten := done.filesWritten ++ [path] }

def distribute (host : RunHost m) (options : RunOptions) (batch : Batch) : Step m Delivered := do
  let done ← batch.foldlM (deliver host options) ⟨[], 0⟩
  attempt .io host.flush
  pure done

def execute (host : RunHost m) (options : RunOptions) (source : RunSource) :
    Step m RunReport := do
  let loaded ← loadConfiguration host options source
  advance host .configLoaded
  let (manifest, name) ← loadManifest host options
  advance host .manifestPatched
  writeScaffold host options ⟨loaded.config, options.format, manifest, name⟩
  advance host .scaffoldWritten
  advance host .compiling
  let outcome ← build host options
  advance host .running
  let batch ← attempt .toolchain (host.render options.workspace)
  advance host .distributing
  let done ← distribute host options batch
  advance host .done
  let report : RunReport := ⟨loaded.dropped, outcome, done.filesWritten, done.printed⟩
  perform (host.log
    (.finished report.filesWritten.length report.printed report.dropped.length))
  pure report

/-- A run that begins at a stage, with the stage that it leaves. -/
def run (host : RunHost m) (options : RunOptions) (source : RunSource) (start : Stage) :
    m (Except RunError RunReport × Stage) := do
  let (result, stage) ← (execute host options source).run start
  match result with
  | .ok report => pure (.ok report, stage)
  | .error e => do
    host.log (.aborted stage e)
    pure (.error e, .aborted)

/-- Writes an example of a configuration file, and tells where. -/
def writeExample (host : RunHost m) (invocation : Path) : m (Except RunError Path) := do
  let path := invocation.join ⟨ConfigFile.exampleName⟩
  match ← host.write path ConfigFile.blank.prettyText with
  | .error e => pure (.error (.io e))
  | .ok () => do
    host.log (.exampleWritten path)
    pure (.ok path)

end Run

end ElmPrerender
