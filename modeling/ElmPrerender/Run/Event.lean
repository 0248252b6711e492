import ElmPrerender.Log.Record
import ElmPrerender.Run.Error
import ElmPrerender.Run.Stage

/-!
What a run tells about itself. An event is data; its level, its words and its fields are given by
`record`.
-/

namespace ElmPrerender

inductive Event where
  | transition (before after : Stage)
  | aborted (stage : Stage) (error : RunError)
  | loadingFile (source : Path) (output : Option String)
  | usingConfig (path : Path)
  | skipped (source : Path) (problem : SourceProblem)
  | wroteScaffold (root : Path) (modules targets : Nat)
  | buildFailed (code : Int)
  | saved (path : Path)
  | finished (files printed dropped : Nat)
  | exampleWritten (path : Path)
  | executableMissing (program : String)
  | compilerOutput (text : String)
  | compiled (elapsed : Nat)
  | compilerFailed (elapsed : Nat) (code : Int) (text : String)
  | applicationError (error : RunError)
  deriving DecidableEq, Repr

namespace Event

def runTarget : String := "elm_static_html::application::pipeline"
def toolTarget : String := "elm_static_html::infra::elm"
def mainTarget : String := "elm_static_html"

/-- The field in which a run names itself. -/
def runField : String × Log.FieldValue := ("target", .quoted "elm_static_html::pipeline")
def toolField : String × Log.FieldValue := ("target", .quoted "elm_static_html::toolchain")
def compileField : String × Log.FieldValue := ("op", .quoted "elm_make::build")

def ofRun (level : Log.Level) (message : String) (fields : List (String × Log.FieldValue)) :
    Log.Record :=
  ⟨level, runTarget, message, runField :: fields⟩

def ofTool (level : Log.Level) (message : String) (fields : List (String × Log.FieldValue)) :
    Log.Record :=
  ⟨level, toolTarget, message, toolField :: fields⟩

def record : Event → Log.Record
  | .transition before after =>
    ofRun .debug "Stage transition" [("from", .quoted before.name), ("to", .quoted after.name)]
  | .aborted stage error =>
    ofRun .debug "Run aborted" [("stage", .quoted stage.name), ("error", .shown error.message)]
  | .loadingFile source output =>
    ofRun .info "Loading file"
      [("file", .shown source.text), ("output", .quoted (output.getD "stdout"))]
  | .usingConfig path => ofRun .info "Using the config file" [("config", .shown path.text)]
  | .skipped source problem =>
    ofRun .warn "Skipping source file"
      [("file", .shown source.text), ("reason", .shown problem.message)]
  | .wroteScaffold root modules targets =>
    ofRun .info "Wrote template files"
      [("workspace", .shown root.text), ("modules", .number modules), ("targets", .number targets)]
  | .buildFailed code =>
    ofRun .warn ("Build exited with code " ++ toString code ++ "; trying to proceed anyway")
      [("exit_code", .number code)]
  | .saved path => ofRun .info "Saved output" [("path", .shown path.text)]
  | .finished files printed dropped =>
    ofRun .info "Done!"
      [("files", .number files), ("printed", .number printed), ("dropped", .number dropped)]
  | .exampleWritten path =>
    ofRun .info "Initialized example config" [("path", .shown path.text)]
  | .executableMissing program =>
    ofTool .warn "Executable not found; check the toolchain paths" [("program", .quoted program)]
  | .compilerOutput text =>
    ofTool .debug "elm-make output" [compileField, ("stdout", .shown text)]
  | .compiled elapsed =>
    ofTool .info "Driver compiled"
      [compileField, ("result", .quoted "ok"), ("elapsed_ms", .number elapsed)]
  | .compilerFailed elapsed code text =>
    ofTool .warn "elm-make reported a failure"
      [compileField, ("result", .quoted "error"), ("elapsed_ms", .number elapsed),
        ("exit_code", .number code), ("stderr", .shown text)]
  | .applicationError error =>
    ⟨.error, mainTarget, "application error", [("error", .shown error.message)]⟩

end Event

end ElmPrerender
