/-!
The stages of a run, in the order in which a successful run enters them.
-/

namespace ElmPrerender

inductive Stage where
  | init
  | configLoaded
  | manifestPatched
  | scaffoldWritten
  | compiling
  | running
  | distributing
  | done
  | aborted
  deriving DecidableEq, Repr

namespace Stage

def name : Stage → String
  | .init => "init"
  | .configLoaded => "config_loaded"
  | .manifestPatched => "manifest_patched"
  | .scaffoldWritten => "scaffold_written"
  | .compiling => "compiling"
  | .running => "running"
  | .distributing => "distributing"
  | .done => "done"
  | .aborted => "aborted"

/-- The stages that a successful run enters. -/
def successful : List Stage :=
  [.configLoaded, .manifestPatched, .scaffoldWritten, .compiling, .running, .distributing, .done]

end Stage

end ElmPrerender
