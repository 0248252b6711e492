import ElmPrerender.CommandLine.Arguments
import ElmPrerender.Run.Error

/-!
Where a run takes its pages from.
-/

namespace ElmPrerender

inductive RunSource where
  /-- One file with one page; no output means standard output. -/
  | file (source : Path) (output : Option String)
  | configFile (path : Path)
  deriving DecidableEq, Repr

/-- A configuration file wins over a single file. -/
def RunSource.ofArguments (a : Arguments) : Except RunError RunSource :=
  match a.config, a.filename with
  | some path, _ => .ok (.configFile ⟨path⟩)
  | none, some source => .ok (.file ⟨source⟩ a.output)
  | none, none => .error .missingFilename

end ElmPrerender
