import ElmPrerender.Path

/-!
The scratch directory that holds what is handed to the compiler, and the places in it.
-/

namespace ElmPrerender

structure Workspace where
  root : Path
  deriving DecidableEq, Repr

namespace Workspace

/-- The directory used when none is configured. -/
def defaultDirectory : Path := ⟨".elm-static-html"⟩

/-- The project description of an Elm 0.18 project. -/
def manifestFile : String := "elm-package.json"
def driverFile : String := "PrivateMain.elm"
def nativeDirectory : String := "Native"
def shimFile : String := "Jsonify.js"
def runnerFile : String := "runner.js"
def artifactFile : String := "elm.js"

/-- The configured directory as seen from the directory of the invocation. -/
def resolve (invocation directory : Path) : Workspace := ⟨invocation.join directory⟩

def manifest (w : Workspace) : Path := w.root.join ⟨manifestFile⟩
def driver (w : Workspace) : Path := w.root.join ⟨driverFile⟩
def native (w : Workspace) : Path := w.root.join ⟨nativeDirectory⟩
def shim (w : Workspace) : Path := w.native.join ⟨shimFile⟩
def runner (w : Workspace) : Path := w.root.join ⟨runnerFile⟩
def artifact (w : Workspace) : Path := w.root.join ⟨artifactFile⟩

end Workspace

end ElmPrerender
