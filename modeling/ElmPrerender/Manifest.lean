import ElmPrerender.Json.Parser
import ElmPrerender.Path
import ElmPrerender.ProjectName

/-!
The description of an Elm project, and the copy of it that the scratch directory gets. Patching
changes three fields and keeps all others as they are, in their order.
-/

namespace ElmPrerender

/-- The fields of `elm-package.json` that are looked at. -/
inductive ManifestField where
  | whole
  | sourceDirectories
  | dependencies
  | nativeModules
  | repository
  deriving DecidableEq, Repr

def ManifestField.name : ManifestField → String
  | .whole => "(root)"
  | .sourceDirectories => "source-directories"
  | .dependencies => "dependencies"
  | .nativeModules => "native-modules"
  | .repository => "repository"

inductive ManifestError where
  | syntaxError (e : Json.SyntaxError)
  | notObject
  | sourcesNotList
  | sourcesNotStrings
  | dependenciesNotObject
  | repositoryNotString
  | repositoryUnnamed
  deriving DecidableEq, Repr

namespace ManifestError

def field (f : ManifestField) (problem : String) : String :=
  "manifest field `" ++ f.name ++ "` " ++ problem

def message : ManifestError → String
  | .syntaxError e => "manifest is not valid JSON: " ++ e.message
  | .notObject => field .whole "must be a JSON object"
  | .sourcesNotList => field .sourceDirectories "must be a list"
  | .sourcesNotStrings => field .sourceDirectories "must hold strings"
  | .dependenciesNotObject => field .dependencies "must be an object"
  | .repositoryNotString => field .repository "must be a string"
  | .repositoryUnnamed => field .repository "does not name a project"

end ManifestError

structure Manifest where
  fields : Json.Members
  deriving DecidableEq, Repr

namespace Manifest

/-- The package that turns a view into text. -/
def supportPackage : String := "eeue56/elm-html-in-elm"
def supportConstraint : String := "5.1.0 <= v < 6.0.0"

def parse (text : String) : Except ManifestError Manifest :=
  match Json.Value.parse text with
  | .error e => .error (.syntaxError e)
  | .ok (.object fields) => .ok ⟨fields⟩
  | .ok _ => .error .notObject

def get? (m : Manifest) (name : String) : Option Json.Value := m.fields.get? name

def field? (m : Manifest) (f : ManifestField) : Option Json.Value := m.get? f.name

def set (m : Manifest) (f : ManifestField) (v : Json.Value) : Manifest :=
  ⟨m.fields.insert f.name v⟩

def directory : Json.Value → Except ManifestError String
  | .string s => .ok s
  | _ => .error .sourcesNotStrings

/-- The directories in which the compiler looks for sources. -/
def sourceDirectories (m : Manifest) : Except ManifestError (List String) :=
  match m.field? .sourceDirectories with
  | some (.array entries) => entries.mapM directory
  | _ => .error .sourcesNotList

def projectName (m : Manifest) : Except ManifestError ProjectName :=
  match m.field? .repository with
  | some (.string repository) =>
    match ProjectName.ofRepository? repository with
    | some name => .ok name
    | none => .error .repositoryUnnamed
  | _ => .error .repositoryNotString

/-- The dependencies; without the field there are none. -/
def dependencies (m : Manifest) : Except ManifestError Json.Members :=
  match m.field? .dependencies with
  | none => .ok []
  | some (.object members) => .ok members
  | some _ => .error .dependenciesNotObject

/-- The source directories as seen from the scratch directory, which is the last of them. -/
def rebase (invocation : Path) (directories : List String) : Json.Value :=
  .array (directories.map (fun d => .string (invocation.join ⟨d⟩).text) ++ [.string "."])

/-- Makes the source directories absolute, adds the scratch directory and the support package, and
allows native modules. -/
def patch (m : Manifest) (invocation : Path) : Except ManifestError Manifest := do
  let directories ← m.sourceDirectories
  let dependencies ← m.dependencies
  let withSources := m.set .sourceDirectories (rebase invocation directories)
  let withSupport := withSources.set .dependencies
    (.object (dependencies.insert supportPackage (.string supportConstraint)))
  pure (withSupport.set .nativeModules (.bool true))

/-- The text of the file, indented by two. -/
def text (m : Manifest) : String := (Json.Value.object m.fields).prettyText 2

/-- Prints the manifest for the scratch directory. A printer may fail, but in memory this one has
nothing to fail over. -/
def encode (m : Manifest) : Except ManifestError String := .ok m.text

end Manifest

end ElmPrerender
