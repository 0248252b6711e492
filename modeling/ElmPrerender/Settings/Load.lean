import ElmPrerender.Ini
import ElmPrerender.Json.Parser
import ElmPrerender.Json5
import ElmPrerender.Ron
import ElmPrerender.Settings.Resolve
import ElmPrerender.Toml.Parser
import ElmPrerender.Yaml.Node

/-!
Where settings come from: a file beside the project, a file that is named on the command line, and
the environment. Each is laid over the ones before it.
-/

namespace ElmPrerender.Settings

/-- What has to be known of the file system. -/
structure Files (m : Type → Type) where
  isFile : Path → m Bool
  read : Path → m (Except IoError (List UInt8))

/-- Settings in the environment begin with this, in letters of any size. -/
def variablePrefix : List Char := "elm_static_html__".toList

/-- Two underscores divide the parts of a name as a dot does elsewhere. -/
def dotted : List Char → List Char
  | '_' :: '_' :: r => '.' :: dotted r
  | c :: r => c :: dotted r
  | [] => []

/-- The settings that variables give. -/
def ofEnvironment (environment : List (String × String)) : Tree.Members :=
  environment.filterMap fun (name, value) =>
    let small := Text.lowercase name.toList
    if variablePrefix.isPrefixOf small then
      some (String.ofList (dotted (small.drop variablePrefix.length)),
        .scalar (some "the environment") (Tree.scalarOfText value))
    else none

inductive FileFormat where
  | toml
  | json
  | yaml
  | ini
  | ron
  | json5
  deriving DecidableEq, Repr

namespace FileFormat

def all : List FileFormat := [.toml, .json, .yaml, .ini, .ron, .json5]

def extensions : FileFormat → List String
  | .toml => ["toml"]
  | .json => ["json"]
  | .yaml => ["yaml", "yml"]
  | .ini => ["ini"]
  | .ron => ["ron"]
  | .json5 => ["json5"]

end FileFormat

/-- What stands behind the last dot of a file name, unless that is its first character. -/
def extension? (p : Path) : Option String :=
  p.fileName?.bind fun name =>
    let cs := name.toList
    let behind := (cs.reverse.takeWhile (· != '.')).reverse
    if behind.length = cs.length || behind.length + 1 = cs.length then none
    else some (String.ofList behind)

/-- The path with an extension behind its whole file name. -/
def withExtension (p : Path) (extension : String) : Option Path :=
  p.fileName?.map fun name =>
    let name : Path := ⟨name ++ "." ++ extension⟩
    match p.parent? with
    | some parent => if parent.text.isEmpty then name else parent.join name
    | none => name

/-- Components without those that both paths begin with; what is left of the second is undone by
going up. -/
def relativeTo : List Path.Component → List Path.Component → Option (List Path.Component)
  | rest, [] => some rest
  | [], base => if base.contains .parent then none else some (base.map fun _ => .parent)
  | a :: rest, b :: base =>
    if a = b then relativeTo rest base
    else if (b :: base).contains .parent then none
    else some ((b :: base).map (fun _ => .parent) ++ a :: rest)

/-- The text of a component. -/
def componentText : Path.Component → String
  | .root => "/"
  | .current => "."
  | .parent => ".."
  | .normal name => name

/-- A path as it is shown in a message: from the directory of the invocation. -/
def shownFrom (invocation p : Path) : String :=
  match relativeTo p.components invocation.components with
  | some components =>
    (components.foldl (fun (q : Path) c => q.join ⟨componentText c⟩) ⟨""⟩).text
  | none => p.text

/-- A byte-order mark at the start of a file does not count. -/
def withoutMark : List UInt8 → List UInt8
  | 0xEF :: 0xBB :: 0xBF :: rest => rest
  | bytes => bytes

/-- The value that the text of a settings file holds. -/
def parseFile (format : FileFormat) (origin text : String) : Except FileFault Tree :=
  let written (found : Option Json.Value) : Except FileFault Tree :=
    match found with
    | some v => .ok (Tree.ofJson (some origin) v)
    | none => .error .malformed
  match format with
  | .toml =>
    match Toml.parse? text with
    | some members => .ok (.table (some origin) (Tree.ofTomlMembers (some origin) members))
    | none => .error .malformed
  | .json =>
    match Json.Value.parse text with
    | .ok v => written (some v)
    | .error e => .error (.json e)
  | .yaml => written (Yaml.parse? text)
  | .ini => written ((Ini.parse? text).map .object)
  | .ron => written (Ron.parse? text)
  | .json5 => written (Json5.parse? text)

/-- The members of a settings file, which has to hold a table. -/
def fileMembers (format : FileFormat) (origin text : String) : Except FileFault Tree.Members := do
  match ← parseFile format origin text with
  | .table _ members => pure members
  | t => throw (.notTable t.unexpected)

variable {m : Type → Type} [Monad m]

/-- The first of some paths that is a file. -/
def firstFile (files : Files m) : List (Path × FileFormat) → m (Option (Path × FileFormat))
  | [] => pure none
  | (p, format) :: rest => do
    if ← files.isFile p then pure (some (p, format)) else firstFile files rest

/-- The file that a path means: itself, or with the extension of a format behind its name. -/
def locate (files : Files m) (invocation : Path) (formats : List FileFormat)
    (formatOf : Path → Option FileFormat) (p : Path) :
    m (Except SettingsError (Path × FileFormat)) := do
  let whole := invocation.join p
  if ← files.isFile whole then
    match formatOf whole with
    | some format => pure (.ok (whole, format))
    | none => pure (.error (.unsupportedFormat whole))
  else
    let candidates := formats.flatMap fun format => format.extensions.filterMap fun extension =>
      (withExtension whole extension).map fun q => (q, format)
    match ← firstFile files candidates with
    | some found => pure (.ok found)
    | none => pure (.error (.fileNotFound p))

/-- Reads a located file. -/
def readFile (files : Files m) (invocation : Path) (located : Path × FileFormat) :
    m (Except SettingsError Tree.Members) := do
  match ← files.read located.1 with
  | .error cause => pure (.error (.fileUnreadable cause))
  | .ok bytes =>
    let origin := shownFrom invocation located.1
    match fileMembers located.2 origin (Text.Utf8.decodeReplacing (withoutMark bytes)) with
    | .ok members => pure (.ok members)
    | .error fault => pure (.error (.unparsable origin fault))

def localFile : Path := ⟨"elm-static-html.toml"⟩

/-- The settings file beside the project, if there is one that can be read. -/
def localSource (files : Files m) (invocation : Path) : m (Except SettingsError Tree.Members) := do
  match ← locate files invocation [.toml] (fun _ => some .toml) localFile with
  | .error _ => pure (.ok [])
  | .ok located =>
    match ← readFile files invocation located with
    | .error (.fileUnreadable _) => pure (.ok [])
    | members => pure members

def formatOfExtension (p : Path) : Option FileFormat :=
  (extension? p).bind fun e => FileFormat.all.find? (·.extensions.contains e)

/-- The settings file that the command line names, which has to be there. -/
def namedSource (files : Files m) (invocation : Path) (name : Option String) :
    m (Except SettingsError Tree.Members) := do
  match name with
  | none => pure (.ok [])
  | some name =>
    match ← locate files invocation FileFormat.all formatOfExtension ⟨name⟩ with
    | .error e => pure (.error e)
    | .ok located => readFile files invocation located

/-- The settings of a run. -/
def load (files : Files m) (invocation : Path) (a : Arguments)
    (environment : List (String × String)) : m (Except SettingsError Settings) := do
  match ← localSource files invocation with
  | .error e => pure (.error e)
  | .ok here =>
    match ← namedSource files invocation a.settingsFile with
    | .error e => pure (.error e)
    | .ok named => pure (resolve [here, named, ofEnvironment environment] a)

end ElmPrerender.Settings
