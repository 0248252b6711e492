import ElmPrerender.IoError
import ElmPrerender.Decimal.Shortest
import ElmPrerender.Json.Fault
import ElmPrerender.Log.Level
import ElmPrerender.Text.Quoted

/-!
What can be wrong with settings: a source that cannot be read, a value of the wrong kind, or a value
that the tool does not accept.
-/

namespace ElmPrerender

namespace Settings

/-- Floating point numbers in settings are written without an exponent. -/
def plainLayout : Decimal.Layout := ⟨-400, 400, false⟩

/-- In messages a whole number keeps its point. -/
def messageLayout : Decimal.Layout := ⟨-400, 400, true⟩

/-- A value that is not of the kind asked for. -/
inductive Unexpected where
  | bool (value : Bool)
  | integer (value : Int)
  | float (value : Decimal.Binary64)
  | text (value : String)
  | nothing
  | list
  | table
  deriving DecidableEq, Repr

namespace Unexpected

def label : Unexpected → String
  | .bool b => "boolean `" ++ (if b then "true" else "false") ++ "`"
  | .integer i => "integer `" ++ toString i ++ "`"
  | .float x => "floating point `" ++ String.ofList (messageLayout.text x) ++ "`"
  | .text s => "string " ++ Text.quoted s
  | .nothing => "unit value"
  | .list => "sequence"
  | .table => "map"

/-- As `label`, with the width of a whole number. -/
def wideText : Unexpected → String
  | .integer i => "64-bit " ++ label (.integer i)
  | u => u.label

end Unexpected

/-- The settings that can be given. -/
inductive Key where
  | level
  | json
  | directory
  | elmMakePath
  | nodePath
  | indent
  | newLines
  deriving DecidableEq, Repr

/-- Settings come in four groups. -/
inductive Section where
  | logging
  | workspace
  | toolchain
  | render
  deriving DecidableEq, Repr

namespace Section

def name : Section → String
  | .logging => "logging"
  | .workspace => "workspace"
  | .toolchain => "toolchain"
  | .render => "render"

def typeName : Section → String
  | .logging => "struct RawLoggingSettings"
  | .workspace => "struct RawWorkspaceSettings"
  | .toolchain => "struct RawToolchainSettings"
  | .render => "struct RawRenderSettings"

/-- The settings of a group, in the order of a list that stands for the group. -/
def keys : Section → List Key
  | .logging => [.level, .json]
  | .workspace => [.directory]
  | .toolchain => [.elmMakePath, .nodePath]
  | .render => [.indent, .newLines]

end Section

namespace Key

def group : Key → Section
  | .level | .json => .logging
  | .directory => .workspace
  | .elmMakePath | .nodePath => .toolchain
  | .indent | .newLines => .render

/-- The name of a setting within its group. -/
def name : Key → String
  | .level => "level"
  | .json => "json"
  | .directory => "directory"
  | .elmMakePath => "elm_make_path"
  | .nodePath => "node_path"
  | .indent => "indent"
  | .newLines => "new_lines"

def fullName (k : Key) : String := k.group.name ++ "." ++ k.name

end Key

/-- A value of the wrong kind, with its key and the place it came from. -/
structure KindError where
  unexpected : Unexpected
  expected : String
  key : String
  origin : Option String
  deriving DecidableEq, Repr

def KindError.message (e : KindError) : String :=
  "invalid type: " ++ e.unexpected.wideText ++ ", expected " ++ e.expected ++ " for key `" ++ e.key ++
    "`" ++ (match e.origin with
      | some origin => " in " ++ origin
      | none => "")

/-- Why a setting that is of the right kind is refused. -/
inductive Refusal where
  | level
  | directoryEmpty
  | elmMakePathEmpty
  | nodePathEmpty
  | indentTooLarge
  deriving DecidableEq, Repr

/-- The largest indentation. -/
def maxIndent : Nat := 16

namespace Refusal

def key : Refusal → Key
  | .level => .level
  | .directoryEmpty => .directory
  | .elmMakePathEmpty => .elmMakePath
  | .nodePathEmpty => .nodePath
  | .indentTooLarge => .indent

def reason : Refusal → String
  | .level => "failed to parse: " ++ Log.Threshold.refusal
  | .indentTooLarge => "must be at most " ++ toString maxIndent
  | _ => "path must not be empty"

end Refusal

/-- Why a settings file gives no settings. -/
inductive FileFault where
  | malformed
  | json (e : Json.SyntaxError)
  /-- The file holds a value of another kind than a table. -/
  | notTable (unexpected : Unexpected)
  deriving DecidableEq, Repr

/-- What is said of a file with a fault; a value of the wrong kind knows where it came from. -/
def FileFault.messageIn (origin : String) : FileFault → String
  | .malformed => "invalid syntax in " ++ origin
  | .json e => e.message ++ " in " ++ origin
  | .notTable unexpected =>
    "invalid type: " ++ unexpected.wideText ++ ", expected a map in " ++ origin ++ " in " ++ origin

end Settings

/-- Why the settings cannot be used. -/
inductive SettingsError where
  | fileNotFound (path : Path)
  | unsupportedFormat (path : Path)
  | fileUnreadable (cause : IoError)
  /-- A settings file that does not follow its format. -/
  | unparsable (origin : String) (fault : Settings.FileFault)
  | wrongKind (e : Settings.KindError)
  /-- A group that is not a table. -/
  | notTable (group : Settings.Section) (unexpected : Settings.Unexpected)
  | refused (r : Settings.Refusal)
  deriving DecidableEq, Repr

namespace SettingsError

def buildMessage : SettingsError → String
  | .fileNotFound path => "configuration file \"" ++ path.text ++ "\" not found"
  | .unsupportedFormat path =>
    "configuration file \"" ++ path.text ++ "\" is not of a supported file format"
  | .fileUnreadable cause => cause.message
  | .unparsable origin fault => fault.messageIn origin
  | .wrongKind e => e.message
  | .notTable group unexpected =>
    "invalid type: " ++ unexpected.label ++ ", expected " ++ group.typeName ++ " for key `" ++
      group.name ++ "`"
  | .refused _ => ""

def message : SettingsError → String
  | .refused r =>
    "invalid configuration for `" ++ r.key.fullName ++ "`: " ++ r.reason
  | e => "failed to build configuration: " ++ e.buildMessage

end SettingsError

end ElmPrerender
