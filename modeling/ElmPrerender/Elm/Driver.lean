import ElmPrerender.RenderConfiguration
import ElmPrerender.Elm.StringLiteral

/-!
The generated Elm program. It renders every page and hands out one list of destination keys and
HTML texts. Its text is a list of lines; each page takes exactly one of them, and all other lines
but the imports and the format are the same for every configuration.
-/

namespace ElmPrerender.Elm

/-- How the HTML is laid out. -/
structure Format where
  indent : Nat
  newLines : Bool
  deriving DecidableEq, Repr

def Format.standard : Format := ⟨4, true⟩

/-- A page as the program names it: its destination key and the view to call. -/
structure Binding where
  key : String
  moduleName : ModuleName
  entry : EntryFunction
  deriving DecidableEq, Repr

structure Driver where
  imports : List ModuleName
  bindings : List Binding
  format : Format
  deriving DecidableEq, Repr

namespace Driver

def bindingsOf (spec : ModuleSpec) : List Binding :=
  spec.targets.map fun target => ⟨target.destination.key, spec.moduleName, target.entry⟩

/-- Each module is imported once, where it first occurs; the pages keep their order. -/
def ofConfiguration (config : RenderConfiguration) (format : Format) : Driver :=
  { imports := (config.specs.map (·.moduleName)).eraseDups
    bindings := config.specs.flatMap bindingsOf
    format := format }

def headerLines : List String := ["port module " ++ reservedModuleName ++ " exposing (..)"]

def supportImportLines : List String :=
  ["import Platform",
    "import Html exposing (Html)",
    "import ElmHtml.InternalTypes exposing (decodeElmHtml)",
    "import ElmHtml.ToString exposing (FormatOptions, defaultFormatOptions, nodeToStringWithOptions)",
    "import Json.Decode as Json",
    "import Native.Jsonify"]

def importLine (moduleName : ModuleName) : String := "import " ++ moduleName.text

/-- An empty line sets the modules of the project off. -/
def importLines (imports : List ModuleName) : List String :=
  if imports.isEmpty then [] else "" :: imports.map importLine

def jsonLines : List String :=
  ["asJsonString : Html msg -> String",
    "asJsonString =",
    "    Native.Jsonify.stringify"]

def formatLine (format : Format) : String :=
  r"    { defaultFormatOptions | newLines = " ++ (if format.newLines then "True" else "False") ++
    ", indent = " ++ toString format.indent ++ r" }"

def formatLines (format : Format) : List String :=
  ["formatOptions : FormatOptions", "formatOptions =", formatLine format]

def decodeLines : List String :=
  ["decode : ( String, Html msg ) -> ( String, String )",
    "decode ( output, view ) =",
    "    case Json.decodeString (decodeElmHtml (\\_ _ -> Json.succeed ())) (asJsonString view) of",
    "        Err message ->",
    "            ( output, message )",
    "",
    "        Ok node ->",
    "            ( output, nodeToStringWithOptions formatOptions node )"]

/-- The expression that renders a page. -/
def expression (b : Binding) : String :=
  "decode ( " ++ StringLiteral.ofString b.key ++ ", " ++ b.moduleName.text ++ "." ++ b.entry.name ++
    " )"

/-- The lines of a list literal, one element a line. -/
def elementLines : List String → List String
  | [] => ["    []"]
  | first :: rest =>
    ("    [ " ++ first) :: (rest.map ("    , " ++ ·) ++ ["    ]"])

def pairsLines (bindings : List Binding) : List String :=
  ["htmlPairs : List ( String, String )", "htmlPairs ="] ++ elementLines (bindings.map expression)

def mainLines : List String :=
  ["main : Program Never () ()",
    "main =",
    "    Platform.program",
    r"        { init = ( (), htmlOut htmlPairs )",
    "        , update = \\_ model -> ( model, Cmd.none )",
    "        , subscriptions = \\_ -> Sub.none",
    r"        }"]

def outputLines : List String := ["port htmlOut : List ( String, String ) -> Cmd msg"]

def gap : List String := ["", ""]

/-- The program, line by line. -/
def lines (d : Driver) : List String :=
  headerLines ++ [""] ++ supportImportLines ++ importLines d.imports ++ gap ++
    jsonLines ++ gap ++ formatLines d.format ++ gap ++ decodeLines ++ gap ++
    pairsLines d.bindings ++ gap ++ mainLines ++ gap ++ outputLines

/-- Every line is ended by a line feed. -/
def render (d : Driver) : String := String.join (d.lines.map (· ++ "\n"))

end Driver

end ElmPrerender.Elm
