import ElmPrerender.CommandLine.Arguments

/-!
What the tool says about itself: its usage, its version and its help. The help has one line an
option, and all descriptions begin in one column.
-/

namespace ElmPrerender

namespace CommandOption

/-- What an option is for. -/
def purpose : CommandOption → String
  | .filename => "Provide an Elm file to compile to HTML"
  | .output => "Write to a particular file. Defaults to STDOUT"
  | .verbose => "Be more chatty"
  | .config => "Provide a json file for use as config"
  | .initConfig => "Generate an example elm-static-html.json and exit"
  | .settingsFile => "Optional path to a tool settings file (TOML)"
  | .workspaceDir => "Override the scratch workspace directory"
  | .elmMakePath => "Override the elm-make executable"
  | .nodePath => "Override the node executable used to run the compiled artifact"
  | .indent => "Override the indentation width of rendered HTML"
  | .logLevel => "Override the base log level (trace|debug|info|warn|error)"
  | .logJson => "Toggle JSON logging"
  | .help => "Print help"
  | .version => "Print version"

/-- The words that are shown for the value of an option, if only some are possible. -/
def values : CommandOption → List String
  | .logJson => ["true", "false"]
  | _ => []

/-- The variable that stands in for an option. -/
def variableName? : CommandOption → Option String
  | .settingsFile => some Arguments.settingsFileVariable
  | _ => none

/-- How an option is written. -/
def synopsis (o : CommandOption) : String :=
  (match o.letter? with
    | some c => "-" ++ String.singleton c ++ ", "
    | none => "    ") ++ "--" ++ o.longName ++
  (match o.valueName? with
    | some name => " <" ++ name ++ ">"
    | none => "")

/-- What is added to the purpose of an option: its variable as it is set now, and its values. -/
def remarks (environment : List (String × String)) (o : CommandOption) : List String :=
  (match o.variableName? with
    | some name => ["[env: " ++ name ++ "=" ++ (environment.lookup name).getD "" ++ "]"]
    | none => []) ++
  (match o.values with
    | [] => []
    | values => ["[possible values: " ++ String.intercalate ", " values ++ "]"])

def description (environment : List (String × String)) (o : CommandOption) : String :=
  String.intercalate " " (o.purpose :: o.remarks environment)

/-- The column in which descriptions begin, counted from the options. -/
def descriptionColumn : Nat := (all.map (·.synopsis.length)).foldl max 0 + 2

def helpLine (environment : List (String × String)) (o : CommandOption) : String :=
  "  " ++ o.synopsis ++ String.ofList (List.replicate (descriptionColumn - o.synopsis.length) ' ') ++
    o.description environment

end CommandOption

namespace CommandLine

def name : String := "elm-static-html"

def version : String := name ++ " 0.1.0"

def usage : String := "Usage: " ++ name ++ " [OPTIONS]"

def help (environment : List (String × String)) : String :=
  String.intercalate "\n"
    (["Render Elm view functions to static HTML", "", usage, "", "Options:"] ++
      CommandOption.all.map (·.helpLine environment))

end CommandLine

end ElmPrerender
