import ElmPrerender.Decimal.Reading
import ElmPrerender.Text.Lowercase

/-!
The arguments of the command line. They are read from left to right. A value that stands in an
argument of its own is only looked at when the next option comes, or at the end, so an unknown
argument is reported before it.
-/

namespace ElmPrerender

/-- What can be given on the command line. -/
inductive CommandOption where
  | filename
  | output
  | verbose
  | config
  | initConfig
  | settingsFile
  | workspaceDir
  | elmMakePath
  | nodePath
  | indent
  | logLevel
  | logJson
  | help
  | version
  deriving DecidableEq, Repr

namespace CommandOption

def all : List CommandOption :=
  [.filename, .output, .verbose, .config, .initConfig, .settingsFile, .workspaceDir, .elmMakePath,
    .nodePath, .indent, .logLevel, .logJson, .help, .version]

def longName : CommandOption → String
  | .filename => "filename"
  | .output => "output"
  | .verbose => "verbose"
  | .config => "config"
  | .initConfig => "init-config"
  | .settingsFile => "settings-file"
  | .workspaceDir => "workspace-dir"
  | .elmMakePath => "elm-make-path"
  | .nodePath => "node-path"
  | .indent => "indent"
  | .logLevel => "log-level"
  | .logJson => "log-json"
  | .help => "help"
  | .version => "version"

def letter? : CommandOption → Option Char
  | .filename => some 'f'
  | .output => some 'o'
  | .verbose => some 'v'
  | .config => some 'c'
  | .help => some 'h'
  | .version => some 'V'
  | _ => none

/-- What the value of an option is called; flags have none. -/
def valueName? : CommandOption → Option String
  | .filename | .output | .config => some "FILE"
  | .settingsFile | .workspaceDir | .elmMakePath | .nodePath => some "PATH"
  | .indent => some "COUNT"
  | .logLevel => some "LEVEL"
  | .logJson => some "BOOL"
  | _ => none

def takesValue (o : CommandOption) : Bool := o.valueName?.isSome

def ofLong? (name : List Char) : Option CommandOption := all.find? (·.longName.toList == name)

def ofLetter? (c : Char) : Option CommandOption := all.find? (·.letter? == some c)

end CommandOption

/-- Why the arguments are refused, or what is printed in place of a run. -/
inductive ArgumentError where
  | unknownArgument
  /-- A value is missing, or empty where a path is asked for. -/
  | invalidValue
  /-- A value that is no number or no truth value. -/
  | valueValidation
  /-- An option that may be given only once. -/
  | argumentConflict
  /-- A flag with a value. -/
  | tooManyValues
  | displayHelp
  | displayVersion
  deriving DecidableEq, Repr

def ArgumentError.message : ArgumentError → String
  | .unknownArgument => "unexpected argument"
  | .invalidValue => "a value is required"
  | .valueValidation => "invalid value"
  | .argumentConflict => "the argument cannot be used multiple times"
  | .tooManyValues => "unexpected value"
  | .displayHelp => "help requested"
  | .displayVersion => "version requested"

structure Arguments where
  filename : Option String := none
  output : Option String := none
  verbose : Bool := false
  config : Option String := none
  initConfig : Bool := false
  settingsFile : Option String := none
  workspaceDir : Option String := none
  elmMakePath : Option String := none
  nodePath : Option String := none
  indent : Option Nat := none
  logLevel : Option String := none
  logJson : Option Bool := none
  deriving DecidableEq, Repr

namespace Arguments

/-- Words for truth values, in letters of any size. -/
def truth? (s : String) : Option Bool :=
  let small := String.ofList (Text.lowercase s.toList)
  if ["y", "yes", "t", "true", "on", "1"].contains small then some true
  else if ["n", "no", "f", "false", "off", "0"].contains small then some false
  else none

def path (s : String) : Except ArgumentError (Option String) :=
  if s.isEmpty then .error .invalidValue else .ok (some s)

/-- Takes over the value of an option. -/
def setValue (a : Arguments) (o : CommandOption) (s : String) : Except ArgumentError Arguments :=
  match o with
  | .filename => do pure { a with filename := ← path s }
  | .output => pure { a with output := some s }
  | .config => do pure { a with config := ← path s }
  | .settingsFile => do pure { a with settingsFile := ← path s }
  | .workspaceDir => do pure { a with workspaceDir := ← path s }
  | .elmMakePath => do pure { a with elmMakePath := ← path s }
  | .nodePath => do pure { a with nodePath := ← path s }
  | .indent =>
    match Decimal.unsigned64? s.toList with
    | some n => pure { a with indent := some n }
    | none => .error .valueValidation
  | .logLevel => pure { a with logLevel := some s }
  | .logJson =>
    match truth? s with
    | some b => pure { a with logJson := some b }
    | none => .error .valueValidation
  | .verbose => pure { a with verbose := true }
  | .initConfig => pure { a with initConfig := true }
  | .help => .error .displayHelp
  | .version => .error .displayVersion

/-- How far the arguments have been read. -/
structure Scan where
  arguments : Arguments := {}
  /-- The options that have been taken over. -/
  given : List CommandOption := []
  /-- An option that has not been looked at yet, with its value if that has come. -/
  pending : Option (CommandOption × Option String) := none
  /-- After `--` no options follow. -/
  optionsEnded : Bool := false

namespace Scan

/-- Takes over an option: a value has to be there, then it must be the first time, then the value
has to be of the right kind. -/
def take (s : Scan) (o : CommandOption) (value : Option String) : Except ArgumentError Scan :=
  if o.takesValue && value.isNone then .error .invalidValue
  else if o = .help then .error .displayHelp
  else if o = .version then .error .displayVersion
  else if s.given.contains o then .error .argumentConflict
  else do
    let arguments ← s.arguments.setValue o (value.getD "")
    pure { s with arguments := arguments, given := o :: s.given }

/-- Takes over the option that is still pending. -/
def settle (s : Scan) : Except ArgumentError Scan :=
  match s.pending with
  | none => .ok s
  | some (o, value) => { s with pending := none }.take o value

/-- An option that has a value, whether it stands in the same argument or in the next. -/
def withValue (s : Scan) (o : CommandOption) (attached : Option String) :
    Except ArgumentError Scan := do
  let s ← s.settle
  match attached with
  | some value => s.take o (some value)
  | none => pure { s with pending := some (o, none) }

def flag (s : Scan) (o : CommandOption) : Except ArgumentError Scan := do
  (← s.settle).take o none

/-- `--name` or `--name=value`. -/
def long (s : Scan) (word : List Char) : Except ArgumentError Scan :=
  let attached := match word.dropWhile (· != '=') with
    | [] => none
    | _ :: value => some (String.ofList value)
  match CommandOption.ofLong? (word.takeWhile (· != '=')) with
  | none => .error .unknownArgument
  | some o =>
    if o.takesValue then s.withValue o attached
    else if attached.isSome then .error .tooManyValues
    else s.flag o

/-- Letters behind one hyphen. The first one that takes a value takes all that follows it. -/
def letters (s : Scan) : List Char → Except ArgumentError Scan
  | [] => .ok s
  | c :: rest =>
    match CommandOption.ofLetter? c with
    | none => .error .unknownArgument
    | some o =>
      if o.takesValue then
        s.withValue o (match rest with
          | [] => none
          | '=' :: value => some (String.ofList value)
          | value => some (String.ofList value))
      else do letters (← s.flag o) rest

/-- Whether the value of an option has to come next. -/
def awaitsValue (s : Scan) : Option CommandOption :=
  match s.pending with
  | some (o, none) => some o
  | _ => none

/-- One argument. -/
def word (s : Scan) (a : String) : Except ArgumentError Scan :=
  if s.optionsEnded then .error .unknownArgument
  else match a.toList with
    | ['-', '-'] => .ok { s with optionsEnded := true }
    | '-' :: '-' :: rest => s.long rest
    | '-' :: c :: rest => s.letters (c :: rest)
    | _ =>
      match s.awaitsValue with
      | some o => .ok { s with pending := some (o, some a) }
      | none => .error .unknownArgument

end Scan

/-- The variable that names a settings file where the command line does not. -/
def settingsFileVariable : String := "ELM_STATIC_HTML_SETTINGS_FILE"

/-- The arguments of a command line, in an environment. -/
def parse (words : List String) (environment : List (String × String)) :
    Except ArgumentError Arguments := do
  let s ← words.foldlM Scan.word {}
  let arguments := (← s.settle).arguments
  match arguments.settingsFile, environment.find? (·.1 == settingsFileVariable) with
  | none, some (_, value) => arguments.setValue .settingsFile value
  | _, _ => pure arguments

end Arguments

end ElmPrerender
