import ElmPrerender.Batch
import ElmPrerender.ConfigFile
import ElmPrerender.IoError
import ElmPrerender.Manifest
import ElmPrerender.Settings.Error

/-!
Why a run fails. Each failure keeps its cause; the words are in `message`.
-/

namespace ElmPrerender

/-- Failures of the compiler or of the script that runs the compiled program. -/
inductive ToolchainError where
  | spawn (program : String) (cause : IoError)
  /-- Without a code the program was ended by a signal. -/
  | exited (program : String) (code : Option Int) (stderr : String)
  | decode (cause : Json.SyntaxError)
  deriving DecidableEq, Repr

namespace ToolchainError

def codeText : Option Int → String
  | some code => "Some(" ++ toString code ++ ")"
  | none => "None"

def message : ToolchainError → String
  | .spawn program cause => "failed to launch `" ++ program ++ "`: " ++ cause.message
  | .exited program code stderr =>
    "`" ++ program ++ "` exited with status " ++ codeText code ++ ": " ++ stderr
  | .decode cause => "compiled artifact produced unreadable output: " ++ cause.message

end ToolchainError

/-- Why there is no manifest to work with. -/
inductive ManifestProblem where
  | unreadable (cause : IoError)
  | invalid (cause : ManifestError)
  deriving DecidableEq, Repr

def ManifestProblem.message : ManifestProblem → String
  | .unreadable cause => cause.message
  | .invalid cause => cause.message

/-- Why a source file is left out. -/
inductive SourceProblem where
  | unreadable (cause : IoError)
  | header (cause : ModuleNameError)
  deriving DecidableEq, Repr

def SourceProblem.message : SourceProblem → String
  | .unreadable cause => "failed to read source file: " ++ cause.message
  | .header cause => cause.message

inductive RunError where
  | missingFilename
  | configUnreadable (path : Path) (cause : IoError)
  | config (cause : ConfigError)
  | missingManifest (path : Path) (problem : ManifestProblem)
  | domain (cause : DomainError)
  | io (cause : IoError)
  | settings (cause : SettingsError)
  | toolchain (cause : ToolchainError)
  /-- The patched manifest cannot be printed. -/
  | unexpected (cause : ManifestError)
  deriving DecidableEq, Repr

namespace RunError

def message : RunError → String
  | .missingFilename => "no filename provided; please provide a filename via -f"
  | .configUnreadable path cause =>
    "invalid input: failed to load config file `" ++ path.text ++ "`: " ++ cause.message ++
      "; you can create one with --init-config"
  | .config cause => cause.message
  | .missingManifest path problem =>
    "failed to load " ++ path.text ++ ": " ++ problem.message ++
      "; make sure elm-package.json is in the current directory"
  | .domain cause => cause.message
  | .io cause => "io error: " ++ cause.message
  | .settings cause => "configuration error: failed to load configuration: " ++ cause.message
  | .toolchain cause => cause.message
  | .unexpected cause => "unexpected error: failed to encode manifest: " ++ cause.message

/-- Whether the user has to call the tool in another way. -/
def isUserError : RunError → Bool
  | .missingFilename | .configUnreadable _ _ | .config _ => true
  | _ => false

end RunError

end ElmPrerender
