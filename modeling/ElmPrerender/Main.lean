import ElmPrerender.CommandLine.Program

/-!
The tool on a real machine. This layer only passes actions on and names their failures. It starts no
programs: every call of one fails, so a run ends where the compiler is called.
-/

namespace ElmPrerender.Console

/-- The failure that the system reports. -/
def failure : IO.Error → IoError
  | .noFileOrDirectory _ _ _ => .noSuchEntry
  | .permissionDenied _ _ _ => .permissionDenied
  | .alreadyExists _ _ _ => .alreadyExists
  | .inappropriateType _ 20 _ => .notDirectory
  | .inappropriateType _ 21 _ => .isDirectory
  | e => .other e.toString

def attempted {α : Type} (action : IO α) : IO (Except IoError α) := do
  try
    pure (.ok (← action))
  catch e =>
    pure (.error (failure e))

/-- Whether a path leads to an entry of a kind. -/
def isOfType (type : IO.FS.FileType) (path : Path) : IO Bool := do
  let place := (← IO.currentDir) / path.text
  try
    let data ← place.metadata
    pure (data.type == type)
  catch _ =>
    pure false

def machine : Machine IO where
  isFile := isOfType .file
  isDirectory := isOfType .dir
  read path := attempted do pure (← IO.FS.readBinFile path.text).toList
  write path text := attempted (IO.FS.writeFile path.text text)
  createDirectory path := attempted (IO.FS.createDir path.text)
  execute _ := pure (.error (.other "programs cannot be started from here"))
  milliseconds := IO.monoMsNow
  print text := attempted do (← IO.getStdout).putStr text
  flush := attempted do (← IO.getStdout).flush
  complain line := do
    try
      (← IO.getStderr).putStrLn line
    catch _ =>
      pure ()

/-- A variable with its value. -/
def variableOf (entry : List Char) : String × String :=
  (String.ofList (entry.takeWhile (· != '=')), String.ofList ((entry.dropWhile (· != '=')).drop 1))

/-- The variables of this process, as the system lists them. -/
def environment : IO (List (String × String)) := do
  match ← attempted (IO.FS.readBinFile "/proc/self/environ") with
  | .error _ => pure []
  | .ok bytes =>
    let entries := List.splitOn (Char.ofNat 0) (Text.Utf8.decodeReplacing bytes.toList).toList
    pure ((entries.filter (!·.isEmpty)).map variableOf)

end ElmPrerender.Console

open ElmPrerender in
def main (arguments : List String) : IO UInt32 := do
  let directory : Path := ⟨(← IO.currentDir).toString⟩
  let exit ← CommandLine.run Console.machine ⟨directory, arguments, ← Console.environment⟩
  pure (UInt32.ofNat exit.code)
