import ElmPrerender.Path

/-!
Failures of reading, writing and printing, and the words for them.
-/

namespace ElmPrerender

inductive IoError where
  /-- Nothing is stored under the path. -/
  | missing (path : Path)
  | unwritable (path : Path)
  | uncreatable (path : Path)
  | outputClosed
  | outputUnflushable
  | noSuchEntry
  | permissionDenied
  | alreadyExists
  | notDirectory
  | isDirectory
  | nameTooLong
  | notUtf8
  /-- A path with a NUL in it. -/
  | nulInPath
  /-- The name of a program with a NUL in it. -/
  | nulInCall
  /-- Any other failure, by its text. -/
  | other (text : String)
  deriving DecidableEq, Repr

namespace IoError

/-- The words of the system for a failure with its number. -/
def system (text : String) (number : Nat) : String :=
  text ++ " (os error " ++ toString number ++ ")"

def message : IoError → String
  | .missing path => path.text ++ " does not exist"
  | .unwritable path => "cannot write " ++ path.text
  | .uncreatable path => "cannot create " ++ path.text
  | .outputClosed => "standard output is closed"
  | .outputUnflushable => "cannot flush standard output"
  | .noSuchEntry => system "No such file or directory" 2
  | .permissionDenied => system "Permission denied" 13
  | .alreadyExists => system "File exists" 17
  | .notDirectory => system "Not a directory" 20
  | .isDirectory => system "Is a directory" 21
  | .nameTooLong => system "File name too long" 36
  | .notUtf8 => "stream did not contain valid UTF-8"
  | .nulInPath => "file name contained an unexpected NUL byte"
  | .nulInCall => "nul byte found in provided data"
  | .other text => text

end IoError

end ElmPrerender
