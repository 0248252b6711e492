import ElmPrerender.Text.White
import ElmPrerender.Url

/-!
The name under which a project's native code is linked: the path of its repository, with `$` for
each slash and `_` for each hyphen.
-/

namespace ElmPrerender

structure ProjectName where
  text : String
  deriving DecidableEq, Repr

namespace ProjectName

def gitSuffix : List Char := ".git".toList

def withoutSuffix (s : List Char) : List Char :=
  if gitSuffix.isSuffixOf s then s.take (s.length - gitSuffix.length) else s

def withoutSlashes (s : List Char) : List Char :=
  Text.dropEndWhile (· == '/') (s.dropWhile (· == '/'))

def nameChar (c : Char) : Char := if c = '/' then '$' else if c = '-' then '_' else c

/-- The path of a repository's address; a text that is no address stands for itself. -/
def repositoryPath (repository : String) : List Char :=
  let text := Text.trim repository.toList
  (Url.path? text).getD text

/-- The name of the project in a repository; slashes around the path and one final `.git` do not
count. -/
def ofRepository? (repository : String) : Option ProjectName :=
  let path := withoutSuffix (withoutSlashes (repositoryPath repository))
  if path.isEmpty then none else some ⟨String.ofList (path.map nameChar)⟩

end ProjectName

end ElmPrerender
