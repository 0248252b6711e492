import ElmPrerender.Text.White

/-!
Names of Elm modules, and the name that a source file declares. Only the first line of a source
counts: optional white space, optionally `port` or `effect`, then `module` and the name, each set
off by white space.
-/

namespace ElmPrerender

/-- The name of the generated program, which no source may take. -/
def reservedModuleName : String := "PrivateMain"

/-- Why a text gives no usable module name. -/
inductive ModuleNameError where
  | missingHeader
  | emptyName
  | invalidName (name : String)
  | reserved
  deriving DecidableEq, Repr

def ModuleNameError.message : ModuleNameError → String
  | .missingHeader => "first line is not a module declaration"
  | .emptyName => "module declaration does not name a module"
  | .invalidName name => "`" ++ name ++ "` is not a valid module name"
  | .reserved => "you can't call your module PrivateMain; please rename it"

/-- A module name as Elm writes it, such as `Pages.About`. -/
structure ModuleName where
  text : String
  deriving DecidableEq, Repr

/-- Characters of an identifier after its first. -/
def isIdentifierRest (c : Char) : Bool := c.isAlphanum || c == '_'

/-- A capital letter, then letters, digits and underscores, all ASCII. -/
def isUpperIdentifier : List Char → Bool
  | [] => false
  | c :: r => c.isUpper && r.all isIdentifierRest

namespace ModuleName

/-- Accepts dot-separated capitalised identifiers, white space around them aside. -/
def parse (raw : String) : Except ModuleNameError ModuleName :=
  let name := Text.trim raw.toList
  if name.isEmpty then .error .emptyName
  else if !(List.splitOn '.' name).all isUpperIdentifier then
    .error (.invalidName (String.ofList name))
  else if name = reservedModuleName.toList then .error .reserved
  else .ok ⟨String.ofList name⟩

/-- The words that may stand before `module`. -/
def isHeaderKeyword (word : List Char) : Bool :=
  word == "port".toList || word == "effect".toList

/-- The keyword that has to read `module`, and what follows it. -/
def headerKeyword? (header : List Char) : Option (List Char × List Char) := do
  let (word, rest) ← Text.nextWord? header
  if isHeaderKeyword word then Text.nextWord? rest else some (word, rest)

/-- The line that may declare a module: leading byte-order marks do not count. -/
def headerLine (source : String) : List Char :=
  Text.firstLine (source.toList.dropWhile (· == '\uFEFF'))

/-- The module name declared by the text of a source file. -/
def ofSource (source : String) : Except ModuleNameError ModuleName :=
  match headerKeyword? (headerLine source) with
  | none => .error .missingHeader
  | some (keyword, rest) =>
    if keyword ≠ "module".toList then .error .missingHeader
    else match Text.nextWord? rest with
      | none => .error .emptyName
      | some (name, _) => parse (String.ofList name)

end ModuleName

end ElmPrerender
