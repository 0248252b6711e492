import ElmPrerender.RenderConfiguration
import ElmPrerender.TargetRecord

/-!
Configuration files: an object `files` that gives, for each source file, its pages as an output
text, a record, or a list of records. `sources` accepts a file only as a whole. A run started from a
single file name has the same form, one source with one page.
-/

namespace ElmPrerender

/-- The pages of one source file, before its module name is known. -/
structure SourceTargets where
  source : Path
  targets : List RenderTarget
  deriving DecidableEq, Repr

/-- What is wrong with the entry of a source file. -/
inductive EntryProblem where
  | domain (e : DomainError)
  | record (cause : Json.Cause)
  | noOutputs
  | notRecord (found : Json.Value)
  | notEntry (found : Json.Value)
  deriving DecidableEq, Repr

namespace EntryProblem

def kindName : Json.Value → String
  | .null => "null"
  | .bool _ => "a boolean"
  | .number _ => "a number"
  | .string _ => "a string"
  | .array _ => "a list"
  | .object _ => "a record"

def reason : EntryProblem → String
  | .domain e => e.message
  | .record cause => cause.message
  | .noOutputs => "no outputs listed"
  | .notRecord v => "expected an output record, found " ++ kindName v
  | .notEntry v => "expected an output string, record or list, found " ++ kindName v

end EntryProblem

inductive ConfigError where
  | syntaxError (e : Json.SyntaxError)
  | malformed (file : String) (problem : EntryProblem)
  deriving DecidableEq, Repr

def ConfigError.message : ConfigError → String
  | .syntaxError e => "failed to parse configuration: " ++ e.message
  | .malformed file problem =>
    "malformed configuration entry for `" ++ file ++ "`: " ++ problem.reason

/-- The pages of each source file, in the order of the text. -/
structure ConfigFile where
  files : Json.Members
  deriving DecidableEq, Repr

namespace ConfigFile

/-- The file written as an example. -/
def exampleName : String := "elm-static-html.json"

def filesField : String := "files"

def reader (depth : Nat) : Json.Reader ConfigFile :=
  let expected := "struct ConfigFile with 1 element"
  Json.Reader.record depth "struct ConfigFile" [filesField]
    (fun depth _ => Json.Reader.object depth)
    (fun values => do
      let files ← Json.Reader.required values filesField
      pure ⟨.ofList files⟩)
    fun depth => do
      let files ← Json.Reader.oneItem (Json.Reader.object depth) expected
      pure (files.map fun files => ⟨.ofList files⟩)

def parse (text : String) : Except ConfigError ConfigFile :=
  match Json.Reader.parse (reader Json.Reader.maxDepth) (Text.Utf8.ofString text) with
  | .ok file => .ok file
  | .error e => .error (.syntaxError e)

def toValue (c : ConfigFile) : Json.Value := .object [(filesField, .object c.files)]

def prettyText (c : ConfigFile) : String := c.toValue.prettyText 4

/-- A configuration file that lists nothing. -/
def blank : ConfigFile := ⟨[]⟩

def targetRecord (t : RenderTarget) : TargetRecord := ⟨t.destination.key, t.entry.name⟩

/-- Each module as a list of records, whatever form it was read from. -/
def ofConfiguration (config : RenderConfiguration) : ConfigFile :=
  ⟨.ofList (config.specs.map fun spec =>
    (spec.source.text, .array (spec.targets.map fun t => (targetRecord t).toValue)))⟩

/-- The page with the given output and the default view. -/
def plainTarget (output : String) : Except EntryProblem RenderTarget :=
  match Destination.parse output with
  | .error e => .error (.domain e)
  | .ok destination => .ok ⟨destination, .view⟩

/-- The page that a record describes; the output is looked at first. -/
def recordTarget (members : Json.Members) : Except EntryProblem RenderTarget :=
  match TargetRecord.ofMembers members with
  | .error cause => .error (.record cause)
  | .ok record =>
    match Destination.parse record.output with
    | .error e => .error (.domain e)
    | .ok destination =>
      match EntryFunction.parse record.viewFunction with
      | .error e => .error (.domain e)
      | .ok entry => .ok ⟨destination, entry⟩

/-- The page that an item of a list describes. -/
def itemTarget : Json.Value → Except EntryProblem RenderTarget
  | .object members => recordTarget members
  | v => .error (.notRecord v)

/-- The pages that an entry describes, at least one. -/
def entryTargets : Json.Value → Except EntryProblem (List RenderTarget)
  | .string output => do pure [← plainTarget output]
  | .object members => do pure [← recordTarget members]
  | .array [] => .error .noOutputs
  | .array records => records.mapM itemTarget
  | v => .error (.notEntry v)

def sourceOf (m : String × Json.Value) : Except ConfigError SourceTargets :=
  match entryTargets m.2 with
  | .ok targets => .ok ⟨⟨m.1⟩, targets⟩
  | .error problem => .error (.malformed m.1 problem)

/-- The sources of a file in document order, or its first malformed entry. -/
def sources (c : ConfigFile) : Except ConfigError (List SourceTargets) :=
  c.files.mapM sourceOf

end ConfigFile

/-- One source with one page, which goes to standard output unless an output is given. -/
def SourceTargets.ofFile (source : Path) (output : Option String) :
    Except ConfigError (List SourceTargets) :=
  match output with
  | none => .ok [⟨source, [⟨.standardOutput, .view⟩]⟩]
  | some output =>
    match ConfigFile.plainTarget output with
    | .ok target => .ok [⟨source, [target]⟩]
    | .error problem => .error (.malformed source.text problem)

end ElmPrerender
