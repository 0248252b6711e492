import ElmPrerender.Json.Typed

/-!
The record that a configuration file uses for one page: its output and the view function. Read from
a text it may also be the list of the two; read from a value it has to be an object.
-/

namespace ElmPrerender

structure TargetRecord where
  output : String
  viewFunction : String
  deriving DecidableEq, Repr

namespace TargetRecord

def outputField : String := "output"
def viewField : String := "viewFunction"
def fields : List String := [outputField, viewField]

def expected : String := "struct TargetRecord with 2 elements"

def ofFields (values : List (String × String)) : Except Json.Cause TargetRecord := do
  let output ← Json.Reader.required values outputField
  let view ← Json.Reader.required values viewField
  pure ⟨output, view⟩

def reader (depth : Nat) : Json.Reader TargetRecord :=
  Json.Reader.record depth "struct TargetRecord" fields (fun _ _ => Json.Reader.string) ofFields
    fun _ => do
      let pair ← Json.Reader.twoItems Json.Reader.string Json.Reader.string expected
      pure (pair.map fun (output, view) => ⟨output, view⟩)

/-- The record that a text holds. -/
def parse (text : String) : Except Json.SyntaxError TargetRecord :=
  Json.Reader.parse (reader Json.Reader.maxDepth) (Text.Utf8.ofString text)

/-- The string in a member of a record. -/
def fieldOfMember (m : String × Json.Value) : Except Json.Cause (String × String) :=
  if !fields.contains m.1 then .error (.unknownField m.1 fields)
  else match m.2 with
    | .string s => .ok (m.1, s)
    | v => .error (.wrongKind (.ofValue v) "a string")

/-- The record with the given members; the first wrong one is reported. -/
def ofMembers (members : Json.Members) : Except Json.Cause TargetRecord := do
  ofFields (← members.mapM fieldOfMember)

def toValue (r : TargetRecord) : Json.Value :=
  .object [(outputField, .string r.output), (viewField, .string r.viewFunction)]

end TargetRecord

end ElmPrerender
