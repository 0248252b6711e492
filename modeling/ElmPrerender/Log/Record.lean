import ElmPrerender.Json.Printer
import ElmPrerender.Log.Level
import ElmPrerender.Text.Quoted

/-!
Records, the form in which events are written to the log: a line of words with the fields behind
them, or a JSON object on a line of its own.
-/

namespace ElmPrerender.Log

/-- A field of a record. Some texts are shown as they are and some between quotes. -/
inductive FieldValue where
  | shown (text : String)
  | quoted (text : String)
  | number (value : Int)
  deriving DecidableEq, Repr

/-- An event as it is written. -/
structure Record where
  level : Level
  /-- The part of the program that tells it. -/
  target : String
  message : String
  fields : List (String × FieldValue)
  deriving DecidableEq, Repr

/-- The two forms of a record. -/
inductive Form where
  | words
  | json
  deriving DecidableEq, Repr

namespace FieldValue

def words : FieldValue → String
  | .shown text => text
  | .quoted text => Text.quoted text
  | .number value => toString value

def json : FieldValue → Json.Value
  | .shown text | .quoted text => .string text
  | .number value => .number (.integer value)

end FieldValue

namespace Record

/-- The message counts as a field. -/
def fieldNames (r : Record) : List String := "message" :: r.fields.map (·.1)

def fieldWords (f : String × FieldValue) : String := " " ++ f.1 ++ "=" ++ f.2.words

/-- A text that is shown as it is may bring line breaks of its own. -/
def words (r : Record) : String :=
  r.level.name ++ " " ++ r.target ++ ": " ++ r.message ++ String.join (r.fields.map fieldWords)

def json (r : Record) : Json.Value :=
  .object
    [("level", .string r.level.name),
      ("fields",
        .object (("message", .string r.message) :: r.fields.map fun f => (f.1, f.2.json))),
      ("target", .string r.target)]

/-- The text of a record, without a line feed at its end. -/
def text (form : Form) (r : Record) : String :=
  match form with
  | .words => r.words
  | .json => r.json.compactText

end Record

end ElmPrerender.Log
