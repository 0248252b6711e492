import ElmPrerender.Decimal.Binary64

/-!
TOML documents: values, and the tables that a document builds up line by line. A table knows how it
came about, because that decides what may still be added to it.
-/

namespace ElmPrerender.Toml

/-- How a table came about. -/
inductive Origin where
  /-- On the way to a table with a header. -/
  | passed
  | header
  /-- On the way to a dotted key. -/
  | dotted
  | inline
  deriving DecidableEq, Repr

inductive Value where
  | bool (value : Bool)
  | integer (value : Int)
  | float (value : Decimal.Binary64)
  | string (value : String)
  /-- A date, a time or both, by its text. -/
  | moment (text : String)
  | array (items : List Value)
  /-- Tables with a common header, each with its members, the last one first. -/
  | tables (lastFirst : List (List (String × Value)))
  | table (origin : Origin) (members : List (String × Value))
  deriving Repr, Inhabited

abbrev Members := List (String × Value)

namespace Members

def get? (members : Members) (key : String) : Option Value :=
  (List.find? (fun m => m.1 == key) members).map (·.2)

def set : Members → String → Value → Members
  | [], key, v => [(key, v)]
  | (other, old) :: rest, key, v =>
    if other = key then (other, v) :: rest else (other, old) :: set rest key v

/-- Gives a new key its value; the parts of the key before the last name tables that dotted keys
may add to. -/
def assign (members : Members) : List String → Value → Option Members
  | [], _ => none
  | [key], v => if (members.get? key).isSome then none else some (members.set key v)
  | key :: path, v =>
    match members.get? key with
    | none => do some (members.set key (.table .dotted (← assign [] path v)))
    | some (.table .passed inner) => do
      some (members.set key (.table .passed (← assign inner path v)))
    | some (.table .dotted inner) => do
      some (members.set key (.table .dotted (← assign inner path v)))
    | some _ => none

/-- Changes the members of the table that a header names, which it leads to through tables and the
last ones of table lists. `last` treats the final key. -/
def follow (last : Members → String → Option Members) (members : Members) :
    List String → Option Members
  | [] => none
  | [key] => last members key
  | key :: path =>
    match members.get? key with
    | none => do some (members.set key (.table .passed (← follow last [] path)))
    | some (.table .inline _) => none
    | some (.table origin inner) => do
      some (members.set key (.table origin (← follow last inner path)))
    | some (.tables (inner :: earlier)) => do
      some (members.set key (.tables ((← follow last inner path) :: earlier)))
    | some _ => none

/-- Opens the table of a header, which must not have one yet. -/
def openTable (members : Members) (key : String) : Option Members :=
  match members.get? key with
  | none => some (members.set key (.table .header []))
  | some (.table .passed inner) => some (members.set key (.table .header inner))
  | some _ => none

/-- Adds an empty table to the list that a double header names. -/
def appendTable (members : Members) (key : String) : Option Members :=
  match members.get? key with
  | none => some (members.set key (.tables [[]]))
  | some (.tables lists) => some (members.set key (.tables ([] :: lists)))
  | some _ => none

/-- Assigns in the table that was opened last. -/
def assignUnder (members : Members) (header : List String) (path : List String) (v : Value) :
    Option Members :=
  match header with
  | [] => members.assign path v
  | _ =>
    let last (members : Members) (key : String) : Option Members :=
      match members.get? key with
      | some (.table origin inner) => do
        some (members.set key (.table origin (← assign inner path v)))
      | some (.tables (inner :: earlier)) => do
        some (members.set key (.tables ((← assign inner path v) :: earlier)))
      | _ => none
    members.follow last header

end Members

end ElmPrerender.Toml
