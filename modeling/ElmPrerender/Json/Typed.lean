import ElmPrerender.Json.Parser

/-!
Reading a text as a value of a known kind: strings, lists, pairs, objects, and records with a fixed
list of fields. A record may also be written as the list of its fields in order. The wrong kind is
reported after the value that is there, if it is a simple one.
-/

namespace ElmPrerender.Json.Reader

variable {α β : Type}

/-- The kind of the value that comes next. Simple values are read. -/
def found : Reader Found := do
  match ← peek? with
  | none => failAtNext .expectedValue
  | some b =>
    if b = byte 'n' then do
      skipByte
      keyword ['u', 'l', 'l']
      pure .null
    else if b = byte 't' then do
      skipByte
      keyword ['r', 'u', 'e']
      pure (.bool true)
    else if b = byte 'f' then do
      skipByte
      keyword ['a', 'l', 's', 'e']
      pure (.bool false)
    else if b = byte '-' || isDigit b then Found.ofNumber <$> signedNumber
    else if b = byte '"' then do
      skipByte
      .string <$> stringRest
    else if b = byte '[' then pure .array
    else if b = byte '{' then pure .object
    else failAtNext .expectedValue

def wrongKind (expected : String) : Reader α := do
  fail (.wrongKind (← found) expected)

/-- The first byte of a value, which has to be there. -/
def peekValue : Reader UInt8 := do
  match ← peek? with
  | none => failAtNext .endInValue
  | some b => pure b

def string : Reader String := do
  if (← peekValue) = byte '"' then do
    skipByte
    stringRest
  else wrongKind "a string"

/-- Opens a list or an object one level further down. -/
def openAt (depth : Nat) (content : Nat → Reader α) : Reader α :=
  match depth with
  | 0 => failAtNext .tooDeep
  | depth + 1 => do
    skipByte
    content depth

def list (expected : String) (depth : Nat) (item : Nat → Reader α) : Reader (List α) := do
  if (← peekValue) = byte '[' then openAt depth fun depth => listRest (item depth)
  else wrongKind expected

/-- The next item of a list of known length, of which `length` items are there already. -/
def nextItem (item : Reader α) (length : Nat) (expected : String) :
    Reader (Except Cause α) := do
  if ← hasItem (length == 0) then .ok <$> item
  else pure (.error (.wrongLength length expected))

/-- Two items of one list. -/
def twoItems (first : Reader α) (second : Reader β) (expected : String) :
    Reader (Except Cause (α × β)) := do
  match ← nextItem first 0 expected with
  | .error cause => pure (.error cause)
  | .ok a =>
    match ← nextItem second 1 expected with
    | .error cause => pure (.error cause)
    | .ok b => pure (.ok (a, b))

def oneItem (item : Reader α) (expected : String) : Reader (Except Cause α) :=
  nextItem item 0 expected

def pair (depth : Nat) (first : Reader α) (second : Reader β) : Reader (α × β) := do
  let expected := "a tuple of size 2"
  if (← peekValue) = byte '[' then
    openAt depth fun _ => enclosed closeList (twoItems first second expected)
  else wrongKind expected

/-- An object of values, its members as they are written. -/
def object (depth : Nat) : Reader (List (String × Value)) := do
  if (← peekValue) = byte '{' then openAt depth fun depth => objectRest (value depth)
  else wrongKind "a map"

/-- The members of a record, each name one of `fields` and met once. `item` reads the value of the
field with a given name. -/
def fieldValues (fields : List String) (item : String → Reader α) :
    Nat → Bool → List (String × α) → Reader (Except Cause (List (String × α)))
  | 0, _, done => pure (.ok done)
  | fuel + 1, first, done => do
    if ← hasMember first then do
      let name ← stringRest
      if !fields.contains name then pure (.error (.unknownField name fields))
      else if done.any (·.1 == name) then pure (.error (.duplicateField name))
      else do
        colon
        let a ← item name
        fieldValues fields item fuel false (done ++ [(name, a)])
    else pure (.ok done)

/-- A record: an object with exactly the given fields, or the list of their values. -/
def record (depth : Nat) (expected : String) (fields : List String)
    (item : Nat → String → Reader α)
    (ofFields : List (String × α) → Except Cause β)
    (ofList : Nat → Reader (Except Cause β)) : Reader β := do
  let b ← peekValue
  if b = byte '[' then openAt depth fun depth => enclosed closeList (ofList depth)
  else if b = byte '{' then
    openAt depth fun depth rest =>
      enclosed closeObject
        (do
          let values ← fieldValues fields (item depth) (rest.length + 1) true []
          pure (values.bind ofFields))
        rest
  else wrongKind expected

/-- The value of a field that has to be there. -/
def required (values : List (String × α)) (name : String) : Except Cause α :=
  match values.find? (·.1 == name) with
  | some (_, a) => .ok a
  | none => .error (.missingField name)

end ElmPrerender.Json.Reader
