import ElmPrerender.Json.Reader

/-!
JSON values from texts. Lists and objects may be nested up to a fixed depth. Members are first read
as they are written; only then does a repeated name take its last value.
-/

namespace ElmPrerender.Json

namespace Reader

variable {α : Type}

/-- Whether a list goes on, and to the byte where its next item begins. -/
def hasItem (first : Bool) : Reader Bool := do
  match ← peek? with
  | none => failAtNext .endInList
  | some b =>
    if b = byte ']' then pure false
    else if first then pure true
    else if b = byte ',' then do
      skipByte
      match ← peek? with
      | none => failAtNext .endInValue
      | some b => if b = byte ']' then failAtNext .trailingComma else pure true
    else failAtNext .expectedListCommaOrEnd

/-- Whether an object goes on, and to behind the quote that opens the next name. -/
def hasMember (first : Bool) : Reader Bool := do
  match ← peek? with
  | none => failAtNext .endInObject
  | some b =>
    if b = byte '}' then pure false
    else if first then
      if b = byte '"' then do
        skipByte
        pure true
      else failAtNext .keyMustBeString
    else if b = byte ',' then do
      skipByte
      match ← peek? with
      | none => failAtNext .endInValue
      | some b =>
        if b = byte '"' then do
          skipByte
          pure true
        else if b = byte '}' then failAtNext .trailingComma
        else failAtNext .keyMustBeString
    else failAtNext .expectedObjectCommaOrEnd

def colon : Reader Unit := do
  match ← peek? with
  | none => failAtNext .endInObject
  | some b => if b = byte ':' then skipByte else failAtNext .expectedColon

/-- Tries to read the end of a list: what is in its way, if anything, and where the try ended. -/
def closeList (rest : Bytes) : Option Cause × Bytes :=
  match rest.dropWhile isBlank with
  | [] => (some .endInList, [])
  | b :: r =>
    if b = byte ']' then (none, r)
    else if b = byte ',' then
      let r := r.dropWhile isBlank
      (some (if nextIs (· == byte ']') r then .trailingComma else .trailingCharacters), r)
    else (some .trailingCharacters, b :: r)

/-- Tries to read the end of an object. -/
def closeObject (rest : Bytes) : Option Cause × Bytes :=
  match rest.dropWhile isBlank with
  | [] => (some .endInObject, [])
  | b :: r =>
    if b = byte '}' then (none, r)
    else if b = byte ',' then (some .trailingComma, b :: r)
    else (some .trailingCharacters, b :: r)

/-- What a bracket encloses. The content's verdict stands back behind a fault of its syntax and
wins over a missing end; it is then placed where the try to read the end stopped. -/
def enclosed (close : Bytes → Option Cause × Bytes) (content : Reader (Except Cause α)) :
    Reader α := fun rest => do
  let (verdict, rest) ← content rest
  match verdict, close rest with
  | .ok a, (none, rest) => .ok (a, rest)
  | .ok _, (some cause, rest) => failAtNext cause rest
  | .error cause, (_, rest) => fail cause rest

/-- The items of a list up to its end, which is not read. -/
def items (item : Reader α) : Nat → Bool → Reader (List α)
  | 0, _ => pure []
  | fuel + 1, first => do
    if ← hasItem first then do
      let a ← item
      let rest ← items item fuel false
      pure (a :: rest)
    else pure []

/-- The members of an object up to its end, as they are written. -/
def members (item : Reader α) : Nat → Bool → Reader (List (String × α))
  | 0, _ => pure []
  | fuel + 1, first => do
    if ← hasMember first then do
      let name ← stringRest
      colon
      let a ← item
      let rest ← members item fuel false
      pure ((name, a) :: rest)
    else pure []

/-- A list whose opening bracket has been read. -/
def listRest (item : Reader α) : Reader (List α) := fun rest =>
  enclosed closeList (.ok <$> items item (rest.length + 1) true) rest

/-- An object whose opening brace has been read. -/
def objectRest (item : Reader α) : Reader (List (String × α)) := fun rest =>
  enclosed closeObject (.ok <$> members item (rest.length + 1) true) rest

/-- A value whose items and members are read by `nested`; without it none may follow. -/
def valueOver (nested : Option (Reader Value)) : Reader Value := do
  match ← peek? with
  | none => failAtNext .endInValue
  | some b =>
    if b = byte 'n' then do
      skipByte
      keyword ['u', 'l', 'l']
      pure .null
    else if b = byte 't' then do
      skipByte
      keyword ['r', 'u', 'e']
      pure (.bool true)
    else if b = byte 'f' then do
      skipByte
      keyword ['a', 'l', 's', 'e']
      pure (.bool false)
    else if b = byte '-' || isDigit b then .number <$> signedNumber
    else if b = byte '"' then do
      skipByte
      .string <$> stringRest
    else if b = byte '[' then
      match nested with
      | none => failAtNext .tooDeep
      | some item => do
        skipByte
        .array <$> listRest item
    else if b = byte '{' then
      match nested with
      | none => failAtNext .tooDeep
      | some item => do
        skipByte
        (fun written => .object (Members.ofList written)) <$> objectRest item
    else failAtNext .expectedValue

/-- A value with at most `depth` lists and objects around any part of it. -/
def value : Nat → Reader Value
  | 0 => valueOver none
  | depth + 1 => valueOver (some (value depth))

/-- The number of lists and objects that may enclose each other. -/
def maxDepth : Nat := 127

/-- Nothing but blanks may follow. -/
def finish : Reader Unit := do
  match ← peek? with
  | none => pure ()
  | some _ => failAtNext .trailingCharacters

/-- The whole of a text. -/
def parse (content : Reader α) (text : Bytes) : Except SyntaxError α :=
  match (do let a ← content; finish; pure a : Reader α) text with
  | .ok (a, _) => .ok a
  | .error fault => .error (fault.inText text)

end Reader

namespace Value

/-- The value that a text holds. -/
def parse (text : String) : Except SyntaxError Value :=
  Reader.parse (Reader.value Reader.maxDepth) (Text.Utf8.ofString text)

end Value

end ElmPrerender.Json
