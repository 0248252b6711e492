import ElmPrerender.Decimal.Reading
import ElmPrerender.Json.Value
import ElmPrerender.Text.Alphanumeric
import ElmPrerender.Text.Mark
import ElmPrerender.Text.Scan

/-!
Object notation with types: structures with named fields, tuples, lists, maps with keys of any kind,
and values that may be missing. Names of types do not matter here, structures are objects, and
tuples are lists.
-/

namespace ElmPrerender.Ron

open Text (Scan)
open Text.Scan

def isBlank (c : Char) : Bool :=
  let n := c.toNat
  (9 ≤ n && n ≤ 13) || n == 0x20 || n == 0x85 || n == 0x200E || n == 0x200F || n == 0x2028 ||
    n == 0x2029

/-- What follows a comment with as many others open around it. Comments hold whole comments. -/
def afterComment? : Nat → List Char → Option (List Char)
  | 0, '*' :: '/' :: s => some s
  | depth + 1, '*' :: '/' :: s => afterComment? depth s
  | depth, '/' :: '*' :: s => afterComment? (depth + 1) s
  | depth, _ :: s => afterComment? depth s
  | _, [] => none

def gapSteps : Nat → Scan Unit
  | 0 => pure ()
  | fuel + 1 => do
    discard (spanWhile isBlank)
    if ← accept ['/', '/'] then do
      discard (spanWhile (· != '\n'))
      gapSteps fuel
    else if ← accept ['/', '*'] then do
      set (← ofOption (afterComment? 0 (← get)))
      gapSteps fuel

def gap : Scan Unit := do gapSteps (← enough)

/-- Reads the sign if it comes next, behind blanks and comments. -/
def acceptSign (sign : Char) : Scan Bool := do
  gap
  accept [sign]

def expectSign (sign : Char) : Scan Unit := do
  if !(← acceptSign sign) then fail

def isNameChar (c : Char) : Bool := c == '_' || Text.isAlphanumeric c || Text.isMark c

def opensName (c : Char) : Bool := c == '_' || (Text.isAlphanumeric c && !c.isDigit)

/-- Names that are marked as raw may hold more characters. -/
def isRawNameChar (c : Char) : Bool := isNameChar c || c == '.' || c == '+' || c == '-'

/-- The quotes of a raw string: as many number signs as it has, and what follows its first quote. -/
def rawQuotes? (s : List Char) : Option (Nat × List Char) :=
  match s with
  | 'r' :: s =>
    match s.dropWhile (· == '#') with
    | '"' :: rest => some ((s.takeWhile (· == '#')).length, rest)
    | _ => none
  | _ => none

/-- Whether a string or a character of bytes begins. -/
def opensBytes : List Char → Bool
  | 'b' :: '"' :: _ | 'b' :: '\'' :: _ => true
  | 'b' :: s => (rawQuotes? s).isSome
  | _ => false

def name? : Scan (Option String) := fun s =>
  match s with
  | 'r' :: '#' :: rest =>
    let name := rest.takeWhile isRawNameChar
    if name.isEmpty then some (none, s)
    else some (some (String.ofList name), rest.dropWhile isRawNameChar)
  | c :: _ =>
    let name := s.takeWhile isRawNameChar
    if opensName c && name.all isNameChar && (rawQuotes? s).isNone && !opensBytes s then
      some (some (String.ofList name), s.dropWhile isRawNameChar)
    else some (none, s)
  | [] => some (none, [])

/-- The character between the braces of an escape: one to six hexadecimal digits. -/
def bracedCode : Scan Char := do
  expect ['{']
  let digits ← spanWhile Decimal.isHexDigit
  expect ['}']
  if digits.isEmpty || 6 < digits.length then fail
  else ofOption (codePoint? (Decimal.radixValue 16 digits))

/-- The character after a backslash. -/
def escape : Scan Char := do
  match ← next with
  | '\'' => pure '\''
  | '"' => pure '"'
  | '\\' => pure '\\'
  | 'n' => pure '\n'
  | 'r' => pure '\r'
  | 't' => pure '\t'
  | '0' => pure (Char.ofNat 0)
  | 'x' => hexEscape 2
  | 'u' => bracedCode
  | _ => fail

/-- The rest of a string up to its closing quote. -/
def stringRest : Nat → Scan (List Char)
  | 0 => fail
  | fuel + 1 => do
    match ← next with
    | '"' => pure []
    | '\\' => do
      let c ← escape
      let rest ← stringRest fuel
      pure (c :: rest)
    | c => do
      let rest ← stringRest fuel
      pure (c :: rest)

/-- The rest of a raw string, which ends at the first quote with enough number signs behind it. -/
def rawRest (signs : Nat) : List Char → Option (List Char × List Char)
  | [] => none
  | c :: s =>
    if c = '"' && (s.takeWhile (· == '#')).length ≥ signs then some ([], s.drop signs)
    else (rawRest signs s).map fun (text, rest) => (c :: text, rest)

def string? : Scan (Option String) := do
  if ← accept ['"'] then (some ∘ String.ofList) <$> stringRest (← enough)
  else
    match rawQuotes? (← get) with
    | none => pure none
    | some (signs, s) => do
      let (text, rest) ← ofOption (rawRest signs s)
      set rest
      pure (some (String.ofList text))

/-- A character between single quotes, the first already read. -/
def character : Scan String := do
  let c ← next
  let c ← if c = '\\' then escape else pure c
  expect ['\'']
  pure (String.ofList [c])

def isFloatChar (c : Char) : Bool :=
  c.isDigit || c == 'e' || c == 'E' || c == '.' || c == '+' || c == '-' || c == '_'

def isWholeChar (c : Char) : Bool := Decimal.isHexDigit c || c == '_'

/-- A float without its underscores, which may stand neither first nor behind the point. -/
def floatDigits? : Bool → List Char → Option (List Char)
  | _, [] => some []
  | mayGroup, c :: s =>
    if c = '_' then if mayGroup then floatDigits? true s else none
    else
      let mayGroup := if c = '.' then false else mayGroup || c.isAlphanum
      (floatDigits? mayGroup s).map (c :: ·)

def float : Scan Json.Value := do
  if ← accept "-inf".toList then return .number (.float (.infinity true))
  let word ← spanWhile isFloatChar
  if !(← accept ['f', '3', '2']) then discard (accept ['f', '6', '4'])
  let digits ← ofOption (floatDigits? false word)
  let x ← ofOption (Decimal.float? digits)
  pure (.number (.float x))

/-- The notations of whole numbers. -/
def radix : Scan (Nat × (Char → Bool)) := do
  if ← accept ['0', 'b'] then pure (2, Decimal.isBinaryDigit)
  else if ← accept ['0', 'o'] then pure (8, Decimal.isOctalDigit)
  else if ← accept ['0', 'x'] then pure (16, Decimal.isHexDigit)
  else pure (10, Char.isDigit)

/-- Whether a number lies within a type with as many bits. -/
def fits (isSigned : Bool) (bits : Nat) (i : Int) : Bool :=
  if isSigned then -(Nat.pow 2 (bits - 1) : Int) ≤ i && i < Nat.pow 2 (bits - 1)
  else 0 ≤ i && i < Nat.pow 2 bits

/-- The type that a number may name, none for anything else. -/
def typeLimits? (word : List Char) : Option (Int → Bool) :=
  match String.ofList word with
  | "" => some fun i => if i < 0 then fits true 64 i else fits false 64 i
  | "i8" => some (fits true 8)
  | "i16" => some (fits true 16)
  | "i32" => some (fits true 32)
  | "i64" => some (fits true 64)
  | "u8" => some (fits false 8)
  | "u16" => some (fits false 16)
  | "u32" => some (fits false 32)
  | "u64" => some (fits false 64)
  | _ => none

def whole : Scan Json.Value := do
  let negative ← accept ['-']
  if !negative then discard (accept ['+'])
  let (radix, isDigit) ← radix
  let word ← spanWhile isWholeChar
  let digits := word.filter (· != '_')
  if word.isEmpty || word.head? == some '_' || !digits.all isDigit then fail
  let limits ← ofOption (typeLimits? (← spanWhile isNameChar))
  let n := Decimal.radixValue radix digits
  let i : Int := if negative then -(n : Int) else n
  if limits i then pure (.number (.integer i)) else fail

/-- Whether a number is written in digits of another radix than ten. -/
def hasRadix : List Char → Bool
  | '0' :: c :: _ => c == 'b' || c == 'o' || c == 'x'
  | _ => false

/-- A number with a point, or with a sign within it, is a float; a whole number that does not fit,
or that has a power of ten, is one as well. -/
def number : Scan Json.Value := do
  let s ← get
  let unsigned := match s with
    | '+' :: s | '-' :: s => s
    | s => s
  if (unsigned.takeWhile isWholeChar).length < (unsigned.takeWhile isFloatChar).length then float
  else
    match whole s with
    | some (v, rest) => do
      set rest
      pure v
    | none => if hasRadix unsigned then fail else float

/-- Items with commas between them, up to a closing bracket. -/
def items {α : Type} (close : Char) (item : Scan α) : Nat → Scan (List α)
  | 0 => fail
  | fuel + 1 => do
    if ← acceptSign close then pure []
    else do
      let a ← item
      if ← acceptSign ',' then do
        let rest ← items close item fuel
        pure (a :: rest)
      else do
        expectSign close
        pure [a]

/-- A named field of a structure. -/
def field (item : Scan Json.Value) : Scan (String × Json.Value) := do
  match ← name? with
  | none => fail
  | some name => do
    expectSign ':'
    gap
    let v ← item
    pure (name, v)

/-- An entry of a map, whose key has to be a text. -/
def entry (item : Scan Json.Value) : Scan (String × Json.Value) := do
  match ← item with
  | .string key => do
    expectSign ':'
    gap
    let v ← item
    pure (key, v)
  | _ => fail

/-- Whether a named field comes next. -/
def startsField : Scan Bool := fun s =>
  match (do discard name?; gap; accept [':'] : Scan Bool) s with
  | some (found, _) => some (found, s)
  | none => some (false, s)

def object (written : List (String × Json.Value)) : Json.Value :=
  .object (Json.Members.ofList written)

/-- What the brackets of a structure or a tuple enclose; nothing at all is no value. -/
def structureRest (item : Scan Json.Value) : Scan Json.Value := do
  gap
  if ← accept [')'] then pure .null
  else if ← startsField then object <$> items ')' (field item) (← enough)
  else .array <$> items ')' item (← enough)

/-- The one value in the brackets behind `Some`. -/
def someRest (item : Scan Json.Value) : Scan Json.Value := do
  match ← items ')' item (← enough) with
  | [v] => pure v
  | _ => fail

/-- A value that begins with a name. -/
def named (item : Scan Json.Value) (name : String) : Scan Json.Value := do
  match name with
  | "true" => pure (.bool true)
  | "false" => pure (.bool false)
  | "inf" => pure (.number (.float (.infinity false)))
  | "NaN" => pure (.number (.float .nan))
  | "None" => pure .null
  | _ => do
    if ← acceptSign '(' then if name = "Some" then someRest item else structureRest item
    else pure .null

/-- A value with at most `depth` others around any part of it. -/
def value : Nat → Scan Json.Value
  | 0 => fail
  | depth + 1 => do
    match ← name? with
    | some name => named (value depth) name
    | none =>
      match ← string? with
      | some s => pure (.string s)
      | none => do
        if ← accept ['('] then structureRest (value depth)
        else if ← accept ['['] then .array <$> items ']' (value depth) (← enough)
        else if ← accept ['{'] then
          object <$> items '}' (entry (value depth)) (← enough)
        else if ← accept ['\''] then .string <$> character
        else number

/-- The number of values that may enclose each other. -/
def maxDepth : Nat := 129

/-- The changes to the notation that a document may ask for. None of them matters to a value whose
type is not known. -/
def extensions : List String :=
  ["unwrap_newtypes", "implicit_some", "unwrap_variant_newtypes", "explicit_struct_names"]

def extension : Scan Unit := do
  match ← name? with
  | some name => if extensions.contains name then pure () else fail
  | none => fail

/-- The changes that a document asks for at its beginning. -/
def extensionLines : Nat → Scan Unit
  | 0 => pure ()
  | fuel + 1 => do
    if ← acceptSign '#' then do
      expectSign '!'
      expectSign '['
      gap
      expect "enable".toList
      expectSign '('
      discard (items ')' extension (← enough))
      expectSign ']'
      extensionLines fuel

/-- The value that a text holds. -/
def parse? (text : String) : Option Json.Value :=
  let content : Scan Json.Value := do
    extensionLines (← enough)
    gap
    let v ← value maxDepth
    gap
    pure v
  run? content text.toList

end ElmPrerender.Ron
