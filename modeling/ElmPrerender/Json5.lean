import ElmPrerender.Decimal.Reading
import ElmPrerender.Json.Value
import ElmPrerender.Text.Alphanumeric
import ElmPrerender.Text.Mark
import ElmPrerender.Text.Scan
import ElmPrerender.Text.White

/-!
JSON as people write it: comments, names without quotes, single quotes, a comma behind the last
item, and more notations for numbers.
-/

namespace ElmPrerender.Json5

open Text (Scan)
open Text.Scan

def isLineEnd (c : Char) : Bool :=
  c == '\n' || c == '\r' || c.toNat == 0x2028 || c.toNat == 0x2029

def isBlank (c : Char) : Bool := (Text.isWhite c && c.toNat != 0x85) || c.toNat == 0xFEFF

/-- What follows the end of a comment. -/
def afterComment? : List Char → Option (List Char)
  | '*' :: '/' :: s => some s
  | _ :: s => afterComment? s
  | [] => none

/-- Blanks and comments. -/
def gapSteps : Nat → Scan Unit
  | 0 => pure ()
  | fuel + 1 => do
    discard (spanWhile isBlank)
    if ← accept ['/', '/'] then do
      discard (spanWhile (!isLineEnd ·))
      gapSteps fuel
    else if ← accept ['/', '*'] then do
      set (← ofOption (afterComment? (← get)))
      gapSteps fuel

def gap : Scan Unit := do gapSteps (← enough)

/-- Reads the sign if it comes next, behind blanks and comments. -/
def acceptSign (sign : Char) : Scan Bool := do
  gap
  accept [sign]

/-- Hexadecimal numbers have 32 bits and no sign. -/
def hexNumber? (digits : List Char) : Option Json.Value :=
  if digits.isEmpty || !digits.all Decimal.isHexDigit then none
  else
    let n := Decimal.radixValue 16 digits
    if n ≤ 0xFFFFFFFF then some (.number (.integer n)) else none

/-- A number without fraction and power of ten is a whole one and has to fit 64 bits. No zero
stands in front of other digits. -/
def decimalNumber? (word : List Char) : Option Json.Value := do
  let (negative, digits) := Decimal.signed word
  match digits with
  | '0' :: c :: _ => if c.isDigit then none
  | _ => pure ()
  if digits.all Char.isDigit then
    let i ← Decimal.signed64? word
    some (.number (.integer i))
  else
    let x ← Decimal.finite? negative digits
    if x.isFinite then some (.number (.float x)) else none

def number? (word : List Char) : Option Json.Value :=
  if word = "Infinity".toList then some (.number (.float (.infinity false)))
  else if word = "-Infinity".toList then some (.number (.float (.infinity true)))
  else if word = "NaN".toList || word = "-NaN".toList then some (.number (.float .nan))
  else match word with
    | '0' :: 'x' :: digits | '0' :: 'X' :: digits => hexNumber? digits
    | word => decimalNumber? word

def isNumberChar (c : Char) : Bool := c.isAlphanum || c == '+' || c == '-' || c == '.'

def number : Scan Json.Value := do
  ofOption (number? (← spanWhile isNumberChar))

/-- Four hexadecimal digits, or twice four for a character past the first 65536. -/
def unicodeEscape : Scan Char := do
  let first ← hexDigits 4
  if 0xD800 ≤ first && first ≤ 0xDBFF then do
    expect ['\\', 'u']
    let second ← hexDigits 4
    if 0xDC00 ≤ second && second ≤ 0xDFFF then
      pure (Char.ofNat (0x10000 + (first - 0xD800) * 0x400 + (second - 0xDC00)))
    else fail
  else ofOption (codePoint? first)

/-- What a backslash and the characters behind it stand for: a line end for nothing, and most
characters for themselves. -/
def escape : Scan (List Char) := do
  match ← next with
  | 'b' => pure [Char.ofNat 0x08]
  | 'f' => pure [Char.ofNat 0x0C]
  | 'n' => pure ['\n']
  | 'r' => pure ['\r']
  | 't' => pure ['\t']
  | 'v' => pure [Char.ofNat 0x0B]
  | '0' => pure [Char.ofNat 0]
  | 'x' => (fun c => [c]) <$> hexEscape 2
  | 'u' => (fun c => [c]) <$> unicodeEscape
  | '\r' => do
    discard (accept ['\n'])
    pure []
  | c => if c.isDigit then fail else pure (if isLineEnd c then [] else [c])

/-- The rest of a string up to its closing quote. -/
def stringRest (quote : Char) : Nat → Scan (List Char)
  | 0 => fail
  | fuel + 1 => do
    let c ← next
    if c = quote then pure []
    else if c = '\\' then do
      let cs ← escape
      let rest ← stringRest quote fuel
      pure (cs ++ rest)
    else if isLineEnd c then fail
    else do
      let rest ← stringRest quote fuel
      pure (c :: rest)

def string? : Scan (Option String) := do
  if ← accept ['"'] then (some ∘ String.ofList) <$> stringRest '"' (← enough)
  else if ← accept ['\''] then (some ∘ String.ofList) <$> stringRest '\'' (← enough)
  else pure none

/-- Names begin with a letter, a dollar sign or an underscore. -/
def opensName (c : Char) : Bool :=
  c == '$' || c == '_' || (Text.isAlphanumeric c && !c.isDigit)

def isNameChar (c : Char) : Bool :=
  c == '$' || c == '_' || Text.isAlphanumeric c || Text.isMark c ||
    c.toNat == 0x200C || c.toNat == 0x200D

/-- The rest of a name, whose characters may be escaped. -/
def nameRest : Nat → Scan (List Char)
  | 0 => fail
  | fuel + 1 => do
    let s ← spanWhile isNameChar
    if ← accept ['\\', 'u'] then do
      let c ← unicodeEscape
      let rest ← nameRest fuel
      pure (s ++ c :: rest)
    else pure s

def name : Scan String := do
  match ← string? with
  | some s => pure s
  | none =>
    match ← peek? with
    | none => fail
    | some c => if opensName c || c == '\\' then String.ofList <$> nameRest (← enough) else fail

/-- The items of a list up to its closing bracket. -/
def items (item : Scan Json.Value) : Nat → Scan (List Json.Value)
  | 0 => fail
  | fuel + 1 => do
    if ← acceptSign ']' then pure []
    else do
      let v ← item
      if ← acceptSign ',' then do
        let rest ← items item fuel
        pure (v :: rest)
      else if ← acceptSign ']' then pure [v]
      else fail

/-- The members of an object up to its closing brace. -/
def members (item : Scan Json.Value) : Nat → Scan (List (String × Json.Value))
  | 0 => fail
  | fuel + 1 => do
    if ← acceptSign '}' then pure []
    else do
      let key ← name
      if !(← acceptSign ':') then fail
      let v ← item
      if ← acceptSign ',' then do
        let rest ← members item fuel
        pure ((key, v) :: rest)
      else if ← acceptSign '}' then pure [(key, v)]
      else fail

/-- A value behind blanks and comments. -/
def value : Nat → Scan Json.Value
  | 0 => fail
  | depth + 1 => do
    gap
    if ← accept ['n', 'u', 'l', 'l'] then pure .null
    else if ← accept ['t', 'r', 'u', 'e'] then pure (.bool true)
    else if ← accept ['f', 'a', 'l', 's', 'e'] then pure (.bool false)
    else if ← accept ['['] then .array <$> items (value depth) (← enough)
    else if ← accept ['{'] then
      (fun written => .object (Json.Members.ofList written)) <$> members (value depth) (← enough)
    else
      match ← string? with
      | some s => pure (.string s)
      | none => number

/-- The value that a text holds. -/
def parse? (text : String) : Option Json.Value :=
  let content : Scan Json.Value := do
    let v ← value (← enough)
    gap
    pure v
  run? content text.toList

end ElmPrerender.Json5
