import ElmPrerender.Text.Scan
import ElmPrerender.Toml.Scalar

/-!
TOML documents from texts. Only whether a text is a document matters, so a fault has no place and
no words.
-/

namespace ElmPrerender.Toml

open Text (Scan)
open Text.Scan

def isBlank (c : Char) : Bool := c == ' ' || c == '\t'

def blanks : Scan Unit := do
  discard (spanWhile isBlank)

/-- Control characters, which may stand nowhere but for the tab. -/
def isControl (c : Char) : Bool := (c.toNat < 0x20 && c != '\t') || c.toNat == 0x7F

def comment : Scan Unit := do
  if ← accept ['#'] then
    discard (spanWhile (!isControl ·))

def newline : Scan Bool := do
  if ← accept ['\n'] then pure true else accept ['\r', '\n']

/-- The rest of a line with nothing but a comment on it; at the end of the text there is none. -/
def lineEnd : Scan Unit := do
  blanks
  comment
  if !(← newline) && (← peek?).isSome then fail

/-- Blanks, comments and line breaks. -/
def gap : Nat → Scan Unit
  | 0 => pure ()
  | fuel + 1 => do
    blanks
    comment
    if ← newline then gap fuel

/-- The character after a backslash. -/
def escape : Scan Char := do
  let letter ← peek?
  skip 1
  match letter with
  | some 'b' => pure (Char.ofNat 0x08)
  | some 't' => pure '\t'
  | some 'n' => pure '\n'
  | some 'f' => pure (Char.ofNat 0x0C)
  | some 'r' => pure '\r'
  | some 'e' => pure (Char.ofNat 0x1B)
  | some '"' => pure '"'
  | some '\\' => pure '\\'
  | some 'x' => hexEscape 2
  | some 'u' => hexEscape 4
  | some 'U' => hexEscape 8
  | _ => fail

/-- A string between double quotes, the first already read. -/
def basicRest : Nat → Scan (List Char)
  | 0 => fail
  | fuel + 1 => do
    match ← peek? with
    | none => fail
    | some c =>
      skip 1
      if c = '"' then pure []
      else if c = '\\' then do
        let c ← escape
        let rest ← basicRest fuel
        pure (c :: rest)
      else if isControl c then fail
      else do
        let rest ← basicRest fuel
        pure (c :: rest)

/-- A string between single quotes, the first already read. -/
def literalRest : Scan (List Char) := do
  let s ← spanWhile fun c => c != '\'' && !isControl c
  expect ['\'']
  pure s

/-- Whether a backslash ends its line. -/
def endsLine (s : List Char) : Bool :=
  match s.dropWhile isBlank with
  | '\n' :: _ => true
  | '\r' :: '\n' :: _ => true
  | _ => false

/-- What follows blanks and line breaks. -/
def afterLines : List Char → List Char
  | [] => []
  | '\r' :: '\n' :: r => afterLines r
  | c :: r => if isBlank c || c == '\n' then afterLines r else c :: r

/-- The end of a long string, if it comes next: its last three quotes, and up to two more before
them that belong to the string. -/
def longEnd? (quote : Char) (s : List Char) : Option (Nat × List Char) :=
  let count := min 5 (s.takeWhile (· == quote)).length
  if 3 ≤ count then some (count - 3, s.drop count) else none

/-- A long string, its opening quotes and the line break behind them already read. -/
def longRest (quote : Char) (escapes : Bool) : Nat → Scan (List Char)
  | 0 => fail
  | fuel + 1 => do
    let s ← get
    match longEnd? quote s with
    | some (count, rest) => do
      set rest
      pure (List.replicate count quote)
    | none =>
      match s with
      | [] => fail
      | c :: rest => do
        if c = '\\' && escapes then
          if endsLine rest then do
            set (afterLines rest)
            longRest quote escapes fuel
          else do
            set rest
            let c ← escape
            let rest ← longRest quote escapes fuel
            pure (c :: rest)
        else if c = '\r' then do
          set rest
          expect ['\n']
          let rest ← longRest quote escapes fuel
          pure ('\r' :: '\n' :: rest)
        else if c != '\n' && isControl c then fail
        else do
          set rest
          let rest ← longRest quote escapes fuel
          pure (c :: rest)

def long (quote : Char) (escapes : Bool) : Scan (List Char) := do
  discard newline
  longRest quote escapes (← enough)

/-- A string on one line. -/
def shortString? : Scan (Option (List Char)) := do
  if ← accept ['"'] then some <$> basicRest (← enough)
  else if ← accept ['\''] then some <$> literalRest
  else pure none

/-- A string in any of the four notations. -/
def string? : Scan (Option (List Char)) := do
  if ← accept ['"', '"', '"'] then some <$> long '"' true
  else if ← accept ['\'', '\'', '\''] then some <$> long '\'' false
  else shortString?

def isBareKey (c : Char) : Bool := c.isAlphanum || c == '_' || c == '-'

def simpleKey : Scan String := do
  match ← shortString? with
  | some s => pure (String.ofList s)
  | none => do
    let s ← spanWhile isBareKey
    if s.isEmpty then fail else pure (String.ofList s)

/-- The parts of a key, which dots divide: at most as many as the first argument says. -/
def keyParts : Nat → Scan (List String)
  | 0 => fail
  | fuel + 1 => do
    blanks
    let part ← simpleKey
    blanks
    if ← accept ['.'] then do
      let rest ← keyParts fuel
      pure (part :: rest)
    else pure [part]

/-- How many parts a key may have, and how many arrays and inline tables may enclose each
other. -/
def maxDepth : Nat := 80

def key : Scan (List String) := keyParts maxDepth

def isWordChar (c : Char) : Bool :=
  c.isAlphanum || c == '_' || c == '+' || c == '-' || c == '.' || c == ':'

/-- A date may go on behind a blank with a time. -/
def scalar : Scan Value := do
  let word ← spanWhile isWordChar
  let s ← get
  let word ←
    if (date? word).any (·.2.isEmpty) && s.head? == some ' ' && (time? s.tail).isSome then do
      skip 1
      let time ← spanWhile isWordChar
      pure (word ++ ' ' :: time)
    else pure word
  match scalar? word with
  | some v => pure v
  | none => fail

/-- The items of an array up to its closing bracket. -/
def arrayItems (item : Scan Value) : Nat → Scan (List Value)
  | 0 => fail
  | fuel + 1 => do
    gap (fuel + 1)
    if ← accept [']'] then pure []
    else do
      let v ← item
      gap (fuel + 1)
      if ← accept [','] then do
        let rest ← arrayItems item fuel
        pure (v :: rest)
      else do
        expect [']']
        pure [v]

/-- The members of an inline table up to its closing brace. -/
def inlineMembers (item : Scan Value) : Nat → Members → Scan Members
  | 0, _ => fail
  | fuel + 1, members => do
    gap (fuel + 1)
    if ← accept ['}'] then pure members
    else do
      let path ← key
      gap (fuel + 1)
      expect ['=']
      gap (fuel + 1)
      let v ← item
      match members.assign path v with
      | none => fail
      | some members => do
        gap (fuel + 1)
        if ← accept [','] then inlineMembers item fuel members
        else do
          expect ['}']
          pure members

/-- A value that holds no others. -/
def simpleValue : Scan Value := do
  match ← string? with
  | some s => pure (.string (String.ofList s))
  | none => scalar

/-- A value with at most `depth` arrays and inline tables inside each other. -/
def value : Nat → Scan Value
  | 0 => simpleValue
  | depth + 1 => do
    if ← accept ['['] then .array <$> arrayItems (value depth) (← enough)
    else if ← accept ['{'] then
      .table .inline <$> inlineMembers (value depth) (← enough) []
    else simpleValue

/-- A document so far, and the header that its next lines stand under. -/
structure Progress where
  members : Members
  header : List String

/-- One line of a document, or several that make up one value. -/
def line (p : Progress) : Scan Progress := do
  blanks
  match ← peek? with
  | none => pure p
  | some c =>
    if c = '#' || c = '\n' || c = '\r' then do
      lineEnd
      pure p
    else if ← accept ['[', '['] then do
      let path ← key
      expect [']', ']']
      lineEnd
      match p.members.follow Members.appendTable path with
      | some members => pure ⟨members, path⟩
      | none => fail
    else if ← accept ['['] then do
      let path ← key
      expect [']']
      lineEnd
      match p.members.follow Members.openTable path with
      | some members => pure ⟨members, path⟩
      | none => fail
    else do
      let path ← key
      expect ['=']
      blanks
      let v ← value maxDepth
      lineEnd
      match p.members.assignUnder p.header path v with
      | some members => pure ⟨members, p.header⟩
      | none => fail

def document : Nat → Progress → Scan Members
  | 0, _ => fail
  | fuel + 1, p => do
    if (← peek?).isNone then pure p.members
    else document fuel (← line p)

/-- The members of the document that a text holds. -/
def parse? (text : String) : Option Members :=
  let s := text.toList
  run? (document (s.length + 2) ⟨[], []⟩) s

end ElmPrerender.Toml
