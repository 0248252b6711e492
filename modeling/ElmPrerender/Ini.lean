import ElmPrerender.Json.Value
import ElmPrerender.Text.Scan
import ElmPrerender.Text.White

/-!
INI texts: keys with values, one to a line, some of them in sections. All values are strings. A
value may have parts between quotes, and a backslash escapes.
-/

namespace ElmPrerender.Ini

open Text (Scan)
open Text.Scan

/-- What a backslash and the character behind it stand for: a line end for nothing, and most
characters for themselves. -/
def escape : Scan (List Char) := do
  match ← next with
  | '\n' => pure []
  | '0' => pure [Char.ofNat 0]
  | 'a' => pure [Char.ofNat 0x07]
  | 'b' => pure [Char.ofNat 0x08]
  | 't' => pure ['\t']
  | 'r' => pure ['\r']
  | 'n' => pure ['\n']
  | 'x' => (fun c => [c]) <$> hexEscape 4
  | c => pure [c]

/-- The characters before one that `stops` the text, which is left. `mayEnd` tells whether the end
of the file stops it as well. -/
def textUntil (stops : Char → Bool) (mayEnd : Bool) : Nat → Scan (List Char)
  | 0 => fail
  | fuel + 1 => do
    match ← peek? with
    | none => if mayEnd then pure [] else fail
    | some c =>
      if stops c then pure []
      else do
        skip 1
        let cs ← if c != '\\' then pure [c]
          else if (← peek?).isNone then pure ['\\']
          else escape
        let rest ← textUntil stops mayEnd fuel
        pure (cs ++ rest)

def isLineEnd (c : Char) : Bool := c == '\n' || c == '\r'

/-- The rest of a value. White space around it does not belong to it, except behind quotes. -/
def valueRest : Nat → Bool → Scan (List Char)
  | 0, _ => fail
  | fuel + 1, first => do
    match ← peek? with
    | none => pure []
    | some c =>
      if c = '"' || c = '\'' then do
        skip 1
        let s ← textUntil (· == c) false (← enough)
        skip 1
        let rest ← valueRest fuel false
        pure (s ++ rest)
      else do
        let s ← textUntil isLineEnd true (← enough)
        pure (if first then Text.trim s else Text.trimEnd s)

def value : Scan String := do
  discard (spanWhile fun c => Text.isWhite c && !isLineEnd c)
  String.ofList <$> valueRest (← enough) true

/-- Keys with their values, in order; a key may be repeated. -/
abbrev Entries := List (String × String)

/-- White space before the next item, and whether that item begins a line. -/
def white : Bool → List Char → Bool × List Char
  | atStart, [] => (atStart, [])
  | atStart, c :: s =>
    if c = '\n' then white true s
    else if Text.isWhite c then white false s
    else (atStart, c :: s)

/-- The sections from the one whose header was read last, each with its entries; the entries before
the first header are under no name. A comment begins a line. -/
def sections (name : Option String) (entries : Entries) (atStart : Bool) :
    Nat → Scan (List (Option String × Entries))
  | 0 => fail
  | fuel + 1 => do
    let (atStart, s) := white atStart (← get)
    set s
    match s with
    | [] => pure [(name, entries.reverse)]
    | c :: _ =>
      if c = ';' || c = '#' then
        if atStart then do
          discard (spanWhile (· != '\n'))
          sections name entries true fuel
        else fail
      else if c = '[' then do
        skip 1
        let title ← textUntil (· == ']') false (← enough)
        skip 1
        let rest ← sections (some (String.ofList (Text.trim title))) [] false fuel
        pure ((name, entries.reverse) :: rest)
      else do
        let key ← textUntil (fun c => c == '=' || c == ':') false (← enough)
        let key := Text.trim key
        if key.isEmpty then fail
        skip 1
        let v ← value
        sections name ((String.ofList key, v) :: entries) false fuel

/-- Entries as members, where a repeated key has its last value. -/
def membersOf (entries : Entries) : Json.Members :=
  Json.Members.ofList (entries.map fun (key, v) => (key, .string v))

/-- The members of a text: entries without a section, and a table for each section. The last of
several sections with one name counts. -/
def parse? (text : String) : Option Json.Members := do
  let s := text.toList
  let found ← run? (sections none [] true (s.length + 1)) s
  some (Json.Members.ofList (found.flatMap fun (name, entries) =>
    match name with
    | none => membersOf entries
    | some name => [(name, .object (membersOf entries))]))

end ElmPrerender.Ini
