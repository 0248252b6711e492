import ElmPrerender.Yaml.Cursor

/-!
The texts of YAML's simple values: plain ones, ones between quotes, and blocks of lines. A text may
go on over several lines; where those lines meet there is a blank, and an empty line is a line
break.
-/

namespace ElmPrerender.Yaml

open Reader

/-- What stands for some line ends: for one a blank, for more all but the first. -/
def folded (count : Nat) : List Char :=
  if count ≤ 1 then [' '] else List.replicate (count - 1) '\n'

/-- Whether a colon ends a plain text. -/
def isValueSign (inFlow : Bool) (behind : List Char) : Bool :=
  endsWord behind || (inFlow && behind.head?.any isFlowSign)

/-- The characters of a plain text up to the next blank. -/
def plainWord (inFlow : Bool) : List Char → List Char
  | [] => []
  | c :: s =>
    if isBlank c || c == '\n' || (c == ':' && isValueSign inFlow s) || (inFlow && isFlowSign c) then
      []
    else c :: plainWord inFlow s

/-- Line ends, empty lines, and the blanks before the next line of a plain text: the number of line
ends. No tab stands outside the column where the text may go on, but in an empty line. -/
def plainLines (column : Int) : Nat → Reader Nat
  | 0 => fail
  | fuel + 1 => do
    let p ← get
    match p.rest with
    | '\n' :: _ => do
      skip 1
      let count ← plainLines column fuel
      pure (count + 1)
    | '\t' :: _ => do
      if p.isOutside column then do
        discard blanksAndComment
        if !endsLine (← get).rest then fail
      else skip 1
      plainLines column fuel
    | ' ' :: _ => do
      skip 1
      plainLines column fuel
    | _ => pure 0

/-- The words of a plain text, with what joins the first of them to those before. -/
def plainWords (column : Int) (inFlow : Bool) : Nat → List Char → Reader (List Char)
  | 0, _ => fail
  | fuel + 1, joint => do
    let p ← get
    if p.atMark || p.rest.head? == some '#' then pure []
    else if inFlow && p.rest.head? == some '-' && p.rest.tail.head?.any isFlowSign then fail
    else do
      let word := plainWord inFlow p.rest
      skip word.length
      let found := if word.isEmpty then [] else joint ++ word
      if endsWord (← get).rest && !(← get).rest.isEmpty then do
        let blanks ← spanWhile isBlank
        let count ← if (← peek?) == some '\n' then plainLines column (← enough) else pure 0
        if !inFlow && (← get).isOutside column then pure found
        else do
          let rest ← plainWords column inFlow fuel (if count = 0 then blanks else folded count)
          pure (found ++ rest)
      else pure found

/-- A plain text, whose lines have to reach as far in as a column. -/
def plain (column : Int) (inFlow : Bool) : Reader String := do
  if inFlow && (← get).isOutside column then fail
  let text ← plainWords column inFlow (← enough) []
  if text.isEmpty then fail else pure (String.ofList text)

/-- The character after a backslash. -/
def escape : Text.Scan Char := do
  match ← Text.Scan.next with
  | '0' => pure (Char.ofNat 0)
  | 'a' => pure (Char.ofNat 0x07)
  | 'b' => pure (Char.ofNat 0x08)
  | 't' | '\t' => pure '\t'
  | 'n' => pure '\n'
  | 'v' => pure (Char.ofNat 0x0B)
  | 'f' => pure (Char.ofNat 0x0C)
  | 'r' => pure '\r'
  | 'e' => pure (Char.ofNat 0x1B)
  | ' ' => pure ' '
  | '"' => pure '"'
  | '/' => pure '/'
  | '\\' => pure '\\'
  | 'N' => pure (Char.ofNat 0x85)
  | '_' => pure (Char.ofNat 0xA0)
  | 'L' => pure (Char.ofNat 0x2028)
  | 'P' => pure (Char.ofNat 0x2029)
  | 'x' => Text.Scan.hexEscape 2
  | 'u' => Text.Scan.hexEscape 4
  | 'U' => Text.Scan.hexEscape 8
  | _ => Text.Scan.fail

/-- The characters up to the next blank or the closing quote, and whether a backslash stands at the
end of the line. -/
def quotedWord (quote : Char) : Nat → Reader (List Char × Bool)
  | 0 => fail
  | fuel + 1 => do
    let p ← get
    match p.rest with
    | [] => pure ([], false)
    | c :: s =>
      if isBlank c || c == '\n' then pure ([], false)
      else if c = quote then
        if quote = '\'' && s.head? == some quote then do
          skip 2
          let (word, broken) ← quotedWord quote fuel
          pure (quote :: word, broken)
        else pure ([], false)
      else if c = '\\' && quote = '"' then
        if s.head? == some '\n' then do
          skip 2
          pure ([], true)
        else do
          skip 1
          let c ← onLine escape
          let (word, broken) ← quotedWord quote fuel
          pure (c :: word, broken)
      else do
        skip 1
        let (word, broken) ← quotedWord quote fuel
        pure (c :: word, broken)

/-- Line ends, empty lines, and the blanks before the next line between quotes: the number of line
ends. No tab stands outside the column where the text may go on. -/
def quotedLines (column : Int) : Nat → Reader Nat
  | 0 => fail
  | fuel + 1 => do
    let p ← get
    match p.rest with
    | '\n' :: _ => do
      skip 1
      let count ← quotedLines column fuel
      pure (count + 1)
    | c :: _ =>
      if isBlank c then
        if c = '\t' && p.isOutside column then fail
        else do
          skip 1
          quotedLines column fuel
      else pure 0
    | [] => pure 0

/-- What stands for the blanks and line ends between two words. Behind a backslash at the end of a
line only empty lines count. -/
def quotedGap (column : Int) (broken : Bool) : Reader (List Char) := do
  if broken then do
    let count ← quotedLines column (← enough)
    pure (List.replicate count '\n')
  else do
    let blanks ← spanWhile isBlank
    if (← peek?) == some '\n' then do
      let count ← quotedLines column (← enough)
      pure (folded count)
    else pure blanks

/-- The rest of a text up to its closing quote. -/
def quotedRest (column : Int) (quote : Char) : Nat → Reader (List Char)
  | 0 => fail
  | fuel + 1 => do
    let p ← get
    if p.atMark || p.rest.isEmpty || p.isOutside column then fail
    let (word, broken) ← quotedWord quote (← enough)
    if ← accept quote then pure word
    else do
      let gap ← quotedGap column broken
      let rest ← quotedRest column quote fuel
      pure (word ++ gap ++ rest)

/-- Whether something may follow a closing quote. -/
def endsQuoted (inFlow sameLine : Bool) : List Char → Bool
  | [] => true
  | c :: _ => c == '\n' || (c == ':' && (inFlow || sameLine)) ||
    (inFlow && (c == ',' || c == ']' || c == '}'))

/-- A text between quotes, whose lines have to reach as far in as a column. -/
def quoted (column : Int) (inFlow : Bool) : Reader String := do
  let line := (← get).line
  match ← peek? with
  | none => fail
  | some quote => do
    skip 1
    let text ← quotedRest column quote (← enough)
    discard blanksAndComment
    let p ← get
    if endsQuoted inFlow (p.line = line) p.rest then pure (String.ofList text) else fail

/-- What becomes of the line ends behind the last line of a block. -/
inductive Chomping where
  | strip
  | clip
  | keep
  deriving DecidableEq, Repr

/-- The signs behind the one that opens a block: how it ends, and how much further in it stands. -/
def chomping : Reader (Option Chomping) := do
  if ← accept '+' then pure (some .keep)
  else if ← accept '-' then pure (some .strip)
  else pure none

def indentationSign : Reader (Option Nat) := do
  match ← peek? with
  | some c =>
    if c.isDigit then
      if c = '0' then fail
      else do
        skip 1
        pure (some (c.toNat - 48))
    else pure none
  | none => pure none

def blockSigns : Reader (Chomping × Option Nat) := do
  match ← chomping with
  | some found => do
    let inner ← indentationSign
    pure (found, inner)
  | none => do
    let inner ← indentationSign
    let found ← if inner.isSome then chomping else pure none
    pure (found.getD .clip, inner)

/-- Spaces up to a column and empty lines: the number of line ends. -/
def blockLines (inner : Nat) : Nat → Reader Nat
  | 0 => fail
  | fuel + 1 => do
    let p ← get
    skip (min (inner - p.column) (p.rest.takeWhile (· == ' ')).length)
    if ← accept '\n' then do
      let count ← blockLines inner fuel
      pure (count + 1)
    else pure 0

/-- Spaces and empty lines before the first line of a block: the number of line ends, and the
largest number of spaces. -/
def firstBlockLine : Nat → Reader (Nat × Nat)
  | 0 => fail
  | fuel + 1 => do
    let spaces ← spanWhile (· == ' ')
    if ← accept '\n' then do
      let (count, most) ← firstBlockLine fuel
      pure (count + 1, max spaces.length most)
    else pure (0, spaces.length)

/-- The text of a block up to the end of its last line. -/
structure BlockText where
  text : List Char
  /-- Whether a line end follows. -/
  ended : Bool
  /-- How many empty lines follow. -/
  empty : Nat

/-- The lines of a block behind some empty ones; `above` tells whether there is a line above them,
and whether that begins with a blank. Where a line begins with a blank, line ends are kept. -/
def blockRest (fold : Bool) (inner : Nat) : Nat → Option Bool → Nat → Reader BlockText
  | 0, _, _ => fail
  | fuel + 1, above, empty => do
    let p ← get
    if p.column != inner || p.rest.isEmpty then pure ⟨[], above.isSome, empty⟩
    else do
      let blank := p.rest.head?.any isBlank
      let joint :=
        if fold && above == some false && !blank then folded (empty + 1)
        else List.replicate (empty + (if above.isSome then 1 else 0)) '\n'
      let line ← spanWhile (· != '\n')
      if ← accept '\n' then do
        let empty ← blockLines inner (← enough)
        let rest ← blockRest fold inner fuel (some blank) empty
        pure { rest with text := joint ++ line ++ rest.text }
      else pure ⟨joint ++ line, false, 0⟩

/-- A block whose opening sign has been read, inside one that begins in the column `outer`. -/
def block (outer : Int) (fold : Bool) : Reader String := do
  let (found, indicated) ← blockSigns
  discard blanksAndComment
  if !endsLine (← get).rest then fail
  let broken ← accept '\n'
  if (← peek?) == some '\t' then fail
  let (inner, empty) ← match indicated with
    | some count => do
      let inner := outer.toNat + count
      let empty ← blockLines inner (← enough)
      pure (inner, empty)
    | none => do
      let (empty, most) ← firstBlockLine (← enough)
      pure (max most (outer + 1).toNat, empty)
  let p ← get
  if p.rest.isEmpty then
    pure (match found with
      | .strip => ""
      | .clip => if broken then "\n" else ""
      | .keep => String.ofList (List.replicate (if broken then max empty 1 else 0) '\n'))
  else if p.isOutside inner && outer < p.column then fail
  else do
    let lines ← blockRest fold inner (← enough) none empty
    let p ← get
    let last := (if lines.ended then 1 else 0) +
      (if p.rest.isEmpty && max inner 1 ≤ p.column then 1 else 0)
    pure (String.ofList (lines.text ++ match found with
      | .strip => []
      | .clip => List.replicate last '\n'
      | .keep => List.replicate (last + lines.empty) '\n'))

end ElmPrerender.Yaml
