import ElmPrerender.Text.Scan

/-!
A place in a YAML text. Indentation carries meaning, so a place knows its line and column, and
whether only blanks stand before it on its line.
-/

namespace ElmPrerender.Yaml

def isBlank (c : Char) : Bool := c == ' ' || c == '\t'

/-- The signs that divide values between brackets. -/
def isFlowSign (c : Char) : Bool :=
  c == ',' || c == '[' || c == ']' || c == '{' || c == '}'

/-- Letters, digits, hyphens and underscores. -/
def isWordChar (c : Char) : Bool := c.isAlphanum || c == '_' || c == '-'

/-- Whether a word ends here. -/
def endsWord : List Char → Bool
  | [] => true
  | c :: _ => isBlank c || c == '\n'

/-- Whether a line ends here. -/
def endsLine : List Char → Bool
  | [] => true
  | c :: _ => c == '\n'

structure Cursor where
  rest : List Char
  /-- How many characters were read. -/
  index : Nat
  line : Nat
  column : Nat
  /-- Whether there are only blanks before on this line. -/
  fresh : Bool

namespace Cursor

/-- The beginning of a text. Line ends are all read as line feeds, and a null character ends the
text. -/
def start (text : List Char) : Cursor :=
  ⟨lineFeeds (text.takeWhile (·.toNat != 0)), 0, 0, 0, true⟩
where
  lineFeeds : List Char → List Char
    | '\r' :: '\n' :: s => '\n' :: lineFeeds s
    | '\r' :: s => '\n' :: lineFeeds s
    | c :: s => c :: lineFeeds s
    | [] => []

/-- The place behind the next character. -/
def next (p : Cursor) : Cursor :=
  match p.rest with
  | [] => p
  | c :: s =>
    if c = '\n' then ⟨s, p.index + 1, p.line + 1, 0, true⟩
    else ⟨s, p.index + 1, p.line, p.column + 1, p.fresh && isBlank c⟩

def skip : Nat → Cursor → Cursor
  | 0, p => p
  | count + 1, p => skip count p.next

/-- Whether a line begins here with three times the same sign, which stand alone. -/
def startsMark (p : Cursor) (sign : Char) : Bool :=
  p.column = 0 && match p.rest with
    | a :: b :: c :: s => a == sign && b == sign && c == sign && endsWord s
    | _ => false

/-- Whether a document begins or ends here. -/
def atMark (p : Cursor) : Bool := p.startsMark '-' || p.startsMark '.'

/-- Whether the place lies further out than a column. -/
def isOutside (p : Cursor) (column : Int) : Bool := (p.column : Int) < column

end Cursor

/-- Takes the unread text and leaves the place behind what it reads. -/
abbrev Reader := StateT Cursor Option

namespace Reader

variable {α : Type}

def fail : Reader α := fun _ => none

def peek? : Reader (Option Char) := fun p => some (p.rest.head?, p)

def skip (count : Nat) : Reader Unit := fun p => some ((), p.skip count)

/-- Reads a sign if it comes next. -/
def accept (sign : Char) : Reader Bool := fun p =>
  if p.rest.head? == some sign then some (true, p.next) else some (false, p)

def spanWhile (while? : Char → Bool) : Reader (List Char) := fun p =>
  let found := p.rest.takeWhile while?
  some (found, p.skip found.length)

/-- More steps than anything that moves on with each step can take in what is left. -/
def enough : Reader Nat := fun p => some (p.rest.length + 1, p)

/-- Reads something that stands on one line. -/
def onLine (content : Text.Scan α) : Reader α := fun p => do
  let (a, rest) ← content p.rest
  some (a, p.skip (p.rest.length - rest.length))

/-- Blanks and a comment, which has to be set off by them. What is given tells whether there was a
tab, and whether there was a space. -/
def blanksAndComment : Reader (Bool × Bool) := do
  let blanks ← spanWhile isBlank
  if (← peek?) == some '#' then
    if blanks.isEmpty then fail
    discard (spanWhile (· != '\n'))
  pure (blanks.contains '\t', blanks.contains ' ')

end Reader

end ElmPrerender.Yaml
