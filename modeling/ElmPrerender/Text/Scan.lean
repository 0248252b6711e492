import ElmPrerender.Decimal.Radix

/-!
Reading a text from its start. What is read is taken away, so a reader is a function from the
unread characters to what it found and those behind it; where it fails, nothing is said of why.
-/

namespace ElmPrerender.Text

/-- Takes the unread characters and leaves those behind what it reads. -/
abbrev Scan := StateT (List Char) Option

namespace Scan

variable {α : Type}

def fail : Scan α := fun _ => none

def ofOption : Option α → Scan α
  | some a => pure a
  | none => fail

def peek? : Scan (Option Char) := fun s => some (s.head?, s)

def skip (count : Nat) : Scan Unit := fun s => some ((), s.drop count)

/-- The next character, which has to be there. -/
def next : Scan Char
  | [] => none
  | c :: s => some (c, s)

/-- Reads the word if it comes next. -/
def accept (word : List Char) : Scan Bool := fun s =>
  if word.isPrefixOf s then some (true, s.drop word.length) else some (false, s)

def expect (word : List Char) : Scan Unit := do
  if !(← accept word) then fail

def spanWhile (p : Char → Bool) : Scan (List Char) := fun s => some (s.takeWhile p, s.dropWhile p)

/-- More steps than anything that moves on with each step can take in what is left. -/
def enough : Scan Nat := fun s => some (s.length + 1, s)

/-- The result of reading a whole text. -/
def run? (content : Scan α) (s : List Char) : Option α :=
  match content s with
  | some (a, []) => some a
  | _ => none

def codePoint? (n : Nat) : Option Char :=
  if n < 0xD800 || (0xDFFF < n && n ≤ 0x10FFFF) then some (Char.ofNat n) else none

/-- A given number of hexadecimal digits, by the number they spell. -/
def hexDigits (count : Nat) : Scan Nat := fun s =>
  let digits := s.take count
  if digits.length = count && digits.all Decimal.isHexDigit then
    some (Decimal.radixValue 16 digits, s.drop count)
  else none

/-- The character of a given number of hexadecimal digits. -/
def hexEscape (count : Nat) : Scan Char := do
  ofOption (codePoint? (← hexDigits count))

end Scan

end ElmPrerender.Text
