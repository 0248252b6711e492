/-!
String literals of Elm source text: writing one, and reading the one that a text starts with.
Quote, backslash, line feed, carriage return and tab are written as escapes and every other
character as itself, so a written literal stays on one line and cannot end early.
-/

namespace ElmPrerender.Elm.StringLiteral

/-- The letter that stands for a character after a backslash, if it needs one. -/
def escapeLetter? (c : Char) : Option Char :=
  match c with
  | '"' => some '"'
  | '\\' => some '\\'
  | '\n' => some 'n'
  | '\r' => some 'r'
  | '\t' => some 't'
  | _ => none

/-- The character that a letter after a backslash stands for. -/
def ofEscapeLetter? (c : Char) : Option Char :=
  match c with
  | '"' => some '"'
  | '\\' => some '\\'
  | 'n' => some '\n'
  | 'r' => some '\r'
  | 't' => some '\t'
  | _ => none

/-- What stands between the quotes. -/
def body : List Char → List Char
  | [] => []
  | c :: r =>
    match escapeLetter? c with
    | some letter => '\\' :: letter :: body r
    | none => c :: body r

def encode (s : List Char) : List Char := '"' :: (body s ++ ['"'])

def ofString (s : String) : String := String.ofList (encode s.toList)

/-- Reads up to the first quote that is not escaped: the characters meant, and the rest after the
quote. Raw line breaks and other escapes are refused. -/
def readBody? : List Char → Option (List Char × List Char)
  | [] => none
  | '"' :: rest => some ([], rest)
  | ['\\'] => none
  | '\\' :: letter :: rest => do
    let c ← ofEscapeLetter? letter
    let (s, rest) ← readBody? rest
    some (c :: s, rest)
  | c :: rest =>
    if c = '\n' || c = '\r' then none
    else do
      let (s, rest) ← readBody? rest
      some (c :: s, rest)

/-- Reads the literal that a text starts with. -/
def read? : List Char → Option (List Char × List Char)
  | '"' :: rest => readBody? rest
  | _ => none

end ElmPrerender.Elm.StringLiteral
