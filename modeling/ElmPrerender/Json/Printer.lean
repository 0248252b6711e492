import ElmPrerender.Json.Value
import ElmPrerender.Decimal.Shortest

/-!
JSON texts of values, on one line or indented.
-/

namespace ElmPrerender.Json

/-- The digits of a hexadecimal number below 16, in small letters. -/
def hexDigit (n : Nat) : Char := (Nat.digitChar n)

/-- A character inside a string literal: quote, backslash and the control characters are escaped,
by a letter where there is one. -/
def escape (c : Char) : List Char :=
  if c = '"' then ['\\', '"']
  else if c = '\\' then ['\\', '\\']
  else if c = '\n' then ['\\', 'n']
  else if c = '\r' then ['\\', 'r']
  else if c = '\t' then ['\\', 't']
  else if c.toNat = 0x08 then ['\\', 'b']
  else if c.toNat = 0x0C then ['\\', 'f']
  else if c.toNat < 0x20 then
    ['\\', 'u', '0', '0', hexDigit (c.toNat / 16), hexDigit (c.toNat % 16)]
  else [c]

def stringText (s : String) : List Char := '"' :: (s.toList.flatMap escape ++ ['"'])

/-- Floating point numbers keep their point, and take an exponent below 1e-5 and from 1e16 on. -/
def floatLayout : Decimal.Layout := ⟨-5, 15, true⟩

def integerText (i : Int) : List Char :=
  if i < 0 then '-' :: Nat.toDigits 10 i.natAbs else Nat.toDigits 10 i.natAbs

def Number.text : Number → List Char
  | .integer i => integerText i
  | .float x => if x.isFinite then floatLayout.finite x else "null".toList

def boolText (b : Bool) : List Char := if b then "true".toList else "false".toList

namespace Value

mutual
/-- Without any white space. -/
def compact : Value → List Char
  | .null => "null".toList
  | .bool b => boolText b
  | .number n => n.text
  | .string s => stringText s
  | .array [] => ['[', ']']
  | .array (v :: rest) => '[' :: (compact v ++ compactItems rest ++ [']'])
  | .object [] => ['{', '}']
  | .object ((name, v) :: rest) =>
    '{' :: (stringText name ++ ':' :: (compact v ++ compactMembers rest ++ ['}']))

/-- The items after the first. -/
def compactItems : List Value → List Char
  | [] => []
  | v :: rest => ',' :: (compact v ++ compactItems rest)

/-- The members after the first. -/
def compactMembers : List (String × Value) → List Char
  | [] => []
  | (name, v) :: rest => ',' :: (stringText name ++ ':' :: (compact v ++ compactMembers rest))
end

/-- A line break and the indentation of a level. -/
def lineBreak (indent : List Char) (level : Nat) : List Char :=
  '\n' :: (List.replicate level indent).flatten

mutual
/-- One item or member a line, indented by `indent` for each level; empty lists and objects stay
on one line. -/
def pretty (indent : List Char) (level : Nat) : Value → List Char
  | .null => "null".toList
  | .bool b => boolText b
  | .number n => n.text
  | .string s => stringText s
  | .array [] => ['[', ']']
  | .array (v :: rest) =>
    '[' :: (lineBreak indent (level + 1) ++ pretty indent (level + 1) v ++
      prettyItems indent level rest ++ lineBreak indent level ++ [']'])
  | .object [] => ['{', '}']
  | .object ((name, v) :: rest) =>
    '{' :: (lineBreak indent (level + 1) ++ stringText name ++ [':', ' '] ++
      pretty indent (level + 1) v ++ prettyMembers indent level rest ++ lineBreak indent level ++
      ['}'])

def prettyItems (indent : List Char) (level : Nat) : List Value → List Char
  | [] => []
  | v :: rest =>
    ',' :: (lineBreak indent (level + 1) ++ pretty indent (level + 1) v ++
      prettyItems indent level rest)

def prettyMembers (indent : List Char) (level : Nat) : List (String × Value) → List Char
  | [] => []
  | (name, v) :: rest =>
    ',' :: (lineBreak indent (level + 1) ++ stringText name ++ [':', ' '] ++
      pretty indent (level + 1) v ++ prettyMembers indent level rest)
end

def compactText (v : Value) : String := String.ofList v.compact

/-- The indented text with a line feed at its end. -/
def prettyText (indent : Nat) (v : Value) : String :=
  String.ofList (v.pretty (List.replicate indent ' ') 0 ++ ['\n'])

end Value

end ElmPrerender.Json
