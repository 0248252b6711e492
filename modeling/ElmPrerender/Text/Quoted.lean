import ElmPrerender.Text.Printable

/-!
Text shown between quotes so that nothing of it is hidden: quotes, backslashes and the common
control characters by a letter, every other character that would not show by its number.
-/

namespace ElmPrerender.Text

def hexText (n : Nat) : List Char := Nat.toDigits 16 n

def quotedChar (c : Char) : List Char :=
  if c = '"' then ['\\', '"']
  else if c = '\\' then ['\\', '\\']
  else if c = '\n' then ['\\', 'n']
  else if c = '\r' then ['\\', 'r']
  else if c = '\t' then ['\\', 't']
  else if c.toNat = 0 then ['\\', '0']
  else if isPrintable c then [c]
  else '\\' :: 'u' :: '{' :: (hexText c.toNat ++ ['}'])

def quoted (s : String) : String :=
  String.ofList ('"' :: (s.toList.flatMap quotedChar ++ ['"']))

end ElmPrerender.Text
