/-!
Digits of whole numbers by their radix, and the number that a run of them spells.
-/

namespace ElmPrerender.Decimal

def isHexDigit (c : Char) : Bool :=
  c.isDigit || ('a' ≤ c && c ≤ 'f') || ('A' ≤ c && c ≤ 'F')

def isOctalDigit (c : Char) : Bool := '0' ≤ c && c ≤ '7'

def isBinaryDigit (c : Char) : Bool := c == '0' || c == '1'

/-- The value of a digit; letters of either size go on behind nine. -/
def digitValue (c : Char) : Nat :=
  if c.isDigit then c.toNat - 48 else if c.isLower then c.toNat - 87 else c.toNat - 55

def radixValue (radix : Nat) (s : List Char) : Nat :=
  s.foldl (fun n c => n * radix + digitValue c) 0

end ElmPrerender.Decimal
