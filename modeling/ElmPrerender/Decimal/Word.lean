/-!
Words of 64 bits: the bounds of whole numbers that fit one.
-/

namespace ElmPrerender.Decimal

/-- The least number that is too large for a word without sign. -/
def wordLimit : Nat := 18446744073709551616

/-- The least number that is too large for a word with sign. -/
def signedLimit : Nat := 9223372036854775808

/-- Whether a number fits a word with sign. -/
def fitsSigned (i : Int) : Bool := -(signedLimit : Int) ≤ i && i < (signedLimit : Int)

end ElmPrerender.Decimal
