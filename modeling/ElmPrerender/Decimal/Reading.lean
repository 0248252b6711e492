import ElmPrerender.Decimal.Binary64

/-!
Numbers from texts: whole numbers with an optional sign, and floating point numbers with their
fraction, power of ten, infinity and NaN.
-/

namespace ElmPrerender.Decimal

/-- The value of decimal digits; none if there are none, or anything else among them. -/
def digits? (s : List Char) : Option Nat :=
  if s.isEmpty || !s.all Char.isDigit then none
  else some (s.foldl (fun n c => n * 10 + (c.toNat - 48)) 0)

/-- Splits off a sign: whether it is a minus, and the rest. -/
def signed : List Char → Bool × List Char
  | '-' :: s => (true, s)
  | '+' :: s => (false, s)
  | s => (false, s)

/-- A whole number below `2 ^ 64`; a plus sign and leading zeros do not matter. -/
def unsigned64? (s : List Char) : Option Nat := do
  let s := match s with
    | '+' :: s => s
    | s => s
  let n ← digits? s
  if n < wordLimit then some n else none

/-- A whole number of 64 bits with sign. -/
def signed64? (s : List Char) : Option Int := do
  let (negative, s) := signed s
  let n ← digits? s
  let i : Int := if negative then -(n : Int) else n
  if fitsSigned i then some i else none

/-- The power of ten of a float: nothing, or a mark, a sign and digits. -/
def power? : List Char → Option Int
  | [] => some 0
  | c :: s =>
    if c = 'e' || c = 'E' then do
      let (negative, s) := signed s
      let n ← digits? s
      some (if negative then -(n : Int) else n)
    else none

/-- A finite number without its sign; digits have to stand on one side of the point at least. -/
def finite? (negative : Bool) (s : List Char) : Option Binary64 := do
  let whole := s.takeWhile Char.isDigit
  let rest := s.dropWhile Char.isDigit
  let (fraction, rest) := match rest with
    | '.' :: rest => (rest.takeWhile Char.isDigit, rest.dropWhile Char.isDigit)
    | rest => ([], rest)
  let digits ← digits? (whole ++ fraction)
  let power ← power? rest
  some (Binary64.ofDecimal negative digits (power - fraction.length))

/-- A floating point number in any of its spellings. -/
def float? (s : List Char) : Option Binary64 :=
  let (negative, s) := signed s
  let small := s.map Char.toLower
  if small = "inf".toList || small = "infinity".toList then some (.infinity negative)
  else if small = "nan".toList then some (if negative then Binary64.nan.neg else .nan)
  else finite? negative s

end ElmPrerender.Decimal
