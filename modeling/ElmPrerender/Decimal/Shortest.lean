import ElmPrerender.Decimal.Binary64

/-!
The fewest decimal digits that read back as a given finite number, and of those the nearest. The
numbers that round to `m * 2 ^ q` form an interval around it; grids of one, two, up to seventeen
digits are tried in turn, and on each only the two neighbours of the value can lie in the interval.
-/

namespace ElmPrerender.Decimal

/-- `digits * 10 ^ exponent`. -/
structure Digits where
  digits : Nat
  exponent : Int
  deriving DecidableEq, Repr

namespace Shortest

/-- A finite positive number with the interval of reals that round to it, all as whole numbers of
one unit `1 / den`. -/
structure Interval where
  low : Nat
  value : Nat
  high : Nat
  den : Nat
  /-- Whether the ends round to the number too. -/
  closed : Bool
  deriving Repr

/-- Below a power of two the next smaller number is only half as far away. -/
def interval (x : Binary64) : Interval :=
  let m := x.significand
  let lowerGap := if m == Binary64.hiddenBit && x.power > -1074 then 1 else 2
  let (num, den) := Binary64.scaled 1 (x.power - 2)
  ⟨(4 * m - lowerGap) * num, 4 * m * num, (4 * m + 2) * num, den, m % 2 == 0⟩

namespace Interval

/-- Whether `n * 10 ^ e` lies in the interval. -/
def holds (i : Interval) (n : Nat) (e : Int) : Bool :=
  let at10 := if 0 ≤ e then n * Nat.pow 10 e.toNat * i.den else n * i.den
  let scale := if 0 ≤ e then 1 else Nat.pow 10 (-e).toNat
  if i.closed then i.low * scale ≤ at10 && at10 ≤ i.high * scale
  else i.low * scale < at10 && at10 < i.high * scale

/-- The value as a quotient over the grid of `10 ^ e`. -/
def onGrid (i : Interval) (e : Int) : Nat × Nat :=
  if 0 ≤ e then (i.value, i.den * Nat.pow 10 e.toNat) else (i.value * Nat.pow 10 (-e).toNat, i.den)

/-- The point of the grid `10 ^ e` nearest to the value among those in the interval. -/
def onGrid? (i : Interval) (e : Int) : Option Digits :=
  let (num, den) := i.onGrid e
  let below := num / den
  match i.holds below e, i.holds (below + 1) e with
  | true, true => some ⟨divNearest num den, e⟩
  | true, false => some ⟨below, e⟩
  | false, true => some ⟨below + 1, e⟩
  | false, false => none

/-- The largest `e` with `10 ^ e` at most the value, searched from an estimate upwards. -/
def exponent (i : Interval) : Int :=
  let digits (n : Nat) : Int := (Nat.toDigits 10 n).length
  let estimate := digits i.value - digits i.den
  let (num, den) := i.onGrid estimate
  if den ≤ num then estimate else estimate - 1

end Interval

/-- Moves final zeros of the digits into the exponent. -/
def dropZeros : Nat → Digits → Digits
  | 0, d => d
  | fuel + 1, d =>
    if d.digits != 0 && d.digits % 10 == 0 then dropZeros fuel ⟨d.digits / 10, d.exponent + 1⟩ else d

/-- The first grid of `n` digits or more, up to `n + fuel`, that has a point in the interval. -/
def search (i : Interval) (top : Int) : Nat → Nat → Option Digits
  | 0, _ => none
  | fuel + 1, n =>
    match i.onGrid? (top + 1 - n) with
    | some d => some d
    | none => search i top fuel (n + 1)

/-- The shortest digits of a finite number, its sign aside. -/
def digits (x : Binary64) : Digits :=
  if x.isZero then ⟨0, 0⟩
  else
    let i := interval x
    match search i i.exponent 17 1 with
    | some d => dropZeros 20 d
    | none => ⟨0, 0⟩

end Shortest

/-- How shortest digits are laid out. -/
structure Layout where
  /-- Positional when the power of ten of the first digit is at least this. -/
  leastPositional : Int
  /-- Positional when the power of ten of the first digit is at most this. -/
  mostPositional : Int
  /-- Whether a whole number ends in `.0`. -/
  keepsPoint : Bool

namespace Layout

def digitText (n : Nat) : List Char := Nat.toDigits 10 n

/-- The digits with a point after the `whole` first ones, zeros filling what is missing. -/
def positional (layout : Layout) (ds : List Char) (whole : Int) : List Char :=
  if whole ≤ 0 then '0' :: '.' :: (List.replicate (-whole).toNat '0' ++ ds)
  else if whole.toNat < ds.length then ds.take whole.toNat ++ '.' :: ds.drop whole.toNat
  else ds ++ List.replicate (whole.toNat - ds.length) '0' ++
    (if layout.keepsPoint then ['.', '0'] else [])

/-- One digit before the point and a signed power of ten behind. -/
def scientific (ds : List Char) (power : Int) : List Char :=
  let mantissa := match ds with
    | [] => []
    | [d] => [d]
    | d :: r => d :: '.' :: r
  let sign := if power < 0 then '-' else '+'
  mantissa ++ 'e' :: sign :: digitText power.natAbs

/-- The text of a finite number. -/
def finite (layout : Layout) (x : Binary64) : List Char :=
  let d := Shortest.digits x
  let ds := digitText d.digits
  let power := d.exponent + ds.length - 1
  let body :=
    if x.isZero || (layout.leastPositional ≤ power && power ≤ layout.mostPositional) then
      layout.positional ds (power + 1)
    else scientific ds power
  if x.isNegative then '-' :: body else body

/-- The text of a number, the ones that are not finite included. -/
def text (layout : Layout) (x : Binary64) : List Char :=
  if x.isNaN then "NaN".toList
  else if x.isInfinite then (if x.isNegative then "-inf".toList else "inf".toList)
  else layout.finite x

end Layout

end ElmPrerender.Decimal
