import ElmPrerender.Decimal.Word

/-!
Binary floating point numbers of 64 bits, by their bits and in exact arithmetic: every operation
rounds an exact quotient to the nearest number, and an exact tie to the even one.
-/

namespace ElmPrerender.Decimal

structure Binary64 where
  bits : UInt64
  deriving DecidableEq, Repr

/-- The quotient rounded to the nearest whole number, a half to the even one. -/
def divNearest (num den : Nat) : Nat :=
  let q := num / den
  let twice := 2 * (num % den)
  if twice > den || (twice == den && q % 2 == 1) then q + 1 else q

namespace Binary64

def signBit : Nat := signedLimit

/-- The leading bit of a significand, which is not written. -/
def hiddenBit : Nat := 4503599627370496

/-- The bits of infinity; the numbers below it are the finite ones. -/
def infinityBits : Nat := 2047 * hiddenBit

def ofMagnitude (negative : Bool) (magnitude : Nat) : Binary64 :=
  ⟨UInt64.ofNat (if negative then signBit + magnitude else magnitude)⟩

def isNegative (x : Binary64) : Bool := signBit ≤ x.bits.toNat

/-- The bits without the sign. -/
def magnitude (x : Binary64) : Nat := x.bits.toNat % signBit

def isFinite (x : Binary64) : Bool := x.magnitude < infinityBits
def isInfinite (x : Binary64) : Bool := x.magnitude == infinityBits
def isNaN (x : Binary64) : Bool := infinityBits < x.magnitude
def isZero (x : Binary64) : Bool := x.magnitude == 0

def zero (negative : Bool) : Binary64 := ofMagnitude negative 0
def infinity (negative : Bool) : Binary64 := ofMagnitude negative infinityBits
def nan : Binary64 := ofMagnitude false (infinityBits + hiddenBit / 2)

/-- The whole number `m` of a finite value `m * 2 ^ q`. -/
def significand (x : Binary64) : Nat :=
  let fraction := x.magnitude % hiddenBit
  if x.magnitude < hiddenBit then fraction else hiddenBit + fraction

/-- The power `q` of a finite value `m * 2 ^ q`. -/
def power (x : Binary64) : Int :=
  let exponent : Nat := x.magnitude / hiddenBit
  if exponent = 0 then -1074 else (exponent : Int) - 1075

/-- `n * 2 ^ q` as a quotient of whole numbers. -/
def scaled (n : Nat) (q : Int) : Nat × Nat :=
  if 0 ≤ q then (n * Nat.pow 2 q.toNat, 1) else (n, Nat.pow 2 (-q).toNat)

/-- The power of two that a positive quotient reaches: the largest `e` with `2 ^ e ≤ num / den`. -/
def log2Quotient (num den : Nat) : Int :=
  let e : Int := (Nat.log2 num : Int) - (Nat.log2 den : Int)
  let (n, d) := scaled 1 e
  if num * d < den * n then e - 1 else e

/-- The number nearest to `num / den`, infinity past the largest one. -/
def nearest (negative : Bool) (num den : Nat) : Binary64 :=
  if num = 0 then zero negative
  else
    let q := max (log2Quotient num den - 52) (-1074)
    let (n, d) := scaled 1 q
    let m := divNearest (num * d) (den * n)
    ofMagnitude negative (min ((q + 1074).toNat * hiddenBit + m) infinityBits)

def ofNat (n : Nat) : Binary64 := nearest false n 1

/-- The product of finite numbers. -/
def mul (x y : Binary64) : Binary64 :=
  let (num, den) := scaled (x.significand * y.significand) (x.power + y.power)
  nearest (x.isNegative != y.isNegative) num den

/-- The quotient of finite numbers, the second of them not zero. -/
def div (x y : Binary64) : Binary64 :=
  let (num, den) := scaled 1 (x.power - y.power)
  nearest (x.isNegative != y.isNegative) (x.significand * num) (y.significand * den)

def neg (x : Binary64) : Binary64 := ofMagnitude (!x.isNegative) x.magnitude

/-- The number nearest to `digits * 10 ^ exponent`. A value that lies beyond every finite number,
or below half of the smallest one, is settled by its length alone. -/
def ofDecimal (negative : Bool) (digits : Nat) (exponent : Int) : Binary64 :=
  let top : Int := (Nat.toDigits 10 digits).length + exponent
  if digits = 0 || top < -400 then zero negative
  else if top > 400 then infinity negative
  else if 0 ≤ exponent then nearest negative (digits * Nat.pow 10 exponent.toNat) 1
  else nearest negative digits (Nat.pow 10 (-exponent).toNat)

/-- The number nearest to a power of ten. -/
def powerOfTen (exponent : Nat) : Binary64 := ofDecimal false 1 exponent

end Binary64

end ElmPrerender.Decimal
