/-!
Reading the ASCII form of a domain label back: the plain characters before the last hyphen, and
behind it where the others are inserted, as generalised variable-length whole numbers.
-/

namespace ElmPrerender.Url.Punycode

def base : Nat := 36
def smallestThreshold : Nat := 1
def largestThreshold : Nat := 26
def skew : Nat := 38
def damping : Nat := 700
def firstBias : Nat := 72
def firstCode : Nat := 0x80

def digit? (c : Char) : Option Nat :=
  if c.isLower then some (c.toNat - 97)
  else if c.isUpper then some (c.toNat - 65)
  else if c.isDigit then some (c.toNat - 22)
  else none

/-- The threshold of the digit whose weight is reached after `k`. -/
def threshold (k bias : Nat) : Nat :=
  if k ≤ bias + smallestThreshold then smallestThreshold
  else if bias + largestThreshold ≤ k then largestThreshold
  else k - bias

/-- Divides `delta` down to the range of one digit: the steps taken and what is left. -/
def settle : Nat → Nat → Nat → Nat × Nat
  | 0, steps, delta => (steps, delta)
  | fuel + 1, steps, delta =>
    if delta > ((base - smallestThreshold) * largestThreshold) / 2 then
      settle fuel (steps + 1) (delta / (base - smallestThreshold))
    else (steps, delta)

def adapt (delta points : Nat) (first : Bool) : Nat :=
  let delta := if first then delta / damping else delta / 2
  let (steps, delta) := settle 64 0 (delta + delta / points)
  base * steps + (base - smallestThreshold + 1) * delta / (delta + skew)

/-- Adds a whole number to `sum`: its digits from the least on, up to the first below its threshold.
Sums and weights have 32 bits. -/
def addNumber? (bias : Nat) : Nat → Nat → Nat → List Char → Option (Nat × List Char)
  | _, _, _, [] => none
  | k, weight, sum, c :: r => do
    let d ← digit? c
    let sum := sum + d * weight
    let t := threshold k bias
    if sum ≥ 4294967296 then none
    else if d < t then some (sum, r)
    else
      let weight := weight * (base - t)
      if weight ≥ 4294967296 then none else addNumber? bias (k + base) weight sum r

/-- Inserts the characters that the digits describe into those that are there. `place` is where
the last one went, and each is inserted at or behind it, or has a higher code. -/
def insertAll : Nat → Nat → Nat → Nat → List Char → List Char → Option (List Char)
  | _, _, _, _, done, [] => some done
  | 0, _, _, _, _, _ => none
  | fuel + 1, code, place, bias, done, digits => do
    let (sum, rest) ← addNumber? bias base 1 place digits
    let points := done.length + 1
    let code := code + sum / points
    if code > 0x10FFFF || (0xD800 ≤ code && code ≤ 0xDFFF) then none
    else
      let next := sum % points
      insertAll fuel code (next + 1) (adapt (sum - place) points (place == 0))
        (done.take next ++ Char.ofNat code :: done.drop next) rest

/-- The label without its `xn--`. A hyphen with nothing before it divides nothing. -/
def decode? (label : List Char) : Option (List Char) :=
  let digits := (label.reverse.takeWhile (· != '-')).reverse
  let plain := label.take (label.length - digits.length - 1)
  if plain.isEmpty && label.contains '-' then none
  else insertAll (label.length + 1) firstCode 0 firstBias plain digits

end ElmPrerender.Url.Punycode
