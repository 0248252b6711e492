import ElmPrerender.Decimal.Radix
import ElmPrerender.Decimal.Reading
import ElmPrerender.Toml.Value

/-!
TOML's simple values by their text: whole numbers in four notations, floating point numbers, and
dates and times. Underscores may stand between two digits.
-/

namespace ElmPrerender.Toml

open Decimal

/-- Digits with single underscores between them, without the underscores. -/
def grouped? (isDigit : Char → Bool) : List Char → Option (List Char)
  | [] => none
  | [c] => if isDigit c then some [c] else none
  | c :: '_' :: r => if isDigit c then (grouped? isDigit r).map (c :: ·) else none
  | c :: r => if isDigit c then (grouped? isDigit r).map (c :: ·) else none

/-- Whole numbers have 64 bits. -/
def integer? (i : Int) : Option Value :=
  if fitsSigned i then some (.integer i) else none

/-- Decimal digits of a whole part: no zero in front of others. -/
def wholeDigits? (s : List Char) : Option (List Char) := do
  let digits ← grouped? Char.isDigit s
  match digits with
  | '0' :: _ :: _ => none
  | _ => some digits

def decimal? (s : List Char) : Option Value := do
  let (negative, s) := signed s
  let digits ← wholeDigits? s
  let n := radixValue 10 digits
  integer? (if negative then -(n : Int) else n)

def wholeNumber? : List Char → Option Value
  | '0' :: 'x' :: s => do integer? (radixValue 16 (← grouped? isHexDigit s))
  | '0' :: 'o' :: s => do integer? (radixValue 8 (← grouped? isOctalDigit s))
  | '0' :: 'b' :: s => do integer? (radixValue 2 (← grouped? isBinaryDigit s))
  | s => decimal? s

def isPowerMark (c : Char) : Bool := c == 'e' || c == 'E'

/-- A power of ten after its mark. -/
def powerOfTen? (s : List Char) : Option Int := do
  let (negative, s) := signed s
  let digits ← grouped? Char.isDigit s
  let n := radixValue 10 digits
  some (if negative then -(n : Int) else n)

/-- A float has a fraction, a power of ten, or both, and may not be too large. -/
def finiteFloat? (s : List Char) : Option Value := do
  let (negative, s) := signed s
  let mantissa := s.takeWhile (!isPowerMark ·)
  let power ← match s.dropWhile (!isPowerMark ·) with
    | [] => some 0
    | _ :: s => powerOfTen? s
  let whole ← wholeDigits? (mantissa.takeWhile (· != '.'))
  let fraction ← match mantissa.dropWhile (· != '.') with
    | [] => some []
    | _ :: s => grouped? Char.isDigit s
  if mantissa.length = s.length && fraction.isEmpty then none
  else
    let x : Binary64 :=
      .ofDecimal negative (radixValue 10 (whole ++ fraction)) (power - fraction.length)
    if x.isInfinite then none else some (.float x)

def floatValue? (s : List Char) : Option Value :=
  let (negative, name) := signed s
  if name = "inf".toList then some (.float (.infinity negative))
  else if name = "nan".toList then
    some (.float (if negative then Binary64.nan.neg else .nan))
  else finiteFloat? s

/-- Exactly `count` digits, as a number, and what follows them. -/
def fixedDigits? (count : Nat) (s : List Char) : Option (Nat × List Char) :=
  let digits := s.take count
  if digits.length = count && digits.all Char.isDigit then
    some (radixValue 10 digits, s.drop count)
  else none

def character? (expected : Char) : List Char → Option (List Char)
  | c :: r => if c = expected then some r else none
  | [] => none

def daysIn (year month : Nat) : Nat :=
  if month = 2 then
    if year % 4 = 0 && (year % 100 ≠ 0 || year % 400 = 0) then 29 else 28
  else if [4, 6, 9, 11].contains month then 30
  else 31

/-- A date, and what follows it. -/
def date? (s : List Char) : Option (List Char × List Char) := do
  let (year, r) ← fixedDigits? 4 s
  let r ← character? '-' r
  let (month, r) ← fixedDigits? 2 r
  let r ← character? '-' r
  let (day, r) ← fixedDigits? 2 r
  if 1 ≤ month && month ≤ 12 && 1 ≤ day && day ≤ daysIn year month then some (s.take 10, r)
  else none

/-- The fraction of a second without final zeros, at most nine digits of it and at least one. -/
def fractionText (digits : List Char) : List Char :=
  match ((digits.take 9).reverse.dropWhile (· == '0')).reverse with
  | [] => ['.', '0']
  | digits => '.' :: digits

/-- A time; the seconds may be left out. -/
def time? (s : List Char) : Option (List Char × List Char) := do
  let (hour, r) ← fixedDigits? 2 s
  let r ← character? ':' r
  let (minute, r) ← fixedDigits? 2 r
  if 23 < hour || 59 < minute then none
  else match r with
    | ':' :: r => do
      let (second, r) ← fixedDigits? 2 r
      if 60 < second then none
      else match r with
        | '.' :: r =>
          let digits := r.takeWhile Char.isDigit
          if digits.isEmpty then none
          else some (s.take 8 ++ fractionText digits, r.dropWhile Char.isDigit)
        | r => some (s.take 8, r)
    | r => some (s.take 5, r)

/-- The distance to universal time. No distance at all has a plus. -/
def offset? (s : List Char) : Option (List Char) :=
  match s with
  | ['Z'] | ['z'] => some ['Z']
  | sign :: r =>
    if sign = '+' || sign = '-' then do
      let (hour, r) ← fixedDigits? 2 r
      let r ← character? ':' r
      let (minute, r) ← fixedDigits? 2 r
      if 23 < hour || 59 < minute || !r.isEmpty then none
      else if hour = 0 && minute = 0 then some ('+' :: s.tail)
      else some s
    else none
  | [] => none

def moment? (s : List Char) : Option (List Char) :=
  match date? s with
  | some (date, []) => some date
  | some (date, separator :: r) =>
    if separator = 'T' || separator = 't' || separator = ' ' then do
      let (time, r) ← time? r
      let offset ← if r.isEmpty then some [] else offset? r
      some (date ++ 'T' :: (time ++ offset))
    else none
  | none =>
    match time? s with
    | some (time, []) => some time
    | _ => none

/-- The value that a word stands for. -/
def scalar? (s : List Char) : Option Value :=
  if s = "true".toList then some (.bool true)
  else if s = "false".toList then some (.bool false)
  else
    (wholeNumber? s).or ((floatValue? s).or
      ((moment? s).map fun text => .moment (String.ofList text)))

end ElmPrerender.Toml
