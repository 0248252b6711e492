import ElmPrerender.Json.Fault
import ElmPrerender.Text.Utf8

/-!
Readers of JSON's smallest parts. A reader takes the unread bytes and gives a value with the bytes
that it left unread, or a fault. A fault lies either at the first unread byte or just behind it.
-/

namespace ElmPrerender.Json

abbrev Bytes := List UInt8

abbrev Reader := StateT Bytes (Except Fault)

def byte (c : Char) : UInt8 := c.toUInt8

namespace Reader

variable {α : Type}

/-- A fault before the first unread byte. -/
def fail (cause : Cause) : Reader α := fun rest => .error ⟨cause, rest.length⟩

/-- A fault at the first unread byte, which counts as read if there is one. -/
def failAtNext (cause : Cause) : Reader α := fun rest => .error ⟨cause, rest.length - 1⟩

def isBlank (b : UInt8) : Bool :=
  b == byte ' ' || b == byte '\n' || b == byte '\t' || b == byte '\r'

/-- The first byte after blanks; it stays unread. -/
def peek? : Reader (Option UInt8) := fun rest =>
  .ok ((rest.dropWhile isBlank).head?, rest.dropWhile isBlank)

def skipByte : Reader Unit := fun rest => .ok ((), rest.tail)

/-- The remaining letters of a word such as `null`. -/
def keyword : List Char → Reader Unit
  | [] => pure ()
  | c :: cs => fun rest =>
    match rest with
    | [] => .error ⟨.endInValue, 0⟩
    | b :: r => if b = byte c then keyword cs r else .error ⟨.expectedKeyword, r.length⟩

def hexValue? (b : UInt8) : Option Nat :=
  if byte '0' ≤ b && b ≤ byte '9' then some (b.toNat - 48)
  else if byte 'a' ≤ b && b ≤ byte 'f' then some (b.toNat - 87)
  else if byte 'A' ≤ b && b ≤ byte 'F' then some (b.toNat - 55)
  else none

/-- Four hexadecimal digits; fewer bytes than that are all read. -/
def hexUnit : Reader Nat := fun rest =>
  match rest with
  | a :: b :: c :: d :: r =>
    match hexValue? a, hexValue? b, hexValue? c, hexValue? d with
    | some a, some b, some c, some d => .ok (((a * 16 + b) * 16 + c) * 16 + d, r)
    | _, _, _, _ => .error ⟨.invalidEscape, r.length⟩
  | _ => .error ⟨.endInString, 0⟩

/-- A byte inside a string that has to be the one given. -/
def surrogateMark (expected : UInt8) : Reader Unit := fun rest =>
  match rest with
  | [] => .error ⟨.endInString, 0⟩
  | b :: r => if b = expected then .ok ((), r) else .error ⟨.unexpectedEndOfEscape, r.length⟩

def isHighSurrogate (n : Nat) : Bool := 0xD800 ≤ n && n ≤ 0xDBFF
def isLowSurrogate (n : Nat) : Bool := 0xDC00 ≤ n && n ≤ 0xDFFF

/-- The character of a `\u` escape, the letter already read. Surrogates come in pairs. -/
def unicodeEscape : Reader Char := do
  let first ← hexUnit
  if isLowSurrogate first then fail .loneSurrogate
  else if isHighSurrogate first then do
    surrogateMark (byte '\\')
    surrogateMark (byte 'u')
    let second ← hexUnit
    if isLowSurrogate second then
      pure (Char.ofNat (0x10000 + (first - 0xD800) * 0x400 + (second - 0xDC00)))
    else fail .loneSurrogate
  else pure (Char.ofNat first)

/-- The character that a letter after a backslash stands for. -/
def ofEscapeLetter? (b : UInt8) : Option Char :=
  if b = byte '"' then some '"'
  else if b = byte '\\' then some '\\'
  else if b = byte '/' then some '/'
  else if b = byte 'b' then some (Char.ofNat 0x08)
  else if b = byte 'f' then some (Char.ofNat 0x0C)
  else if b = byte 'n' then some '\n'
  else if b = byte 'r' then some '\r'
  else if b = byte 't' then some '\t'
  else none

/-- What follows a backslash. -/
def escaped : Reader Char := fun rest =>
  match rest with
  | [] => .error ⟨.endInString, 0⟩
  | b :: r =>
    if b = byte 'u' then unicodeEscape r
    else match ofEscapeLetter? b with
      | some c => .ok (c, r)
      | none => .error ⟨.invalidEscape, r.length⟩

/-- The bytes of a string up to its closing quote, which is read too. `fuel` bounds the steps. -/
def stringBytes : Nat → Reader Bytes
  | 0, rest => .error ⟨.endInString, rest.length⟩
  | _ + 1, [] => .error ⟨.endInString, 0⟩
  | fuel + 1, b :: r =>
    if b = byte '"' then .ok ([], r)
    else if b = byte '\\' then do
      let (c, r) ← escaped r
      let (s, r) ← stringBytes fuel r
      .ok (String.utf8EncodeChar c ++ s, r)
    else if b < 0x20 then .error ⟨.controlCharacter, r.length⟩
    else do
      let (s, r) ← stringBytes fuel r
      .ok (b :: s, r)

/-- A string whose opening quote has been read. -/
def stringRest : Reader String := fun rest => do
  let (bytes, rest) ← stringBytes (rest.length + 1) rest
  match Text.Utf8.read bytes with
  | (s, []) => .ok (String.ofList s, rest)
  | (_, broken) => .error ⟨.invalidCodePoint, rest.length + broken.length⟩

def isDigit (b : UInt8) : Bool := byte '0' ≤ b && b ≤ byte '9'

def digitValue (b : UInt8) : Nat := b.toNat - 48

/-- The largest significand that is kept exactly. -/
def maxSignificand : Nat := Decimal.wordLimit - 1

/-- The largest power of ten that is kept exactly. -/
def maxExponent : Nat := 2147483647

def nextIs (p : UInt8 → Bool) (rest : Bytes) : Bool := rest.head?.any p

/-- Appends digits to `n` as long as the result is at most `limit`: the result, the number of
digits, and what is left. -/
def absorb (limit n : Nat) : Bytes → Nat × Nat × Bytes
  | [] => (n, 0, [])
  | b :: r =>
    if isDigit b && n * 10 + digitValue b ≤ limit then
      let (m, count, rest) := absorb limit (n * 10 + digitValue b) r
      (m, count + 1, rest)
    else (n, 0, b :: r)

def skipDigits : Reader Nat := fun rest =>
  .ok ((rest.takeWhile isDigit).length, rest.dropWhile isDigit)

/-- The largest power of ten that is a finite number. -/
def maxPower : Nat := 308

/-- `x * 10 ^ exponent` by one multiplication or division, large negative powers in steps. No
finite result: none. -/
def scale : Nat → Decimal.Binary64 → Int → Option Decimal.Binary64
  | 0, x, _ => some x
  | fuel + 1, x, exponent =>
    if exponent.natAbs ≤ maxPower then
      let power := Decimal.Binary64.powerOfTen exponent.natAbs
      if 0 ≤ exponent then
        let y := x.mul power
        if y.isFinite then some y else none
      else some (x.div power)
    else if x.isZero then some x
    else if 0 ≤ exponent then none
    else scale fuel (x.div (Decimal.Binary64.powerOfTen maxPower)) (exponent + maxPower)

def floatOf (negative : Bool) (significand : Nat) (exponent : Int) : Reader Number :=
  match scale 8 (Decimal.Binary64.ofNat significand) exponent with
  | some x => pure (.float (if negative then x.neg else x))
  | none => fail .numberOutOfRange

/-- The power of ten after its sign, and whether it ended in time. -/
def exponentDigits : Reader (Option Nat) := fun rest =>
  match rest with
  | [] => .error ⟨.endInValue, 0⟩
  | b :: r =>
    if !isDigit b then .error ⟨.invalidNumber, r.length⟩
    else
      let (n, _, r) := absorb maxExponent (digitValue b) r
      if nextIs isDigit r then .ok (none, r.tail) else .ok (some n, r)

/-- A number from its power of ten on, the letter already read. A power that is too large leaves
zero, or nothing. -/
def exponentPart (negative : Bool) (significand : Nat) (start : Int) : Reader Number := do
  let rest ← get
  let minus := nextIs (· == byte '-') rest
  if minus || nextIs (· == byte '+') rest then skipByte
  match ← exponentDigits with
  | some n => floatOf negative significand (if minus then start - n else start + n)
  | none =>
    if significand ≠ 0 && !minus then fail .numberOutOfRange
    else do
      discard skipDigits
      pure (.float (Decimal.Binary64.zero negative))

def isExponentMark (b : UInt8) : Bool := b == byte 'e' || b == byte 'E'

/-- The end of a number with a fraction: a power of ten or nothing. -/
def fractionEnd (negative : Bool) (significand : Nat) (exponent : Int) : Reader Number := do
  if nextIs isExponentMark (← get) then do
    skipByte
    exponentPart negative significand exponent
  else floatOf negative significand exponent

/-- The digits after a point. Those that the significand cannot hold are dropped. -/
def fractionPart (negative : Bool) (significand : Nat) (start : Int) : Reader Number := fun rest =>
  let (n, count, rest) := absorb maxSignificand significand rest
  if nextIs isDigit rest then
    (do discard skipDigits; fractionEnd negative n (start - count)) rest
  else if count = 0 then
    failAtNext (if rest.isEmpty then .endInValue else .invalidNumber) rest
  else fractionEnd negative n (start - count) rest

/-- A whole number that the significand holds, as a number of JSON. Minus zero is not a whole
number. -/
def wholeNumber (negative : Bool) (n : Nat) : Number :=
  if !negative then .integer n
  else if n = 0 || Decimal.signedLimit < n then .float (Decimal.Binary64.ofNat n).neg
  else .integer (-n)

/-- A number from the end of its whole part on. -/
def afterWhole (negative : Bool) (significand : Nat) : Reader Number := do
  let rest ← get
  if nextIs (· == byte '.') rest then do
    skipByte
    fractionPart negative significand 0
  else if nextIs isExponentMark rest then do
    skipByte
    exponentPart negative significand 0
  else pure (wholeNumber negative significand)

/-- A number whose whole part is longer than the significand holds, from the first such digit. -/
def longWhole (negative : Bool) (significand : Nat) : Reader Number := do
  let count ← skipDigits
  if nextIs (· == byte '.') (← get) then do
    skipByte
    fractionPart negative significand count
  else fractionEnd negative significand count

/-- A number whose sign has been read. -/
def number (negative : Bool) : Reader Number := fun rest =>
  match rest with
  | [] => .error ⟨.endInValue, 0⟩
  | b :: r =>
    if b = byte '0' then
      if nextIs isDigit r then failAtNext .invalidNumber r else afterWhole negative 0 r
    else if isDigit b then
      let (n, _, r) := absorb maxSignificand (digitValue b) r
      if nextIs isDigit r then longWhole negative n r else afterWhole negative n r
    else .error ⟨.invalidNumber, r.length⟩

/-- A number with its sign. -/
def signedNumber : Reader Number := do
  if nextIs (· == byte '-') (← get) then do
    skipByte
    number true
  else number false

end Reader

end ElmPrerender.Json
