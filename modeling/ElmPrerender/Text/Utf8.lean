/-!
UTF-8 over lists of bytes: writing, reading up to the first fault, and reading with every fault
replaced.
-/

namespace ElmPrerender.Text.Utf8

/-- The bytes of a text. -/
def encode (s : List Char) : List UInt8 := s.flatMap String.utf8EncodeChar

def ofString (s : String) : List UInt8 := encode s.toList

def isAscii (a : UInt8) : Bool := a < 0x80
def isContinuation (b : UInt8) : Bool := 0x80 ≤ b && b ≤ 0xBF

/-- Whether `a b` is a whole sequence. -/
def isPair (a b : UInt8) : Bool := 0xC2 ≤ a && a ≤ 0xDF && isContinuation b

/-- Whether `a b` begins a sequence of three: no overlong forms and no surrogates. -/
def opensTriple (a b : UInt8) : Bool :=
  0xE0 ≤ a && a ≤ 0xEF && isContinuation b && (a != 0xE0 || 0xA0 ≤ b) && (a != 0xED || b ≤ 0x9F)

/-- Whether `a b` begins a sequence of four: no overlong forms, nothing past the last character. -/
def opensQuadruple (a b : UInt8) : Bool :=
  0xF0 ≤ a && a ≤ 0xF4 && isContinuation b && (a != 0xF0 || 0x90 ≤ b) && (a != 0xF4 || b ≤ 0x8F)

def tail (b : UInt8) : Nat := b.toNat - 0x80

def pair (a b : UInt8) : Char := Char.ofNat ((a.toNat - 0xC0) * 64 + tail b)

def triple (a b c : UInt8) : Char :=
  Char.ofNat (((a.toNat - 0xE0) * 64 + tail b) * 64 + tail c)

def quadruple (a b c d : UInt8) : Char :=
  Char.ofNat ((((a.toNat - 0xF0) * 64 + tail b) * 64 + tail c) * 64 + tail d)

/-- The characters up to the first fault, and the bytes from there on. -/
def read : List UInt8 → List Char × List UInt8
  | [] => ([], [])
  | a :: r =>
    if isAscii a then ((Char.ofNat a.toNat :: (read r).1), (read r).2)
    else match r with
    | [] => ([], [a])
    | b :: r =>
      if isPair a b then ((pair a b :: (read r).1), (read r).2)
      else match r with
      | [] => ([], [a, b])
      | c :: r =>
        if opensTriple a b && isContinuation c then ((triple a b c :: (read r).1), (read r).2)
        else match r with
        | [] => ([], [a, b, c])
        | d :: r =>
          if opensQuadruple a b && isContinuation c && isContinuation d then
            ((quadruple a b c d :: (read r).1), (read r).2)
          else ([], a :: b :: c :: d :: r)

/-- The text of bytes that have no fault. -/
def decode? (bytes : List UInt8) : Option (List Char) :=
  match read bytes with
  | (s, []) => some s
  | _ => none

/-- The length of the part of a broken sequence that its replacement stands for: the longest one
that a whole sequence could have begun with. -/
def brokenLength : List UInt8 → Nat
  | a :: b :: c :: _ =>
    if opensQuadruple a b && isContinuation c then 3
    else if opensTriple a b || opensQuadruple a b then 2
    else 1
  | [a, b] => if opensTriple a b || opensQuadruple a b then 2 else 1
  | _ => 1

/-- At most `fuel` faults are replaced. -/
def readReplacing : Nat → List UInt8 → List Char
  | 0, _ => []
  | fuel + 1, bytes =>
    match read bytes with
    | (s, []) => s
    | (s, rest) => s ++ '\uFFFD' :: readReplacing fuel (rest.drop (brokenLength rest))

/-- The text of any bytes, with U+FFFD for each broken sequence. -/
def decodeReplacing (bytes : List UInt8) : String :=
  String.ofList (readReplacing (bytes.length + 1) bytes)

end ElmPrerender.Text.Utf8
