import ElmPrerender.Text.Utf8
import ElmPrerender.Url.Domain

/-!
Which texts are hosts of an address: bracketed IPv6 addresses, IPv4 addresses in their various
notations, and domains. Only acceptance is decided here; no host is put into a normal form.
-/

namespace ElmPrerender.Url

def isHexDigit (c : Char) : Bool :=
  c.isDigit || ('a' ≤ c && c ≤ 'f') || ('A' ≤ c && c ≤ 'F')

def hexValue (c : Char) : Nat :=
  if c.isDigit then c.toNat - 48 else if c.isLower then c.toNat - 87 else c.toNat - 55

/-- The byte of two hexadecimal digits that follow a percent sign. -/
def escapedByte? (a b : UInt8) : Option UInt8 :=
  let (x, y) := (Char.ofNat a.toNat, Char.ofNat b.toNat)
  if isHexDigit x && isHexDigit y then some (UInt8.ofNat (hexValue x * 16 + hexValue y)) else none

/-- Replaces percent escapes by their bytes; a percent sign without two digits stays. -/
def unescape : List UInt8 → List UInt8
  | [] => []
  | [a] => [a]
  | [a, b] => [a, b]
  | a :: b :: c :: r =>
    if a = '%'.toUInt8 then
      match escapedByte? b c with
      | some x => x :: unescape r
      | none => a :: unescape (b :: c :: r)
    else a :: unescape (b :: c :: r)

inductive Ipv4Part where
  | notNumber
  | tooLarge
  | number (n : Nat)
  deriving DecidableEq, Repr

def digitsIn (isDigit : Char → Bool) (radix : Nat) (s : List Char) : Ipv4Part :=
  if s.isEmpty then .number 0
  else if !s.all isDigit then .notNumber
  else
    let n := s.foldl (fun n c => n * radix + hexValue c) 0
    if n < 4294967296 then .number n else .tooLarge

/-- Hexadecimal after `0x`, octal after `0`, decimal otherwise. -/
def ipv4Part : List Char → Ipv4Part
  | [] => .notNumber
  | '0' :: 'x' :: s => digitsIn isHexDigit 16 s
  | '0' :: 'X' :: s => digitsIn isHexDigit 16 s
  | ['0'] => .number 0
  | '0' :: s => digitsIn (fun c => '0' ≤ c && c ≤ '7') 8 s
  | s => digitsIn Char.isDigit 10 s

/-- The parts of a domain, a final dot aside. -/
def dotParts (domain : List Char) : List (List Char) :=
  let parts := List.splitOn '.' domain
  if parts.getLast? == some [] && parts.length > 1 then parts.dropLast else parts

/-- Whether a domain has to be read as an IPv4 address. -/
def endsInNumber (domain : List Char) : Bool :=
  match (dotParts domain).getLast? with
  | none | some [] => false
  | some last => last.all Char.isDigit || ipv4Part last != .notNumber

/-- At most four numbers, all but the last below 256; the last one fills the bytes that remain. -/
def isIpv4 (domain : List Char) : Bool :=
  let parts := (dotParts domain).map ipv4Part
  parts.length ≤ 4 &&
    parts.dropLast.all (fun | .number n => n ≤ 255 | _ => false) &&
    (match parts.getLast? with
      | some (.number n) => n < Nat.pow 256 (5 - parts.length)
      | _ => false)

/-- A decimal number below 256 without leading zeros. -/
def isOctet (s : List Char) : Bool :=
  !s.isEmpty && s.all Char.isDigit && s.length ≤ 3 && (s.length == 1 || s.head? != some '0') &&
    s.foldl (fun n c => n * 10 + hexValue c) 0 ≤ 255

def isDottedQuad (s : List Char) : Bool :=
  let parts := List.splitOn '.' s
  parts.length == 4 && parts.all isOctet

def isHexGroup (s : List Char) : Bool := !s.isEmpty && s.length ≤ 4 && s.all isHexDigit

/-- The number of 16-bit groups that the pieces stand for; the last may be a dotted quad. -/
def groupCount? (quadAllowed : Bool) : List (List Char) → Option Nat
  | [] => some 0
  | [s] => if isHexGroup s then some 1 else if quadAllowed && isDottedQuad s then some 2 else none
  | s :: rest => if isHexGroup s then (groupCount? quadAllowed rest).map (· + 1) else none

def groupsOf? (quadAllowed : Bool) (s : List Char) : Option Nat :=
  if s.isEmpty then some 0 else groupCount? quadAllowed (List.splitOn ':' s)

/-- What stands before and behind the first `::`. -/
def atGap? : List Char → Option (List Char × List Char)
  | ':' :: ':' :: r => some ([], r)
  | c :: r => (atGap? r).map fun (before, behind) => (c :: before, behind)
  | [] => none

/-- Eight groups, or fewer with one `::` among them. -/
def isIpv6 (s : List Char) : Bool :=
  match atGap? s with
  | none => !s.isEmpty && groupsOf? true s == some 8
  | some (before, behind) =>
    match groupsOf? false before, groupsOf? true behind with
    | some m, some n => m + n ≤ 7
    | _, _ => false

def isBracketed (host : List Char) : Bool :=
  host.head? == some '[' && host.getLast? == some ']' && host.length ≥ 2 &&
    isIpv6 ((host.drop 1).dropLast)

/-- The domain that a host names once its percent escapes are replaced. A domain that ends in a
number has to be an IPv4 address. -/
def hostDomain? (host : List Char) : Option (List Char) := do
  let domain ← domain? (← Text.Utf8.decode? (unescape (Text.Utf8.encode host)))
  if endsInNumber domain && !isIpv4 domain then none else some domain

/-- Hosts of the schemes of the web. -/
def isWebHost (host : List Char) : Bool :=
  if host.head? == some '[' then isBracketed host else (hostDomain? host).isSome

/-- The host that stands for none in the address of a file. -/
def isLocalHost (host : List Char) : Bool :=
  host.head? != some '[' && hostDomain? host == some "localhost".toList

/-- Hosts of other schemes, the empty one included. -/
def isOpaqueHost (host : List Char) : Bool :=
  if host.head? == some '[' then isBracketed host
  else host.all fun c =>
    !("\x00\t\n\r #/:<>?@[\\]^|".toList.contains c)

end ElmPrerender.Url
