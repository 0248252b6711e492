import ElmPrerender.Text.Composition
import ElmPrerender.Text.Direction
import ElmPrerender.Text.Joining
import ElmPrerender.Url.DomainCharacter
import ElmPrerender.Url.Punycode

/-!
Domains: labels with dots between them. A domain is read in its normal form, in which characters
that stand for others are replaced and the rest is composed. A label that begins with `xn--` is the
ASCII form of one with other characters.
-/

namespace ElmPrerender.Url

def isAscii (c : Char) : Bool := c.toNat < 0x80

/-- ASCII characters that no domain holds. -/
def isForbidden (c : Char) : Bool :=
  c.toNat ≤ 0x20 || c.toNat == 0x7F || "#%/:<>?@[\\]^|".toList.contains c

/-- The form that a text takes in a domain, if it may stand there. ASCII letters only become
small. -/
def normalForm? (s : List Char) : Option (List Char) :=
  if s.all isAscii then some (s.map Char.toLower)
  else do
    let images ← s.mapM standsFor?
    some (Text.composed images.flatten)

def asciiFormMark : List Char := "xn--".toList

/-- How many characters the ASCII form of a label may have behind its mark. -/
def maxAsciiForm : Nat := 2000

/-- How many characters a label with others than ASCII may have. -/
def maxLabel : Nat := 1000

/-- What the ASCII form of a label stands for, given without its mark: a text in normal form. -/
def ofAsciiForm? (s : List Char) : Option (List Char) :=
  if s.isEmpty || s.getLast? == some '-' || !s.all isAscii || s.length > maxAsciiForm then none
  else do
    let label ← Punycode.decode? s
    if normalForm? label == some label && !label.any isForbidden then some label else none

def label? (s : List Char) : Option (List Char) :=
  if asciiFormMark.isPrefixOf s then ofAsciiForm? (s.drop asciiFormMark.length) else some s

def nonJoiner : Char := Char.ofNat 0x200C
def joiner : Char := Char.ofNat 0x200D

/-- Whether a letter for which `p` holds comes next, marks aside. -/
def reaches (p : Char → Bool) (s : List Char) : Bool := (s.dropWhile Text.isTransparent).head?.any p

/-- Joiners stand behind a mark that suppresses a vowel; the non-joiner may also stand between
letters that join. `before` holds what has been passed, the last character first. -/
def joinersFit : List Char → List Char → Bool
  | _, [] => true
  | before, c :: r =>
    let behindVirama := before.head?.any (Text.combiningClass · == Text.viramaClass)
    let betweenJoined := reaches Text.joinsNext before && reaches Text.joinsPrevious r
    ((c != joiner && c != nonJoiner) || behindVirama || (c == nonJoiner && betweenJoined)) &&
      joinersFit (c :: before) r

/-- A label with characters other than ASCII does not begin with a mark. -/
def isLabel (label : List Char) : Bool :=
  label.all isAscii ||
    (!label.head?.any Text.isMark && joinersFit [] label && label.length ≤ maxLabel)

/-- Whether a character makes the direction of its domain matter. -/
def turnsDirection (c : Char) : Bool :=
  !isAscii c &&
    (Text.direction c == .rightToLeft || Text.direction c == .arabicNumber)

/-- A label has the direction of its first character: the others have it too or none, and the last
one that is no mark has it or is a number. -/
def directionsFit : List Char → Bool
  | [] => true
  | c :: r =>
    let lastFirst := (r.map Text.direction).reverse.dropWhile (· == .nonspacing)
    match Text.direction c with
    | .leftToRight =>
      lastFirst.head?.all [.leftToRight, .europeanNumber].contains &&
        lastFirst.all [.leftToRight, .europeanNumber, .neutral, .nonspacing].contains
    | .rightToLeft =>
      lastFirst.head?.all [.rightToLeft, .europeanNumber, .arabicNumber].contains &&
        lastFirst.all (· != .leftToRight) &&
        !(lastFirst.contains .europeanNumber && lastFirst.contains .arabicNumber)
    | _ => false

/-- The normal form of a text that is a domain. -/
def domain? (s : List Char) : Option (List Char) := do
  let domain ← normalForm? s
  if domain.isEmpty || domain.any isForbidden then none
  else
    let labels ← (List.splitOn '.' domain).mapM label?
    let turns := labels.any (·.any turnsDirection)
    if labels.all isLabel && (!turns || labels.all directionsFit) then some domain else none

end ElmPrerender.Url
