import ElmPrerender.Text.Decomposition
import ElmPrerender.Text.Mark

/-!
The composed form of a text. Every character is taken apart, the marks behind each other are put in
the order of their classes, and characters are put together again where one stands for two. Texts
that are canonically the same have the same composed form.
-/

namespace ElmPrerender.Text

def firstSyllable : Nat := 0xAC00
def firstLead : Nat := 0x1100
def firstVowel : Nat := 0x1161
/-- The tails are numbered from one. -/
def tailBase : Nat := 0x11A7
def leadCount : Nat := 19
def vowelCount : Nat := 21
def tailCount : Nat := 28
def syllableCount : Nat := leadCount * vowelCount * tailCount

def isSyllable (n : Nat) : Bool := firstSyllable ≤ n && n < firstSyllable + syllableCount

def syllableParts (n : Nat) : List Nat :=
  let i := n - firstSyllable
  let lead := firstLead + i / (vowelCount * tailCount)
  let vowel := firstVowel + i % (vowelCount * tailCount) / tailCount
  let tail := i % tailCount
  if tail = 0 then [lead, vowel] else [lead, vowel, tailBase + tail]

def syllable? (a b : Nat) : Option Nat :=
  if firstLead ≤ a && a < firstLead + leadCount && firstVowel ≤ b && b < firstVowel + vowelCount then
    some (firstSyllable + ((a - firstLead) * vowelCount + (b - firstVowel)) * tailCount)
  else if isSyllable a && (a - firstSyllable) % tailCount = 0 && tailBase < b &&
      b < tailBase + tailCount then
    some (a + (b - tailBase))
  else none

/-- How often what a character stands for stands for others again. -/
def maxNesting : Nat := 4

def parts : Nat → Nat → List Nat
  | 0, n => [n]
  | nesting + 1, n =>
    if isSyllable n then syllableParts n
    else match decompositions.find? n with
      | some e => e.images.flatMap (parts nesting)
      | none => [n]

/-- A character before others whose marks are in order. -/
def placeMark (c : Char) : List Char → List Char
  | [] => [c]
  | d :: r =>
    if combiningClass d ≠ 0 && combiningClass d < combiningClass c then d :: placeMark c r
    else c :: d :: r

def decomposed (s : List Char) : List Char :=
  (s.flatMap fun c => (parts maxNesting c.toNat).map Char.ofNat).foldr placeMark []

/-- Two characters as one number. -/
def pairNumber (a b : Nat) : Nat := a * 0x200000 + b

def compositions : Table :=
  let pairs := decompositions.entries.toList.filterMap fun e =>
    match e.images with
    | [a, b] =>
      if (neverComposed.find? e.first).isSome then none
      else some ⟨pairNumber a b, pairNumber a b, 1, [e.first]⟩
    | _ => none
  ⟨(pairs.mergeSort fun x y => x.first ≤ y.first).toArray⟩

def combined? (a b : Char) : Option Char :=
  ((syllable? a.toNat b.toNat).or
    ((compositions.find? (pairNumber a.toNat b.toNat)).bind (·.images.head?))).map Char.ofNat

/-- What follows a character of class zero, `marks` being those between that stay, the last one
first. A mark of the same class, or of a higher one, keeps the next from that character. -/
def composeBehind (base : Char) (marks : List Char) : List Char → List Char
  | [] => base :: marks.reverse
  | c :: r =>
    let kept := marks.head?.any fun mark => combiningClass c ≤ combiningClass mark
    match if kept then none else combined? base c with
    | some whole => composeBehind whole marks r
    | none =>
      if combiningClass c = 0 then base :: (marks.reverse ++ composeBehind c [] r)
      else composeBehind base (c :: marks) r

/-- Marks at the start have nothing to be put together with. -/
def composeMarked : List Char → List Char
  | [] => []
  | c :: r => if combiningClass c = 0 then composeBehind c [] r else c :: composeMarked r

def composed (s : List Char) : List Char := composeMarked (decomposed s)

end ElmPrerender.Text
