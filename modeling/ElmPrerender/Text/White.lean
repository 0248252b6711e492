/-!
White space of Unicode, and what is cut at it: trimming, the next word of a text, and its first
line. All are given by `takeWhile` and `dropWhile`, so nothing of the text is lost between them.
-/

namespace ElmPrerender.Text

/-- The characters with the Unicode property White_Space. -/
def isWhite (c : Char) : Bool :=
  let n := c.toNat
  (9 ≤ n && n ≤ 13) || n == 0x20 || n == 0x85 || n == 0xA0 || n == 0x1680 ||
    (0x2000 ≤ n && n ≤ 0x200A) || n == 0x2028 || n == 0x2029 || n == 0x202F || n == 0x205F ||
    n == 0x3000

/-- Drops the last characters while they satisfy `p`. -/
def dropEndWhile (p : Char → Bool) (s : List Char) : List Char :=
  (s.reverse.dropWhile p).reverse

/-- Without white space at either end. -/
def trim (s : List Char) : List Char :=
  dropEndWhile isWhite (s.dropWhile isWhite)

/-- Without white space at the end. -/
def trimEnd (s : List Char) : List Char :=
  dropEndWhile isWhite s

/-- The first run of characters that are not white space, and what follows it. -/
def nextWord? (s : List Char) : Option (List Char × List Char) :=
  match s.dropWhile isWhite with
  | [] => none
  | c :: r => some ((c :: r).takeWhile (!isWhite ·), (c :: r).dropWhile (!isWhite ·))

/-- What stands before the first line feed. -/
def firstLine (s : List Char) : List Char :=
  s.takeWhile (· != '\n')

end ElmPrerender.Text
