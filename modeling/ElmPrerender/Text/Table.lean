/-!
Tables about characters. A table is written in words, in increasing order, with blanks or line
breaks between them. A word is a hexadecimal number, or the first and the last one of a run with a
hyphen between them; a slash behind a run leaves out every second number. What the table says about
them are numbers too: they stand behind a `>`, with dots between them.
-/

namespace ElmPrerender.Text

/-- What a table says about a run of characters. -/
structure Entry where
  first : Nat
  last : Nat
  step : Nat
  images : List Nat
  deriving DecidableEq, Repr

namespace Entry

def hexNumber (s : List Char) : Nat :=
  s.foldl (fun n c => n * 16 + (if c.isDigit then c.toNat - 48 else c.toNat - 87)) 0

def ofWord (word : List Char) : Entry :=
  let run := word.takeWhile (· != '>')
  let ends := (List.splitOn '-' (run.takeWhile (· != '/'))).map hexNumber
  let images := (word.dropWhile (· != '>')).drop 1
  {
    first := ends.headD 0
    last := ends.getLastD 0
    step := if run.contains '/' then 2 else 1
    images := if images.isEmpty then [] else (List.splitOn '.' images).map hexNumber }

/-- A single image belongs to the first character of the run, and the others follow in step. -/
def shifted (e : Entry) (n : Nat) : List Nat :=
  match e.images with
  | [image] => [image + (n - e.first)]
  | images => images

end Entry

structure Table where
  entries : Array Entry

namespace Table

def ofText (text : String) : Table :=
  let words := (text.splitOn "\n").flatMap fun line => List.splitOn ' ' line.toList
  ⟨((words.filter (!·.isEmpty)).map Entry.ofWord).toArray⟩

/-- Halves the places from `low` up to `high` until the one is left whose run may hold `n`. -/
def search (entries : Array Entry) (n : Nat) : Nat → Nat → Nat → Option Entry
  | 0, _, _ => none
  | fuel + 1, low, high =>
    if low < high then
      let middle := (low + high) / 2
      match entries[middle]? with
      | none => none
      | some e =>
        if n < e.first then search entries n fuel low middle
        else if e.last < n then search entries n fuel (middle + 1) high
        else some e
    else none

def find? (table : Table) (n : Nat) : Option Entry :=
  (search table.entries n table.entries.size 0 table.entries.size).filter fun e =>
    (n - e.first) % e.step == 0

def has (table : Table) (c : Char) : Bool := (table.find? c.toNat).isSome

end Table

end ElmPrerender.Text
