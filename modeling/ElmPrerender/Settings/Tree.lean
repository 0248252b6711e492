import ElmPrerender.Decimal.Reading
import ElmPrerender.Decimal.Shortest
import ElmPrerender.Json.Value
import ElmPrerender.Text.Lowercase
import ElmPrerender.Toml.Value

/-!
Settings as they are gathered: a tree of values, each with the place it came from. A later source is
laid over the earlier ones member by member; a table that was laid over others has no one place of
origin.
-/

namespace ElmPrerender.Settings

inductive Scalar where
  | nothing
  | bool (value : Bool)
  | integer (value : Int)
  | float (value : Decimal.Binary64)
  | text (value : String)
  deriving DecidableEq, Repr

inductive Tree where
  | scalar (origin : Option String) (value : Scalar)
  | list (origin : Option String) (items : List Tree)
  | table (origin : Option String) (members : List (String × Tree))
  deriving Repr, Inhabited

namespace Tree

abbrev Members := List (String × Tree)

def origin : Tree → Option String
  | .scalar origin _ | .list origin _ | .table origin _ => origin

def find? (members : Members) (key : String) : Option Tree :=
  (List.find? (fun m => m.1 == key) members).map (·.2)

/-- The members of a table; anything else has none. -/
def members : Tree → Members
  | .table _ members => members
  | _ => []

/-- Gives a key its value, in its place if it has one and else behind the others. -/
def put (members : Members) (key : String) (v : Tree) : Members :=
  match members with
  | [] => [(key, v)]
  | (other, old) :: rest =>
    if other = key then (other, v) :: rest else (other, old) :: put rest key v

def nothing : Tree := .scalar none .nothing

/-- Changes the value of a key, which is made if it is missing. -/
def change (f : Tree → Tree) (key : String) (t : Tree) : Tree :=
  let origin := match t with
    | .table origin _ => origin
    | _ => none
  .table origin (put t.members key (f ((find? t.members key).getD nothing)))

mutual
/-- Lays a value over another: a table member by member, anything else as a whole. -/
def overlay : Tree → Tree → Tree
  | .table _ members, under => overlayMembers members (match under with
    | .table origin inner => .table origin inner
    | _ => .table none [])
  | .scalar origin v, _ => .scalar origin v
  | .list origin items, _ => .list origin items

def overlayMembers : List (String × Tree) → Tree → Tree
  | [], under => under
  | (key, v) :: rest, under => overlayMembers rest (change (overlay v) key under)
end

inductive Step where
  | key (name : String)
  | index (i : Int)
  deriving DecidableEq, Repr

def isNameChar (c : Char) : Bool := c.isAlphanum || c == '_' || c == '-'

def isBlank (c : Char) : Bool := c == ' ' || c == '\t'

/-- A whole number between blanks up to the closing bracket, and what follows that. -/
def index? (s : List Char) : Option (Int × List Char) :=
  let s := s.dropWhile isBlank
  let digits := if s.head? == some '-' then s.tail else s
  match (digits.dropWhile Char.isDigit).dropWhile isBlank with
  | ']' :: rest => do
    let n ← Decimal.digits? (digits.takeWhile Char.isDigit)
    let i : Int := if s.head? == some '-' then -(n : Int) else n
    if Decimal.fitsSigned i then some (i, rest) else none
  | _ => none

/-- Steps after the first: a dot with a name, or a number in brackets. -/
def steps? : Nat → List Char → Option (List Step)
  | 0, _ => none
  | _ + 1, [] => some []
  | fuel + 1, c :: s =>
    if c = '.' then
      let name := s.takeWhile isNameChar
      if name.isEmpty then none
      else (steps? fuel (s.dropWhile isNameChar)).map (.key (String.ofList name) :: ·)
    else if c = '[' then do
      let (i, rest) ← index? s
      (steps? fuel rest).map (.index i :: ·)
    else none

/-- The path that a key spells; a key that spells none is taken as a name. -/
def pathOf (key : String) : List Step :=
  match steps? (key.length + 2) ('.' :: key.toList) with
  | some path => path
  | none => [.key key]

/-- Items with room for an index, and its place among them. A negative one counts from the end. -/
def withRoom (i : Int) (items : List Tree) : List Tree × Nat :=
  if 0 ≤ i then (items ++ List.replicate (i.toNat + 1 - items.length) nothing, i.toNat)
  else if i.natAbs ≤ items.length then (items, items.length - i.natAbs)
  else (List.replicate (i.natAbs - items.length) nothing ++ items, 0)

/-- Changes the value at a path, making what is missing on the way. -/
def changeAt (f : Tree → Tree) : List Step → Tree → Tree
  | [], t => f t
  | .key name :: path, t => change (changeAt f path) name t
  | .index i :: path, t =>
    let (origin, items) := match t with
      | .list origin items => (origin, items)
      | _ => (none, [])
    let (items, n) := withRoom i items
    .list origin (items.set n (changeAt f path (items.getD n nothing)))

/-- Lays the members of a source over what is there; their names are read as paths. -/
def addSource (members : Members) (t : Tree) : Tree :=
  members.foldl (fun t m => changeAt (overlay m.2) (pathOf m.1) t) t

mutual
/-- A TOML value with its origin; dates and times are texts. -/
def ofToml (origin : Option String) : Toml.Value → Tree
  | .bool b => .scalar origin (.bool b)
  | .integer i => .scalar origin (.integer i)
  | .float x => .scalar origin (.float x)
  | .string s => .scalar origin (.text s)
  | .moment s => .scalar origin (.text s)
  | .array items => .list origin (ofTomlItems origin items)
  | .tables lists => .list origin (ofTomlTables origin lists).reverse
  | .table _ members => .table origin (ofTomlMembers origin members)

def ofTomlItems (origin : Option String) : List Toml.Value → List Tree
  | [] => []
  | v :: rest => ofToml origin v :: ofTomlItems origin rest

def ofTomlMembers (origin : Option String) : List (String × Toml.Value) → List (String × Tree)
  | [] => []
  | (key, v) :: rest => (key, ofToml origin v) :: ofTomlMembers origin rest

def ofTomlTables (origin : Option String) : List (List (String × Toml.Value)) → List Tree
  | [] => []
  | members :: rest => .table origin (ofTomlMembers origin members) :: ofTomlTables origin rest
end

/-- Whole numbers that need all 64 bits are floats. -/
def ofJsonNumber : Json.Number → Scalar
  | .integer i => if i < Decimal.signedLimit then .integer i else .float (.ofNat i.toNat)
  | .float x => .float x

mutual
def ofJson (origin : Option String) : Json.Value → Tree
  | .null => .scalar origin .nothing
  | .bool b => .scalar origin (.bool b)
  | .number n => .scalar origin (ofJsonNumber n)
  | .string s => .scalar origin (.text s)
  | .array items => .list origin (ofJsonItems origin items)
  | .object members => .table origin (ofJsonMembers origin members)

def ofJsonItems (origin : Option String) : List Json.Value → List Tree
  | [] => []
  | v :: rest => ofJson origin v :: ofJsonItems origin rest

def ofJsonMembers (origin : Option String) : List (String × Json.Value) → List (String × Tree)
  | [] => []
  | (key, v) :: rest => (key, ofJson origin v) :: ofJsonMembers origin rest
end

/-- A text read as a truth value, a whole number or a float, if it is one. -/
def scalarOfText (s : String) : Scalar :=
  let small := Text.lowercase s.toList
  if small = "true".toList then .bool true
  else if small = "false".toList then .bool false
  else match Decimal.signed64? s.toList with
    | some i => .integer i
    | none =>
      match Decimal.float? s.toList with
      | some x => .float x
      | none => .text s

end Tree

end ElmPrerender.Settings
