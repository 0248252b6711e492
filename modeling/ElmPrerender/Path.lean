/-!
POSIX paths. A path keeps the text it was written with; two paths are the same when their
components are. Nothing here resolves `..` or looks at a file system.
-/

namespace ElmPrerender

structure Path where
  text : String
  deriving DecidableEq, Repr

namespace Path

inductive Component where
  | root
  | current
  | parent
  | normal (name : String)
  deriving DecidableEq, Repr

namespace Component

/-- Empty segments and `.` say nothing. -/
def ofSegment? : List Char → Option Component
  | [] => none
  | ['.'] => none
  | ['.', '.'] => some .parent
  | segment => some (.normal (String.ofList segment))

def rank : Component → Nat
  | .root => 0
  | .current => 1
  | .parent => 2
  | .normal _ => 3

/-- The root first, then `.`, then `..`, then names by their code points. -/
def before : Component → Component → Bool
  | .normal a, .normal b => decide (a < b)
  | a, b => decide (a.rank < b.rank)

end Component

/-- The components of a text: a leading `/` is the root, and only a leading `.` is kept. -/
def componentsOf (text : List Char) : List Component :=
  match List.splitOn '/' text with
  | [] :: segment :: rest => .root :: (segment :: rest).filterMap Component.ofSegment?
  | ['.'] :: rest => .current :: rest.filterMap Component.ofSegment?
  | segments => segments.filterMap Component.ofSegment?

def components (p : Path) : List Component := componentsOf p.text.toList

/-- Whether two texts name the same path. -/
def same (p q : Path) : Bool := p.components == q.components

/-- Component by component; a path stands before those that extend it. -/
def componentsBefore : List Component → List Component → Bool
  | [], [] => false
  | [], _ :: _ => true
  | _ :: _, [] => false
  | a :: p, b :: q => a.before b || (a == b && componentsBefore p q)

def before (p q : Path) : Bool := componentsBefore p.components q.components

def isAbsolute (p : Path) : Bool := p.text.toList.head? == some '/'

/-- `q` seen from `p`: an absolute `q` stands for itself. -/
def join (p q : Path) : Path :=
  if q.isAbsolute then q
  else if p.text.isEmpty || p.text.toList.getLast? == some '/' then ⟨p.text ++ q.text⟩
  else ⟨p.text ++ "/" ++ q.text⟩

/-- The components in segments, each with the place where its segment ends. -/
def cutsFrom (start : Nat) : List (List Char) → List (Component × Nat)
  | [] => []
  | segment :: rest =>
    let stop := start + segment.length
    match Component.ofSegment? segment with
    | some c => (c, stop) :: cutsFrom (stop + 1) rest
    | none => cutsFrom (stop + 1) rest

/-- The components of a text, each with the place where it ends. -/
def cuts (text : List Char) : List (Component × Nat) :=
  match List.splitOn '/' text with
  | [] :: segment :: rest => (.root, 1) :: cutsFrom 1 (segment :: rest)
  | ['.'] :: rest => (.current, 1) :: cutsFrom 2 rest
  | segments => cutsFrom 0 segments

theorem map_fst_cutsFrom (start : Nat) (segments : List (List Char)) :
    (cutsFrom start segments).map (·.1) = segments.filterMap Component.ofSegment? := by
  induction segments generalizing start with
  | nil => rfl
  | cons segment rest ih =>
    cases h : Component.ofSegment? segment with
    | none => simp [cutsFrom, h, ih]
    | some c => simp [cutsFrom, h, ih]

theorem map_fst_cuts (text : List Char) : (cuts text).map (·.1) = componentsOf text := by
  unfold cuts componentsOf
  split <;> simp [map_fst_cutsFrom]

/-- The leading part of the text that ends with the last component but one. The root and the empty
path have no parent. -/
def parent? (p : Path) : Option Path :=
  match (cuts p.text.toList).reverse with
  | [] | (.root, _) :: _ => none
  | [_] => some ⟨""⟩
  | _ :: (_, stop) :: _ => some ⟨String.ofList (p.text.toList.take stop)⟩

/-- At most `fuel` paths, each the parent of the one before it. -/
def chain : Nat → Path → List Path
  | 0, _ => []
  | fuel + 1, p => p :: match p.parent? with
    | none => []
    | some q => chain fuel q

/-- The path, its parent, the parent's parent and so on. -/
def ancestors (p : Path) : List Path := chain (p.components.length + 1) p

/-- The file name: the last component, if it is a name. -/
def fileName? (p : Path) : Option String :=
  match p.components.getLast? with
  | some (.normal name) => some name
  | _ => none

end Path

end ElmPrerender
