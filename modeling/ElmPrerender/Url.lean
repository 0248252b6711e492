import ElmPrerender.Url.Host

/-!
The path of an address. An address starts with a scheme; what follows is read by the rules of the
web for its scheme. Paths below a host, or with a leading slash, have their dot segments resolved;
other paths are opaque. A text that is no address has no path.
-/

namespace ElmPrerender.Url

/-- How the part after the scheme is read. -/
inductive SchemeKind where
  | web
  | file
  | other
  deriving DecidableEq, Repr

namespace SchemeKind

def ofScheme (scheme : List Char) : SchemeKind :=
  if scheme = "file".toList then .file
  else if ["http", "https", "ws", "wss", "ftp"].any (·.toList = scheme) then .web
  else .other

/-- Only the schemes of the web take a backslash for a slash. -/
def isSlash (kind : SchemeKind) (c : Char) : Bool := c == '/' || (kind != .other && c == '\\')

end SchemeKind

def isSchemeChar (c : Char) : Bool := c.isAlphanum || c == '+' || c == '-' || c == '.'

/-- The scheme in small letters, and what follows its colon. -/
def scheme? (s : List Char) : Option (List Char × List Char) :=
  match s with
  | [] => none
  | c :: _ =>
    if !c.isAlpha then none
    else match s.dropWhile isSchemeChar with
      | ':' :: rest => some ((s.takeWhile isSchemeChar).map Char.toLower, rest)
      | _ => none

def hexPair (b : UInt8) : List Char :=
  let digit (n : Nat) : Char := (Nat.digitChar n).toUpper
  ['%', digit (b.toNat / 16), digit (b.toNat % 16)]

def isControl (c : Char) : Bool := c.toNat < 0x20 || c.toNat == 0x7F

def escapeWhere (p : Char → Bool) (s : List Char) : List Char :=
  s.flatMap fun c =>
    if p c || 0x80 ≤ c.toNat then (String.utf8EncodeChar c).flatMap hexPair else [c]

def isEscapedInPath (c : Char) : Bool :=
  isControl c || c == ' ' || c == '"' || c == '<' || c == '>' || c == '\x60' || c == '#' ||
    c == '?' || c == '{' || c == '}'

def isDot (segment : List Char) : Bool :=
  segment == ['.'] || segment.map Char.toLower == "%2e".toList

def isDoubleDot (segment : List Char) : Bool :=
  ["..", ".%2e", "%2e.", "%2e%2e"].any fun s => segment.map Char.toLower == s.toList

/-- A letter and a colon, or a bar in its place. -/
def isDrive : List Char → Bool
  | [letter, mark] => letter.isAlpha && (mark == ':' || mark == '|')
  | _ => false

/-- The last segment goes, but for a drive. -/
def parentSegments : List (List Char) → List (List Char)
  | [] => []
  | s :: rest => if isDrive s then s :: rest else rest

/-- Tabs and line breaks do not count. -/
def isBreak (c : Char) : Bool := c == '\t' || c == '\n' || c == '\r'

def unbroken (s : List Char) : List Char := s.filter (!isBreak ·)

/-- A segment behind the segments `done`, the last one first. A file's path may begin with a drive,
which is written with a colon and which a break parts from what follows. -/
def addSegment (kind : SchemeKind) (done : List (List Char)) (segment : List Char) :
    List (List Char) :=
  let whole := unbroken segment
  let drive := whole.take 2
  let kept := escapeWhere isEscapedInPath
  if kind == .file && done.isEmpty && isDrive drive then
    if whole == drive then [drive.take 1 ++ [':']]
    else if drive.drop 1 == [':'] && driveEnds segment then [kept (whole.drop 2), drive]
    else [kept whole]
  else kept whole :: done
where
  driveEnds (segment : List Char) : Bool :=
    ((segment.dropWhile (· != ':')).drop 1).head?.any isBreak

/-- Resolves dot segments; `done` holds the segments so far, the last one first. -/
def resolveDots (kind : SchemeKind) : List (List Char) → List (List Char) → List (List Char)
  | done, [] => done.reverse
  | done, segment :: rest =>
    if isDoubleDot (unbroken segment) then
      let parent := parentSegments done
      resolveDots kind (if rest.isEmpty then [] :: parent else parent) rest
    else if isDot (unbroken segment) then
      resolveDots kind (if rest.isEmpty then [] :: done else done) rest
    else resolveDots kind (addSegment kind done segment) rest

/-- The path up to a question mark or a hash. -/
def upToQuery (s : List Char) : List Char := s.takeWhile fun c => c != '?' && c != '#'

/-- A path with a slash in front of it, which has been read. A file's path has no empty segments
in front. -/
def rootedPath (kind : SchemeKind) (s : List Char) : List Char :=
  let slashes := (upToQuery s).map fun c => if kind.isSlash c then '/' else c
  let path := List.intercalate ['/'] (resolveDots kind [] (List.splitOn '/' slashes))
  '/' :: (if kind == .file then path.dropWhile (· == '/') else path)

/-- What follows a slash. -/
def afterSlash? (kind : SchemeKind) (s : List Char) : Option (List Char) :=
  match s.dropWhile isBreak with
  | c :: rest => if kind.isSlash c then some rest else none
  | [] => none

/-- A path that may begin with a slash. -/
def pathFrom (kind : SchemeKind) (s : List Char) : List Char :=
  rootedPath kind ((afterSlash? kind s).getD s)

/-- Without any slashes there is nothing to resolve. -/
def opaquePath (s : List Char) : List Char := escapeWhere isControl (upToQuery s)

def endsAuthority (kind : SchemeKind) (c : Char) : Bool :=
  kind.isSlash c || c == '?' || c == '#'

/-- Drops what a user is named by. An empty host behind it is refused where the user is empty too
and a path follows. -/
def afterUser? (kind : SchemeKind) (s : List Char) : Option (Bool × List Char) :=
  let authority := s.takeWhile (!endsAuthority kind ·)
  if !authority.contains '@' then some (false, s)
  else
    let host := (authority.reverse.takeWhile (· != '@')).reverse
    let user := authority.take (authority.length - host.length - 1)
    let rest := s.drop (user.length + 1)
    if user.isEmpty && rest.head?.any (endsAuthority kind) then none
    else some (!user.isEmpty && user != [':'], rest)

/-- A host up to a colon outside brackets. -/
def hostText (kind : SchemeKind) : Bool → List Char → List Char
  | _, [] => []
  | bracketed, c :: r =>
    if endsAuthority kind c || (c == ':' && !bracketed) then []
    else c :: hostText kind (c == '[' || (bracketed && c != ']')) r

/-- The largest number that may follow a host's colon. -/
def maxHostNumber : Nat := 65535

/-- Drops a colon with a number, which has to end where the path begins. -/
def afterHostNumber? (s : List Char) : Option (List Char) :=
  match s with
  | ':' :: rest =>
    let digits := rest.takeWhile Char.isDigit
    let rest := rest.dropWhile Char.isDigit
    if digits.foldl (fun n c => n * 10 + hexValue c) 0 > maxHostNumber then none
    else if rest.head?.all fun c => c == '/' || c == '\\' || c == '?' || c == '#' then some rest
    else none
  | _ => some s

/-- The path behind a host, the slashes before which have been read. -/
def pathAfterHost? (kind : SchemeKind) (s : List Char) : Option (List Char) := do
  let (user, s) ← afterUser? kind s
  let host := hostText kind false s
  let rest := s.drop host.length
  if host.isEmpty then
    if kind != .other || user || rest.head? == some ':' then none
  else if !(if kind == .other then isOpaqueHost host else isWebHost host) then none
  let rest ← afterHostNumber? rest
  if kind == .other && rest.head?.all fun c => c == '?' || c == '#' then some []
  else some (pathFrom kind rest)

/-- The path of a file, whose host, if there is one, stands behind two slashes. Behind a host that
stands for none, the slash in front of the path is part of it. -/
def filePath? (s : List Char) : Option (List Char) :=
  match (afterSlash? .file s).bind (afterSlash? .file) with
  | none => some (pathFrom .file s)
  | some s =>
    let host := unbroken (s.takeWhile (!endsAuthority .file ·))
    let rest := s.dropWhile (!endsAuthority .file ·)
    if isDrive host then some (rootedPath .file s)
    else if host.isEmpty || isLocalHost host then some (rootedPath .file rest)
    else if isWebHost host then some (pathFrom .file rest)
    else none

def otherPath? (s : List Char) : Option (List Char) :=
  match s with
  | '/' :: '/' :: rest => pathAfterHost? .other rest
  | '/' :: rest => some (rootedPath .other rest)
  | _ => some (opaquePath s)

/-- Control characters and spaces around an address do not count. -/
def cleaned (s : List Char) : List Char :=
  let isOuter (c : Char) : Bool := c.toNat ≤ 0x20
  ((s.dropWhile isOuter).reverse.dropWhile isOuter).reverse

/-- The path of an address, if the text is one. -/
def path? (text : List Char) : Option (List Char) := do
  let text := cleaned text
  let (scheme, rest) ← scheme? (unbroken text)
  match SchemeKind.ofScheme scheme with
  | .web => pathAfterHost? .web (rest.dropWhile SchemeKind.web.isSlash)
  | .file => filePath? ((text.dropWhile (· != ':')).drop 1)
  | .other => otherPath? rest

end ElmPrerender.Url
