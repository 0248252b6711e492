import ElmPrerender.ModuleName
import ElmPrerender.Path

/-!
What one page needs: where the HTML goes and which view function makes it.
-/

namespace ElmPrerender

/-- A value that the domain does not admit. -/
inductive DomainError where
  | emptyDestination
  | invalidEntry (name : String)
  | keywordEntry (name : String)
  | noTargets (moduleName : ModuleName)
  | configuredTwice (source : Path)
  deriving DecidableEq, Repr

namespace DomainError

/-- Whether two parts of a configuration contradict each other, as opposed to one bad value. -/
def isInvariant : DomainError → Bool
  | .noTargets _ | .configuredTwice _ => true
  | _ => false

def reason : DomainError → String
  | .emptyDestination => "output destination must not be empty"
  | .invalidEntry name => "`" ++ name ++ "` is not a valid view function name"
  | .keywordEntry name => "`" ++ name ++ "` is an Elm keyword and cannot name a view function"
  | .noTargets moduleName => "module `" ++ moduleName.text ++ "` has no render targets"
  | .configuredTwice source => "source file `" ++ source.text ++ "` is configured twice"

def message (e : DomainError) : String :=
  (if e.isInvariant then "domain invariant violated: " else "domain validation failed: ") ++ e.reason

end DomainError

/-- Where the HTML of one target ends up. -/
inductive Destination where
  | standardOutput
  | file (path : Path)
  deriving DecidableEq, Repr

namespace Destination

/-- The key that stands for standard output. -/
def standardOutputKey : String := "::stdout"

def ofKey (key : String) : Destination :=
  if key = standardOutputKey then .standardOutput else .file ⟨key⟩

/-- The text that stands for the destination in a configuration and in a batch. -/
def key : Destination → String
  | .standardOutput => standardOutputKey
  | .file path => path.text

/-- A destination as a user writes it: anything but the empty text. -/
def parse (raw : String) : Except DomainError Destination :=
  if raw.isEmpty then .error .emptyDestination else .ok (ofKey raw)

def display : Destination → String
  | .standardOutput => "stdout"
  | .file path => path.text

theorem ofKey_key (d : Destination) (h : d ≠ .file ⟨standardOutputKey⟩) : ofKey d.key = d := by
  cases d with
  | standardOutput => simp [ofKey, key]
  | file path =>
    have hp : path.text ≠ standardOutputKey := fun e => h (by rw [← e])
    simp [ofKey, key, hp]

theorem key_ofKey (k : String) : (ofKey k).key = k := by
  unfold ofKey
  split
  · rename_i h
    rw [h]
    rfl
  · rfl

end Destination

/-- A view function that a module exposes. -/
structure EntryFunction where
  name : String
  deriving DecidableEq, Repr

namespace EntryFunction

/-- Words of Elm 0.18 that cannot name a value. -/
def keywords : List String :=
  ["if", "then", "else", "case", "of", "let", "in", "type", "module", "where", "import",
    "exposing", "as", "port", "effect", "alias", "infix", "infixl", "infixr"]

/-- The entry used where a configuration names only an output. -/
def view : EntryFunction := ⟨"view"⟩

/-- A small letter, then letters, digits and underscores, all ASCII. -/
def isLowerIdentifier : List Char → Bool
  | [] => false
  | c :: r => c.isLower && r.all isIdentifierRest

def parse (name : String) : Except DomainError EntryFunction :=
  if !isLowerIdentifier name.toList then .error (.invalidEntry name)
  else if keywords.contains name then .error (.keywordEntry name)
  else .ok ⟨name⟩

def isDefault (e : EntryFunction) : Bool := e == view

end EntryFunction

/-- One page: its destination and the view that makes it. -/
structure RenderTarget where
  destination : Destination
  entry : EntryFunction
  deriving DecidableEq, Repr

end ElmPrerender
