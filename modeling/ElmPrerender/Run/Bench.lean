import ElmPrerender.Run.Basic
import ElmPrerender.Store

/-!
A bench on which runs are tried: a store in memory some of whose paths cannot be written, standard
output that takes only so many bytes, and a compiler and a renderer given as functions of the store.
It keeps what was printed, what was told, and which tools were called.
-/

namespace ElmPrerender

inductive Tool where
  | compiler
  | renderer
  deriving DecidableEq, Repr

/-- How the surroundings of a run behave. -/
structure BenchRules where
  unwritable : List Path
  uncreatable : List Path
  build : Workspace → Store → Except ToolchainError BuildOutcome
  render : Workspace → Store → Except ToolchainError Batch
  /-- The number of bytes that standard output takes, if it is bounded. -/
  outputLimit : Option Nat
  flushFails : Bool

structure Bench where
  store : Store
  output : List UInt8
  log : List Event
  calls : List Tool
  deriving DecidableEq, Repr

namespace Bench

def ofStore (store : Store) : Bench := ⟨store, [], [], []⟩

def write (rules : BenchRules) (path : Path) (text : String) (b : Bench) :
    Except IoError Unit × Bench :=
  if rules.unwritable.any path.same then (.error (.unwritable path), b)
  else (.ok (), { b with store := b.store.write path text })

def createDirectories (rules : BenchRules) (path : Path) (b : Bench) :
    Except IoError Unit × Bench :=
  if rules.uncreatable.any path.same then (.error (.uncreatable path), b)
  else (.ok (), { b with store := b.store.createDirectories path })

/-- Prints as much as standard output takes. -/
def print (rules : BenchRules) (text : String) (b : Bench) : Except IoError Unit × Bench :=
  let bytes := Text.Utf8.ofString text
  let taken := match rules.outputLimit with
    | none => bytes
    | some limit => bytes.take (limit - b.output.length)
  let b := { b with output := b.output ++ taken }
  if taken.length = bytes.length then (.ok (), b) else (.error .outputClosed, b)

def host (rules : BenchRules) : RunHost (StateM Bench) where
  read path := fun b => (b.store.read path, b)
  write path text := write rules path text
  createDirectories path := createDirectories rules path
  build w := fun b => (rules.build w b.store, { b with calls := b.calls ++ [.compiler] })
  render w := fun b => (rules.render w b.store, { b with calls := b.calls ++ [.renderer] })
  print text := print rules text
  flush := fun b => (if rules.flushFails then .error .outputUnflushable else .ok (), b)
  log event := fun b => ((), { b with log := b.log ++ [event] })

/-- A run on the bench. -/
def run (rules : BenchRules) (options : RunOptions) (source : RunSource) (start : Stage)
    (b : Bench) : (Except RunError RunReport × Stage) × Bench :=
  Run.run (host rules) options source start b

/-- What stands before and behind the last occurrence of `mark`. -/
def splitAtLast? (mark : List Char) : List Char → Option (List Char × List Char)
  | [] => none
  | c :: r =>
    match splitAtLast? mark r with
    | some (before, behind) => some (c :: before, behind)
    | none =>
      if mark.isPrefixOf (c :: r) then some ([], (c :: r).drop mark.length) else none

def openings : List (List Char) := ["    [ decode ( \"".toList, "    , decode ( \"".toList]

def closing : List Char := " )".toList

/-- The page that stands for an element of the generated list: its key as it is written, and the
name of its view in a box. -/
def echoLine (line : List Char) : Option RenderedPage := do
  let opening ← openings.find? (·.isPrefixOf line)
  let rest := line.drop opening.length
  if closing.isSuffixOf rest then
    let (key, view) ← splitAtLast? "\", ".toList (rest.take (rest.length - closing.length))
    some ⟨String.ofList key, "<div>" ++ String.ofList view ++ "</div>"⟩
  else none

/-- The pages that a generated program stands for; without a program there are none. -/
def echo (w : Workspace) (s : Store) : Batch :=
  (List.splitOn '\n' ((s.file? w.driver).getD "").toList).filterMap echoLine

end Bench

end ElmPrerender
