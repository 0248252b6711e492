import ElmPrerender.CommandLine.Arguments
import ElmPrerender.Elm.Driver
import ElmPrerender.Log.Level
import ElmPrerender.Settings.Error
import ElmPrerender.Settings.Tree
import ElmPrerender.Workspace

/-!
The settings of a run. Sources are laid over each other, the values are brought to their kinds, the
command line overrides them, and only then are they checked, in a fixed order.
-/

namespace ElmPrerender

structure Settings where
  threshold : Log.Threshold
  json : Bool
  workspace : Path
  elmMake : Path
  node : Path
  format : Elm.Format
  deriving DecidableEq, Repr

namespace Settings

namespace Tree

def unexpected : Tree → Unexpected
  | .scalar _ .nothing => .nothing
  | .scalar _ (.bool b) => .bool b
  | .scalar _ (.integer i) => .integer i
  | .scalar _ (.float x) => .float x
  | .scalar _ (.text s) => .text s
  | .list _ _ => .list
  | .table _ _ => .table

def asBool (t : Tree) : Except (Unexpected × String) Bool :=
  let expected := "a boolean"
  match t with
  | .scalar _ (.bool b) => .ok b
  | .scalar _ (.integer i) => .ok (i != 0)
  | .scalar _ (.float x) => .ok (!x.isZero)
  | .scalar _ (.text s) =>
    let small := String.ofList (Text.lowercase s.toList)
    if ["1", "true", "on", "yes"].contains small then .ok true
    else if ["0", "false", "off", "no"].contains small then .ok false
    else .error (.text small, expected)
  | t => .error (t.unexpected, expected)

/-- The nearest whole number, a half away from zero, kept within 64 bits without sign. -/
def roundFloat (x : Decimal.Binary64) : Nat :=
  let most := Decimal.wordLimit - 1
  if x.isNaN || x.isNegative then 0
  else if x.isInfinite then most
  else
    let (num, den) := Decimal.Binary64.scaled x.significand x.power
    min most ((2 * num + den) / (2 * den))

def asNat (t : Tree) : Except (Unexpected × String) Nat :=
  let expected := "an integer"
  match t with
  | .scalar _ (.bool b) => .ok (if b then 1 else 0)
  | .scalar _ (.integer i) =>
    if i < 0 then .error (.integer i, "an unsigned 64 bit or less integer") else .ok i.toNat
  | .scalar _ (.float x) => .ok (roundFloat x)
  | .scalar _ (.text s) =>
    let small := String.ofList (Text.lowercase s.toList)
    if ["true", "on", "yes"].contains small then .ok 1
    else if ["false", "off", "no"].contains small then .ok 0
    else match Decimal.unsigned64? s.toList with
      | some n => .ok n
      | none => .error (.text s, expected)
  | t => .error (t.unexpected, expected)

def asText (t : Tree) : Except (Unexpected × String) String :=
  match t with
  | .scalar _ (.bool b) => .ok (if b then "true" else "false")
  | .scalar _ (.integer i) => .ok (toString i)
  | .scalar _ (.float x) => .ok (String.ofList (plainLayout.text x))
  | .scalar _ (.text s) => .ok s
  | t => .error (t.unexpected, "a string")

end Tree

/-- Settings that may be missing, not checked yet. -/
structure Draft where
  level : Option String := none
  json : Option Bool := none
  directory : Option String := none
  elmMakePath : Option String := none
  nodePath : Option String := none
  indent : Option Nat := none
  newLines : Option Bool := none
  deriving DecidableEq, Repr

namespace Draft

/-- A value of a kind, reported under `label` if it is of another; no value is none. -/
def brought {α : Type} (kind : Tree → Except (Unexpected × String) α) (label : String) (t : Tree) :
    Except SettingsError (Option α) :=
  match t with
  | .scalar _ .nothing => .ok none
  | t =>
    match kind t with
    | .ok a => .ok (some a)
    | .error (unexpected, expected) => .error (.wrongKind ⟨unexpected, expected, label, t.origin⟩)

/-- Takes over the value of a key. -/
def setValue (p : Draft) (k : Key) (label : String) (t : Tree) :
    Except SettingsError Draft :=
  match k with
  | .level => do pure { p with level := ← brought Tree.asText label t }
  | .json => do pure { p with json := ← brought Tree.asBool label t }
  | .directory => do pure { p with directory := ← brought Tree.asText label t }
  | .elmMakePath => do pure { p with elmMakePath := ← brought Tree.asText label t }
  | .nodePath => do pure { p with nodePath := ← brought Tree.asText label t }
  | .indent => do pure { p with indent := ← brought Tree.asNat label t }
  | .newLines => do pure { p with newLines := ← brought Tree.asBool label t }

/-- Takes over a member of a group's table; names that are no settings do not count. -/
def setMember (group : Section) (p : Draft) (m : String × Tree) :
    Except SettingsError Draft :=
  match group.keys.find? (·.name == m.1) with
  | some k => p.setValue k k.fullName m.2
  | none => .ok p

/-- Takes over a list that stands for a group: its items are the settings in order. -/
def setItems (group : Section) (p : Draft) :
    List (Key × Tree) → Nat → Except SettingsError Draft
  | [], _ => .ok p
  | (k, t) :: rest, n => do
    let p ← p.setValue k (group.name ++ "[" ++ toString n ++ "]") t
    setItems group p rest (n + 1)

def setGroup (p : Draft) (group : Section) (t : Tree) : Except SettingsError Draft :=
  match t with
  | .table _ members => members.foldlM (setMember group) p
  | .list _ items => setItems group p (group.keys.zip items) 0
  | t => .error (.notTable group t.unexpected)

def groups : List Section := [.logging, .workspace, .toolchain, .render]

/-- The settings in a tree. -/
def ofTree (t : Tree) : Except SettingsError Draft :=
  t.members.foldlM
    (fun p m => match groups.find? (·.name == m.1) with
      | some group => p.setGroup group m.2
      | none => .ok p)
    {}

/-- What the command line gives wins; being verbose is a level of its own, below a given one. -/
def override (p : Draft) (a : Arguments) : Draft :=
  { level := a.logLevel.or (if a.verbose then some "debug" else p.level)
    json := a.logJson.or p.json
    directory := a.workspaceDir.or p.directory
    elmMakePath := a.elmMakePath.or p.elmMakePath
    nodePath := a.nodePath.or p.nodePath
    indent := a.indent.or p.indent
    newLines := p.newLines }

def checkedPath (value : Option String) (standard : String) (r : Refusal) :
    Except SettingsError Path :=
  let text := value.getD standard
  if text.isEmpty then .error (.refused r) else .ok ⟨text⟩

def checkedThreshold : Option String → Except SettingsError Log.Threshold
  | none => .ok (.atLeast .warn)
  | some s =>
    match Log.Threshold.parse? s with
    | some t => .ok t
    | none => .error (.refused .level)

def checkedIndent (value : Option Nat) : Except SettingsError Nat :=
  let indent := value.getD Elm.Format.standard.indent
  if indent > maxIndent then .error (.refused .indentTooLarge) else .ok indent

/-- The programs that are looked for where no others are given. -/
def standardElmMake : String := "elm-make"
def standardNode : String := "node"

/-- Fills in what is missing, and accepts or refuses. -/
def check (p : Draft) : Except SettingsError Settings := do
  let threshold ← checkedThreshold p.level
  let workspace ← checkedPath p.directory Workspace.defaultDirectory.text .directoryEmpty
  let elmMake ← checkedPath p.elmMakePath standardElmMake .elmMakePathEmpty
  let node ← checkedPath p.nodePath standardNode .nodePathEmpty
  let indent ← checkedIndent p.indent
  pure
    { threshold := threshold
      json := p.json.getD false
      workspace := workspace
      elmMake := elmMake
      node := node
      format := ⟨indent, p.newLines.getD Elm.Format.standard.newLines⟩ }

end Draft

/-- The sources laid over each other, the later over the earlier. -/
def merge (sources : List Tree.Members) : Tree :=
  sources.foldl (fun t members => Tree.addSource members t) (.table none [])

/-- The settings from sources, the command line above them all. -/
def resolve (sources : List Tree.Members) (a : Arguments) : Except SettingsError Settings := do
  ((← Draft.ofTree (merge sources)).override a).check

end Settings

end ElmPrerender
