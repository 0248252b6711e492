import ElmPrerender.Log.Record
import ElmPrerender.Text.Alphanumeric
import ElmPrerender.Text.White

/-!
Which records are written. A filter is a list of directives divided by commas, such as
`warn,elm_static_html::infra=debug`; of those that speak of a record the most particular one
decides, and a record of which none speaks is not written.
-/

namespace ElmPrerender.Log

structure Directive where
  /-- How the names of the parts that are meant begin; without it all parts are meant. -/
  target : Option String
  /-- Whether only what happens within a named span is meant. No record of this program does. -/
  inSpan : Bool
  /-- Fields that a record has to have. -/
  fields : List String
  threshold : Threshold
  deriving DecidableEq, Repr

/-- Why a directive is left out. -/
inductive DirectiveError where
  | malformed
  | level
  deriving DecidableEq, Repr

def DirectiveError.message : DirectiveError → String
  | .malformed => "invalid filter directive"
  | .level => Threshold.refusal

namespace Directive

/-- Every record from a threshold on. -/
def overall (threshold : Threshold) : Directive := ⟨none, false, [], threshold⟩

/-- A directive begins with a letter, a digit or one of these. -/
def mayBegin (c : Char) : Bool :=
  c == '-' || c == ':' || c == '_' || c == '[' || Text.isAlphanumeric c

/-- What stands behind an equals sign; where nothing does, every level is meant. -/
def level (s : List Char) : Except DirectiveError Threshold :=
  if s.isEmpty then .ok (.atLeast .trace)
  else match Threshold.parse? (String.ofList s) with
    | some threshold => .ok threshold
    | none => .error .level

/-- What stands behind a closing bracket. White space before the directive spoils its level. -/
def tail (indented : Bool) : List Char → Except DirectiveError Threshold
  | '=' :: s => if indented then .error .level else level s
  | s => if s.all Text.isWhite then .ok (.atLeast .trace) else .error .malformed

/-- What follows an opening bracket: the name of a span, a field in braces, or both. A field with a
value can only be that of a span, and so can one in a directive behind white space. -/
def bracket (target : Option String) (indented : Bool) (s : List Char) :
    Except DirectiveError Directive :=
  let ends (c : Char) : Bool := c == ']' || c == '{'
  let name := s.takeWhile (!ends ·)
  match s.dropWhile (!ends ·) with
  | ']' :: rest => do pure ⟨target, true, [], ← tail indented rest⟩
  | '{' :: rest =>
    let field := rest.takeWhile (· != '}')
    let fieldName := String.ofList (field.takeWhile (· != '='))
    match field, rest.dropWhile (· != '}') with
    | _ :: _, '}' :: ']' :: rest => do
      pure ⟨target, indented || !name.isEmpty || field.contains '=', [fieldName],
        ← tail indented rest⟩
    | _, _ => .error .malformed
  | _ => .error .malformed

/-- A level, a target, or a target with a level. White space is not cut off: it spoils a level. -/
def parse (s : List Char) : Except DirectiveError Directive :=
  let ends (c : Char) : Bool := c == '=' || c == '['
  let name := String.ofList (s.takeWhile (!ends ·))
  match s.dropWhile Text.isWhite with
  | [] => .error .malformed
  | first :: _ =>
    let indented := s.head? != some first
    if !mayBegin first then .error .malformed
    else match s.dropWhile (!ends ·) with
    | '=' :: rest =>
      if indented then .error .level else do pure ⟨some name, false, [], ← level rest⟩
    | '[' :: rest => bracket (if first == '[' then none else some name) indented rest
    | _ => match Threshold.parse? name with
      | some threshold => .ok (overall threshold)
      | none => .ok ⟨some name, false, [], .atLeast .trace⟩

/-- Whether a directive has a say about a record. -/
def speaksOf (d : Directive) (r : Record) : Bool :=
  !d.inSpan && d.target.all (fun t => t.toList.isPrefixOf r.target.toList) &&
    d.fields.all r.fieldNames.contains

/-- A target says more the longer it is, and any target says more than none. -/
def particularity (d : Directive) : Nat :=
  match d.target with
  | none => 0
  | some t => t.utf8ByteSize + 1

/-- Whether `e` decides where both speak of a record: the longer target, then the larger number of
fields, then the later fields in order, then the later directive. -/
def yieldsTo (d e : Directive) : Bool :=
  d.particularity < e.particularity || (d.particularity == e.particularity &&
    (d.fields.length < e.fields.length ||
      (d.fields.length == e.fields.length && !decide (e.fields < d.fields))))

end Directive

structure Filter where
  directives : List Directive
  deriving DecidableEq, Repr

namespace Filter

/-- The directives of a text, and the parts of it that are none. -/
def read (s : String) : List Directive × List (String × DirectiveError) :=
  let parts := (List.splitOn ',' s.toList).filter (!·.isEmpty)
  (parts.filterMap fun part => (Directive.parse part).toOption,
    parts.filterMap fun part => match Directive.parse part with
      | .error e => some (String.ofList part, e)
      | .ok _ => none)

/-- The filter that a text gives. One without directives stands for the threshold alone. -/
def ofText (s : String) (threshold : Threshold) : Filter :=
  match (read s).1 with
  | [] => ⟨[.overall threshold]⟩
  | directives => ⟨directives⟩

/-- What is said of the parts of a text that are left out. -/
def complaints (s : String) : List String :=
  (read s).2.map fun (part, e) => "ignoring `" ++ part ++ "`: " ++ e.message

/-- The directive that decides about a record. -/
def deciding? (f : Filter) (r : Record) : Option Directive :=
  (f.directives.filter (·.speaksOf r)).foldl
    (fun best d => match best with
      | some b => if b.yieldsTo d then some d else some b
      | none => some d)
    none

def admits (f : Filter) (r : Record) : Bool :=
  match f.deciding? r with
  | some d => d.threshold.admits r.level
  | none => false

end Filter

end ElmPrerender.Log
