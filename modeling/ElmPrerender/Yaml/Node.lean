import ElmPrerender.Decimal.Reading
import ElmPrerender.Json.Printer
import ElmPrerender.Yaml.Token

/-!
The value of a YAML document. Plain texts stand for numbers, truth values and nothing by their
spelling, unless a tag names their kind; an alias stands for the value of its anchor.
-/

namespace ElmPrerender.Yaml

/-- Infinity and NaN by their names, which have no place in settings. -/
def isSpecialFloat (text : String) : Bool :=
  [".inf", ".Inf", ".INF", "+.inf", "+.Inf", "+.INF", "-.inf", "-.Inf", "-.INF", ".nan", ".NaN",
    ".NAN"].contains text

/-- A number with at least one digit. -/
def float? (text : String) : Option Decimal.Binary64 :=
  let s := text.toList
  if s.any Char.isDigit then Decimal.float? s else none

/-- Digits with an optional sign in front. -/
def signedDigits? (radix : Nat) (isDigit : Char → Bool) (s : List Char) : Option Int :=
  let (negative, digits) := Decimal.signed s
  if digits.isEmpty || !digits.all isDigit then none
  else
    let n : Int := Decimal.radixValue radix digits
    some (if negative then -n else n)

/-- A whole number of 64 bits in one of three notations. A plus sign may stand before the number's
own sign. -/
def whole? (text : String) : Option Int :=
  let found := match text.toList with
    | '0' :: 'x' :: s => signedDigits? 16 Decimal.isHexDigit s
    | '0' :: 'o' :: s => signedDigits? 8 Decimal.isOctalDigit s
    | '+' :: s => signedDigits? 10 Char.isDigit s
    | s => signedDigits? 10 Char.isDigit s
  found.filter Decimal.fitsSigned

/-- The value that a plain text stands for. -/
def resolve? (text : String) : Option Json.Value :=
  if text = "" || text = "~" || text = "null" then some .null
  else if text = "true" then some (.bool true)
  else if text = "false" then some (.bool false)
  else if isSpecialFloat text then none
  else
    match whole? text, float? text with
    | some i, _ => some (.number (.integer i))
    | none, some x => some (.number (.float x))
    | none, none => some (.string text)

/-- Names of kinds begin with this. -/
def kindSpace : String := "tag:yaml.org,2002:"

/-- The value of a plain text of a kind; nothing if it is not of that kind. -/
def ofKind? (kind text : String) : Option Json.Value :=
  match kind with
  | "bool" =>
    some (if text = "true" then .bool true else if text = "false" then .bool false else .null)
  | "int" =>
    some (match Decimal.signed64? text.toList with
      | some i => .number (.integer i)
      | none => .null)
  | "float" =>
    if isSpecialFloat text then none
    else some (match float? text with
      | some x => .number (.float x)
      | none => .null)
  | "null" => some .null
  | _ => some (.string text)

/-- A tag with its handle replaced. -/
structure Tag where
  space : String
  name : String
  deriving DecidableEq, Repr

def ofPlain? (tag : Option Tag) (text : String) : Option Json.Value :=
  match tag with
  | none => resolve? text
  | some t => if t.space = kindSpace then ofKind? t.name text else some (.string text)

/-- The text of a key; lists, objects and nothing are no keys. -/
def keyText? : Json.Value → Option String
  | .string s => some s
  | .bool b => some (if b then "true" else "false")
  | .number (.integer i) => some (toString i)
  | .number (.float x) => some (String.ofList (Json.floatLayout.finite x))
  | .null | .array _ | .object _ => none

/-- The object that has some keys, all of them different. -/
def objectOf? (entries : List (Json.Value × Json.Value)) : Option Json.Value := do
  if !(entries.map (·.1)).Nodup then none
  let members ← entries.mapM fun (key, v) => (keyText? key).map fun name => (name, v)
  some (.object (Json.Members.ofList members))

/-- What is left of a text, and what its parts so far have said. -/
structure Reading where
  tokens : List Token
  /-- Each anchor with the number of the value that it stands for. -/
  anchors : List (String × Nat)
  values : List (Nat × Json.Value)
  handles : List (String × String)

abbrev Builder := StateT Reading Option

namespace Builder

variable {α : Type}

def fail : Builder α := fun _ => none

def ofOption : Option α → Builder α
  | some a => pure a
  | none => fail

def peek? : Builder (Option Token) := fun r => some (r.tokens.head?, r)

def skip : Builder Unit := modify fun r => { r with tokens := r.tokens.tail }

/-- Reads a token if it comes next. -/
def accept (t : Token) : Builder Bool := fun r =>
  if r.tokens.head? = some t then some (true, { r with tokens := r.tokens.tail })
  else some (false, r)

def nextIs (among : List Token) : Builder Bool := fun r =>
  some (r.tokens.head?.any among.contains, r)

/-- Gives an anchor a number; until its value is known, it stands for nothing. -/
def register (name : String) : Builder Nat := fun r =>
  let number := r.anchors.length
  some (number, { r with anchors := (name, number) :: r.anchors })

/-- Replaces the handle of a tag. -/
def resolveTag (handle name : String) : Builder Tag := do
  let replaced := ((← get).handles.find? (·.1 == handle)).map (·.2)
  match replaced with
  | some space => pure ⟨space, name⟩
  | none =>
    if handle = "!!" then pure ⟨kindSpace, name⟩
    else if 2 ≤ handle.length && handle.endsWith "!" then fail
    else pure ⟨handle, name⟩

/-- An anchor and a tag before a value, in any order. -/
def properties : Builder (Option Nat × Option Tag) := do
  match ← peek? with
  | some (.anchor name) => do
    skip
    let number ← register name
    match ← peek? with
    | some (.tag handle name) => do
      skip
      let tag ← resolveTag handle name
      pure (some number, some tag)
    | _ => pure (some number, none)
  | some (.tag handle name) => do
    skip
    let tag ← resolveTag handle name
    match ← peek? with
    | some (.anchor name) => do
      skip
      let number ← register name
      pure (some number, some tag)
    | _ => pure (none, some tag)
  | _ => pure (none, none)

def referenced (name : String) : Builder Json.Value := do
  let r ← get
  match r.anchors.find? (·.1 == name) with
  | some (_, number) => pure (((r.values.find? (·.1 == number)).map (·.2)).getD .null)
  | none => fail

def remember (anchor : Option Nat) (v : Json.Value) : Builder Json.Value := do
  match anchor with
  | some number =>
    modify fun r => { r with values := (number, v) :: r.values }
    pure v
  | none => pure v

/-- Nothing is a value where an anchor or a tag says so. -/
def nothing (anchor : Option Nat) (tag : Option Tag) : Builder Json.Value :=
  if anchor.isNone && tag.isNone then fail else ofOption (ofPlain? tag "")

mutual
/-- A value. Only outside of brackets it may be a block, and only as the value of a key a sequence
that does not stand further in. -/
def node : Nat → Bool → Bool → Builder Json.Value
  | 0, _, _ => fail
  | fuel + 1, inBlock, mayBeFlat => do
    match ← peek? with
    | some (.reference name) => do
      skip
      referenced name
    | _ => do
      let (anchor, tag) ← properties
      let v ← match ← peek? with
        | some (.scalar isPlain text) => do
          skip
          if isPlain then ofOption (ofPlain? tag text) else pure (.string text)
        | some .flowSequenceStart => do
          skip
          .array <$> flowSequence fuel true
        | some .flowMappingStart => do
          skip
          let entries ← flowMapping fuel true
          ofOption (objectOf? entries)
        | some .entry => if mayBeFlat then .array <$> flatSequence fuel else nothing anchor tag
        | some .sequenceStart =>
          if inBlock then do
            skip
            .array <$> sequence fuel
          else nothing anchor tag
        | some .mappingStart =>
          if inBlock then do
            skip
            let entries ← mapping fuel
            ofOption (objectOf? entries)
          else nothing anchor tag
        | _ => nothing anchor tag
      remember anchor v

/-- A value, or nothing where the next token ends it. -/
def nodeBefore (ends : List Token) : Nat → Bool → Bool → Builder Json.Value
  | 0, _, _ => fail
  | fuel + 1, inBlock, mayBeFlat => do
    if ← nextIs ends then pure .null else node fuel inBlock mayBeFlat

/-- The value behind a colon, if there is one. -/
def valueBefore (ends : List Token) : Nat → Bool → Builder Json.Value
  | 0, _ => fail
  | fuel + 1, inBlock => do
    if ← accept .value then nodeBefore ends fuel inBlock inBlock else pure .null

def sequence : Nat → Builder (List Json.Value)
  | 0 => fail
  | fuel + 1 => do
    if ← accept .blockEnd then pure []
    else if ← accept .entry then do
      let v ← nodeBefore [.entry, .blockEnd] fuel true false
      let rest ← sequence fuel
      pure (v :: rest)
    else fail

/-- A sequence whose dashes stand below the key that it is the value of. -/
def flatSequence : Nat → Builder (List Json.Value)
  | 0 => fail
  | fuel + 1 => do
    if ← accept .entry then do
      let v ← nodeBefore [.entry, .key, .value, .blockEnd] fuel true false
      let rest ← flatSequence fuel
      pure (v :: rest)
    else pure []

def mapping : Nat → Builder (List (Json.Value × Json.Value))
  | 0 => fail
  | fuel + 1 => do
    let ends := [Token.key, .value, .blockEnd]
    if ← accept .blockEnd then pure []
    else do
      let key ←
        if ← accept .key then nodeBefore ends fuel true true
        else if ← nextIs [.value] then pure .null
        else fail
      let v ← valueBefore ends fuel true
      let rest ← mapping fuel
      pure ((key, v) :: rest)

def flowSequence : Nat → Bool → Builder (List Json.Value)
  | 0, _ => fail
  | fuel + 1, first => do
    if ← accept .flowSequenceEnd then pure []
    else if !first && !(← accept .flowEntry) then fail
    else if ← accept .flowSequenceEnd then pure []
    else do
      let v ←
        if ← accept .key then pair fuel
        else node fuel false false
      let rest ← flowSequence fuel false
      pure (v :: rest)

/-- A key with its value as an item of a list. -/
def pair : Nat → Builder Json.Value
  | 0 => fail
  | fuel + 1 => do
    let ends := [Token.flowEntry, .flowSequenceEnd]
    let key ←
      if ← nextIs (.value :: ends) then do
        skip
        pure .null
      else node fuel false false
    let v ← valueBefore ends fuel false
    ofOption (objectOf? [(key, v)])

def flowMapping : Nat → Bool → Builder (List (Json.Value × Json.Value))
  | 0, _ => fail
  | fuel + 1, first => do
    let ends := [Token.flowEntry, .flowMappingEnd]
    if ← accept .flowMappingEnd then pure []
    else if !first && !(← accept .flowEntry) then fail
    else if ← accept .flowMappingEnd then pure []
    else do
      let (key, v) ←
        if ← accept .key then do
          let key ← nodeBefore (.value :: ends) fuel false false
          let v ← valueBefore ends fuel false
          pure (key, v)
        else if ← nextIs [.value] then do
          let v ← valueBefore ends fuel false
          pure (.null, v)
        else do
          let key ← node fuel false false
          pure (key, .null)
      let rest ← flowMapping fuel false
      pure ((key, v) :: rest)
end

/-- Lines that say something of the document behind them; the version is given once. -/
def directives : Nat → Bool → Builder Unit
  | 0, _ => fail
  | fuel + 1, versioned => do
    match ← peek? with
    | some .version =>
      if versioned then fail
      else do
        skip
        directives fuel true
    | some (.tagHandle handle replacement) => do
      skip
      modify fun r => { r with handles := (handle, replacement) :: r.handles }
      directives fuel versioned
    | _ => pure ()

def documentEnds : Builder Unit :=
  modify fun r => { r with tokens := r.tokens.dropWhile (· = .documentEnd) }

/-- The value behind the mark that begins a document. -/
def markedDocument (fuel : Nat) : Builder Json.Value := do
  match ← peek? with
  | none | some .documentStart | some .documentEnd | some .version | some (.tagHandle _ _) =>
    pure .null
  | _ => node fuel true false

/-- The value of the only document; a text without any has no members. -/
def document : Builder Json.Value := do
  let fuel := 4 * (← get).tokens.length + 4
  documentEnds
  let v ← match ← peek? with
    | none => pure (.object [])
    | some .documentStart | some .version | some (.tagHandle _ _) => do
      directives fuel false
      if ← accept .documentStart then markedDocument fuel else fail
    | _ => node fuel true false
  documentEnds
  if (← get).tokens.isEmpty then pure v else fail

end Builder

/-- The value that a text holds. -/
def parse? (text : String) : Option Json.Value := do
  let tokens ← tokens? text.toList
  (Builder.document ⟨tokens, [], [], []⟩).map (·.1)

end ElmPrerender.Yaml
