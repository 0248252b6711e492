import ElmPrerender.Yaml.Scalar

/-!
The tokens of a YAML text. Beginnings and ends of blocks are tokens too, found by the columns in
which lines begin. What is a key shows only at the colon behind it, so each place where a key may
begin is remembered until then.
-/

namespace ElmPrerender.Yaml

inductive Token where
  | version
  | tagHandle (handle replacement : String)
  | documentStart
  | documentEnd
  | sequenceStart
  | mappingStart
  | blockEnd
  | flowSequenceStart
  | flowSequenceEnd
  | flowMappingStart
  | flowMappingEnd
  | entry
  | flowEntry
  | key
  | value
  | reference (name : String)
  | anchor (name : String)
  | tag (handle name : String)
  | scalar (isPlain : Bool) (text : String)
  deriving DecidableEq, Repr

/-- A place where a key may have begun. -/
structure KeyStart where
  possible : Bool
  /-- Whether nothing but a key may stand there. -/
  required : Bool
  /-- How many tokens come before it. -/
  number : Nat
  index : Nat
  line : Nat
  column : Nat

def KeyStart.none : KeyStart := ⟨false, false, 0, 0, 0, 0⟩

/-- A column that lines have to reach, behind which the enclosing one is restored. -/
structure Indent where
  enclosing : Int
  /-- Whether it belongs to a block, and not just to the value of a key. -/
  isBlock : Bool

/-- What has been read of a text. -/
structure Progress where
  cursor : Cursor
  /-- The tokens so far, the last one first. -/
  tokens : List Token
  /-- The column of the last token, if that is an anchor or a tag. -/
  propertyColumn : Option Nat
  keyAllowed : Bool
  /-- One for each level of brackets, the innermost first, and one for the block around them. -/
  keys : List KeyStart
  indent : Int
  indents : List Indent
  flowLevel : Nat
  /-- Where a value may follow its colon without a blank. -/
  adjacentAt : Option Nat
  mappingStarted : Bool
  /-- For each list in brackets, the level at which its present item is a key with its value, if it
  is. -/
  pairs : List (Option Nat)

abbrev Lexer := StateT Progress Option

namespace Lexer

variable {α : Type}

def fail : Lexer α := fun _ => none

def lift (content : Reader α) : Lexer α := fun p => do
  let (a, cursor) ← content p.cursor
  some (a, { p with cursor := cursor })

def cursor : Lexer Cursor := fun p => some (p.cursor, p)

def skip (count : Nat) : Lexer Unit := lift (Reader.skip count)

/-- Adds a token that begins in a column. -/
def push (column : Nat) (t : Token) : Lexer Unit :=
  modify fun p =>
    let property := match t with
      | .anchor _ | .tag _ _ => some column
      | _ => none
    { p with tokens := t :: p.tokens, propertyColumn := property }

/-- Puts a token behind as many others. -/
def insertAt (number : Nat) (t : Token) : Lexer Unit :=
  modify fun p =>
    let behind := p.tokens.length - number
    { p with tokens := p.tokens.take behind ++ t :: p.tokens.drop behind }

def allowKey (allowed : Bool) : Lexer Unit :=
  modify fun p => { p with keyAllowed := allowed }

def setKey (k : KeyStart) : Lexer Unit :=
  modify fun p => { p with keys := k :: p.keys.tail }

/-- Remembers that a key may begin here. -/
def saveKey : Lexer Unit := do
  let p ← get
  if p.keyAllowed then
    let required := p.flowLevel = 0 && p.indent = p.cursor.column &&
      (p.indents.head?.any (·.isBlock))
    setKey ⟨true, required, p.tokens.length, p.cursor.index, p.cursor.line, p.cursor.column⟩

/-- No key began at the innermost place. -/
def removeKey : Lexer Unit := do
  let k := (← get).keys.headD .none
  if k.possible && k.required then fail
  setKey { k with possible := false }

/-- Keys outside of brackets stand on one line, and are not too long. -/
def maxKeyLength : Nat := 1024

def isStale (place : Cursor) (k : KeyStart) : Bool :=
  k.possible && (k.line < place.line || k.index + maxKeyLength < place.index)

/-- Gives up the places where a key can no longer have begun. -/
def dropStaleKeys : Lexer Unit := do
  let p ← get
  if p.flowLevel = 0 then
    if p.keys.any fun k => isStale p.cursor k && k.required then fail
    let drop (k : KeyStart) : KeyStart :=
      if isStale p.cursor k then { k with possible := false } else k
    set { p with keys := p.keys.map drop }

/-- Ends the blocks that begin further in than a column. -/
def unroll (column : Int) : Lexer Unit :=
  modify fun p =>
    if p.flowLevel = 0 then unrollSteps column p.indents p else p
where
  unrollSteps (column : Int) : List Indent → Progress → Progress
    | [], p => { p with indents := [] }
    | i :: rest, p =>
      if column < p.indent then
        unrollSteps column rest { p with
          indent := i.enclosing
          tokens := if i.isBlock then .blockEnd :: p.tokens else p.tokens
          propertyColumn := if i.isBlock then none else p.propertyColumn }
      else { p with indents := i :: rest }

/-- Gives up the columns that belong to no block. -/
def unrollValues : Lexer Unit :=
  modify fun p => steps p.indents p
where
  steps : List Indent → Progress → Progress
    | [], p => { p with indents := [] }
    | i :: rest, p =>
      if i.isBlock then { p with indents := i :: rest }
      else steps rest { p with indent := i.enclosing }

/-- Begins a block in a column, unless one has begun there. -/
def roll (column : Nat) (add : Lexer Unit) : Lexer Unit := do
  if (← get).flowLevel = 0 then
    modify fun p =>
      match p.indents with
      | i :: rest =>
        if p.indent ≤ column && !i.isBlock then { p with indent := i.enclosing, indents := rest }
        else p
      | [] => p
    if (← get).indent < column then
      modify fun p =>
        { p with indents := ⟨p.indent, true⟩ :: p.indents, indent := column }
      add

/-- What follows in a block has to stand one column further in. -/
def rollValue : Lexer Unit :=
  modify fun p =>
    if p.flowLevel = 0 && p.indents.head?.any (·.isBlock) then
      { p with indents := ⟨p.indent, false⟩ :: p.indents, indent := p.indent + 1 }
    else p

/-- Goes to the next token. Behind a line end a key may begin; tabs are no indentation. -/
def toToken : Nat → Lexer Unit
  | 0 => fail
  | fuel + 1 => do
    let p ← get
    match p.cursor.rest with
    | '\n' :: _ => do
      skip 1
      if p.flowLevel = 0 then allowKey true
      toToken fuel
    | '#' :: _ => do
      discard (lift (Reader.spanWhile (· != '\n')))
      toToken fuel
    | '\t' :: _ => do
      if !p.indents.isEmpty && p.cursor.fresh && p.cursor.isOutside p.indent then do
        discard (lift Reader.blanksAndComment)
        if !endsLine (← cursor).rest then fail
      else skip 1
      toToken fuel
    | ' ' :: _ => do
      skip 1
      toToken fuel
    | _ => pure ()

def toNextToken : Lexer Unit := do
  toToken ((← cursor).rest.length + 1)

/-- Blanks and a comment behind a sign. -/
def afterSign : Lexer Unit := do
  discard (lift Reader.blanksAndComment)

/-- How many brackets may enclose each other. -/
def maxFlowLevel : Nat := 255

def openFlow (t : Token) : Lexer Unit := do
  let column := (← cursor).column
  saveKey
  rollValue
  if (← get).flowLevel = maxFlowLevel then fail
  modify fun p => { p with
    keys := .none :: p.keys
    flowLevel := p.flowLevel + 1
    mappingStarted := p.mappingStarted || t = .flowMappingStart
    pairs := if t = .flowMappingStart then p.pairs else none :: p.pairs }
  allowKey true
  skip 1
  afterSign
  push column t

/-- Ends the key with its value that stands as an item of a list in brackets. -/
def endPair : Lexer Unit := do
  let p ← get
  match p.pairs with
  | some level :: rest => do
    if level = p.flowLevel then
      set { p with pairs := none :: rest, mappingStarted := false }
      push p.cursor.column .flowMappingEnd
  | _ => pure ()

def closeFlow (t : Token) : Lexer Unit := do
  removeKey
  if t = .flowSequenceEnd then do
    endPair
    modify fun p => { p with pairs := p.pairs.tail }
  modify fun p =>
    if 0 < p.flowLevel then { p with flowLevel := p.flowLevel - 1, keys := p.keys.tail } else p
  allowKey false
  let column := (← cursor).column
  skip 1
  afterSign
  modify fun p =>
    if 0 < p.flowLevel then { p with adjacentAt := some p.cursor.index } else p
  push column t

def flowEntry : Lexer Unit := do
  removeKey
  allowKey true
  endPair
  let column := (← cursor).column
  skip 1
  afterSign
  push column .flowEntry

/-- The dash before an item of a block. -/
def entry : Lexer Unit := do
  let p ← get
  if 0 < p.flowLevel || !p.keyAllowed then fail
  if p.propertyColumn == some 0 && p.cursor.column = 0 && -1 < p.indent then fail
  let column := p.cursor.column
  skip 1
  roll column (push column .sequenceStart)
  let (tab, _) ← lift Reader.blanksAndComment
  let rest := (← cursor).rest
  if tab && rest.head? == some '-' && endsWord rest.tail then fail
  if rest.head? == some '\n' || rest.head?.any isFlowSign then rollValue
  removeKey
  allowKey true
  push (← cursor).column .entry

/-- Spaces, comments and line ends, at least one of which has to follow a question mark. -/
def afterQuestion : Nat → Bool → Lexer Unit
  | 0, _ => fail
  | fuel + 1, found => do
    let p ← get
    match p.cursor.rest with
    | ' ' :: _ => do
      skip 1
      afterQuestion fuel true
    | '\n' :: _ => do
      skip 1
      if p.flowLevel = 0 then allowKey true
      afterQuestion fuel true
    | '#' :: _ => do
      discard (lift (Reader.spanWhile (· != '\n')))
      afterQuestion fuel found
    | '\t' :: _ => fail
    | _ => if found then pure () else fail

/-- The question mark before a key. -/
def key : Lexer Unit := do
  let p ← get
  let column := p.cursor.column
  if p.flowLevel = 0 then do
    if !p.keyAllowed then fail
    roll column (push column .mappingStart)
  else set { p with mappingStarted := true }
  removeKey
  allowKey (p.flowLevel = 0)
  skip 1
  afterQuestion ((← cursor).rest.length + 1) false
  push column .key

/-- The colon before a value. If a key may have begun before it, it did. -/
def value : Lexer Unit := do
  let p ← get
  let k := p.keys.headD .none
  let place := p.cursor
  let isPair := !p.pairs.isEmpty && !p.mappingStarted
  if isPair then modify fun p => { p with pairs := some p.flowLevel :: p.pairs.tail }
  skip 1
  if (← cursor).rest.head? == some '\t' then do
    let (_, space) ← lift Reader.blanksAndComment
    if !space && (← cursor).rest.head?.any isWordChar then fail
  if k.possible then do
    insertAt k.number .key
    if isPair then do
      if k.line < place.line then fail
      insertAt k.number .flowMappingStart
    roll k.column (insertAt k.number .mappingStart)
    rollValue
    setKey { k with possible := false }
    allowKey false
  else do
    if isPair then push place.column .flowMappingStart
    if p.flowLevel = 0 then do
      if !p.keyAllowed then fail
      roll place.column (push place.column .mappingStart)
    rollValue
    allowKey (p.flowLevel = 0)
  push place.column .value

/-- A colon in brackets that no blank follows. -/
def flowValue : Lexer Unit := do
  let p ← get
  let opens := match p.cursor.rest.tail.head? with
    | some c => c == '[' || c == '{'
    | none => false
  if p.adjacentAt != some p.cursor.index && opens then fail
  value

/-- The name behind the sign of an anchor or an alias. -/
def anchorName : Reader String := do
  Reader.skip 1
  let name ← Reader.spanWhile fun c =>
    !isBlank c && c != '\n' && !isFlowSign c && c.toNat != 0xFEFF
  if name.isEmpty then Reader.fail else pure (String.ofList name)

def isUriChar (c : Char) : Bool :=
  c.isAlphanum || c == '-' || "#;/?:@&=+$,_.!~*'()[]%".toList.contains c

def isTagChar (c : Char) : Bool := isUriChar c && !isFlowSign c && c != '!'

/-- Characters of a tag, some of them escaped by a percent sign and two digits. -/
def tagText (isChar : Char → Bool) : Nat → Reader (List Char)
  | 0 => Reader.fail
  | fuel + 1 => do
    match ← Reader.peek? with
    | some c =>
      if isChar c then do
        Reader.skip 1
        let c ← if c = '%' then Reader.onLine (Text.Scan.hexEscape 2) else pure c
        let rest ← tagText isChar fuel
        pure (c :: rest)
      else pure []
    | none => pure []

def tagChars (isChar : Char → Bool) : Reader String := do
  String.ofList <$> tagText isChar (← Reader.enough)

/-- An exclamation mark with a word behind it, and another exclamation mark if there is one. -/
def tagHandle : Reader String := do
  if !(← Reader.accept '!') then Reader.fail
  let word ← Reader.spanWhile isWordChar
  if ← Reader.accept '!' then pure (String.ofList ('!' :: word ++ ['!']))
  else pure (String.ofList ('!' :: word))

/-- A tag: its name in full between angle brackets, or a name behind a handle. -/
def tagToken (inFlow : Bool) : Reader Token := do
  let p ← get
  let found ←
    if p.rest.tail.head? == some '<' then do
      Reader.skip 2
      let name ← tagChars isUriChar
      if !(← Reader.accept '>') then Reader.fail
      pure (Token.tag "" name)
    else do
      let handle ← tagHandle
      let name ← tagChars isTagChar
      if 2 ≤ handle.length && handle.endsWith "!" then
        if name.isEmpty then Reader.fail else pure (Token.tag handle name)
      else
        let name := String.ofList (handle.toList.drop 1) ++ name
        pure (if name.isEmpty then Token.tag "" "!" else Token.tag "!" name)
  let rest := (← get).rest
  if endsWord rest || (inFlow && rest.head?.any isFlowSign) then pure found else Reader.fail

/-- A part of a version. -/
def versionPart : Reader Unit := do
  let digits ← Reader.spanWhile Char.isDigit
  if digits.isEmpty || 9 < digits.length then Reader.fail

/-- What replaces a handle: a name, or the beginning of one. -/
def tagReplacement : Reader String := do
  match ← Reader.peek? with
  | some c => if c = '!' || isTagChar c then tagChars (fun c => isUriChar c) else Reader.fail
  | none => Reader.fail

/-- A line that says something of the document behind it. -/
def directive : Reader Token := do
  Reader.skip 1
  let name ← Reader.spanWhile isWordChar
  if name.isEmpty || !endsWord (← get).rest then Reader.fail
  let found ←
    if name = "YAML".toList then do
      discard (Reader.spanWhile isBlank)
      versionPart
      if !(← Reader.accept '.') then Reader.fail
      versionPart
      pure Token.version
    else if name = "TAG".toList then do
      discard (Reader.spanWhile isBlank)
      let handle ← tagHandle
      if handle != "!" && !("!".toList.isSuffixOf (handle.toList.drop 1)) then Reader.fail
      discard (Reader.spanWhile isBlank)
      let replacement ← tagReplacement
      if !endsWord (← get).rest then Reader.fail
      pure (Token.tagHandle handle replacement)
    else do
      discard (Reader.spanWhile (· != '\n'))
      pure (Token.tagHandle "" "")
  discard Reader.blanksAndComment
  if endsLine (← get).rest then do
    Reader.skip 1
    pure found
  else Reader.fail

/-- A token that ends all blocks. -/
def outermost (content : Reader Token) : Lexer Unit := do
  unroll (-1)
  removeKey
  allowKey false
  let column := (← cursor).column
  push column (← lift content)

def mark (t : Token) : Reader Token := do
  Reader.skip 3
  pure t

/-- A token with which a key may begin. -/
def word (content : Lexer Token) : Lexer Unit := do
  let column := (← cursor).column
  saveKey
  allowKey false
  push column (← content)

def quotedToken : Lexer Token := do
  let p ← get
  let text ← lift (quoted p.indent (0 < p.flowLevel))
  toNextToken
  modify fun p => { p with adjacentAt := some p.cursor.index }
  pure (.scalar false text)

def plainToken : Lexer Token := do
  unrollValues
  let p ← get
  let text ← lift (plain (p.indent + 1) (0 < p.flowLevel))
  if (← cursor).fresh then allowKey true
  pure (.scalar true text)

/-- A block of lines, behind which a key may begin. -/
def blockScalar (fold : Bool) : Lexer Unit := do
  let column := (← cursor).column
  saveKey
  allowKey true
  skip 1
  unrollValues
  let text ← lift (block (← get).indent fold)
  push column (.scalar false text)

/-- Reads what begins with the next character. -/
def token (c : Char) (behind : List Char) : Lexer Unit := do
  let p ← get
  let inFlow := 0 < p.flowLevel
  match c with
  | '[' => openFlow .flowSequenceStart
  | '{' => openFlow .flowMappingStart
  | ']' => closeFlow .flowSequenceEnd
  | '}' => closeFlow .flowMappingEnd
  | ',' => flowEntry
  | '*' => word (.reference <$> lift anchorName)
  | '&' => word (.anchor <$> lift anchorName)
  | '!' => word (lift (tagToken inFlow))
  | '\'' | '"' => word quotedToken
  | '%' | '@' | '\x60' => fail
  | _ =>
    if c = '-' && endsWord behind then entry
    else if c = '?' && endsWord behind then key
    else if c = ':' && endsWord behind then value
    else if c = ':' && inFlow &&
        (behind.head?.any isFlowSign || p.adjacentAt == some p.cursor.index) then flowValue
    else if c = '|' && !inFlow then blockScalar false
    else if c = '>' && !inFlow then blockScalar true
    else word plainToken

/-- Reads the next token; tells whether there was one. -/
def step : Lexer Bool := do
  toNextToken
  dropStaleKeys
  unroll (← cursor).column
  let p ← get
  match p.cursor.rest with
  | [] => do
    if p.keys.any fun k => k.possible && k.required then fail
    unroll (-1)
    pure false
  | c :: behind => do
    if p.cursor.column = 0 && c = '%' then outermost directive
    else if p.cursor.startsMark '-' then outermost (mark .documentStart)
    else if p.cursor.startsMark '.' then do
      outermost (mark .documentEnd)
      afterSign
      if !endsLine (← cursor).rest then fail
    else if p.cursor.isOutside p.indent then fail
    else token c behind
    pure true

def steps : Nat → Lexer Unit
  | 0 => fail
  | fuel + 1 => do
    if ← step then steps fuel

end Lexer

/-- The tokens of a text. -/
def tokens? (text : List Char) : Option (List Token) :=
  let start : Progress :=
    ⟨Cursor.start text, [], none, true, [.none], -1, [], 0, none, false, []⟩
  (Lexer.steps (text.length + 2) start).map (·.2.tokens.reverse)

end ElmPrerender.Yaml
