import ElmPrerender.Proofs.Elm.DriverLines

/-!
# Reading a generated program

A reader that goes through the lines of a generated program. It knows the lines that are the same
in every program and takes the imports, the format and the pages from the others. It reads every
program whose names follow their grammars, whatever the destination keys are.
-/

namespace ElmPrerender.Elm.DriverReader

open Driver

abbrev Lines := List (List Char)

/-- The lines behind the given ones, which have to come first. -/
def skip? (fixed : List String) (lines : Lines) : Option Lines :=
  lines.dropPrefix? (fixed.map String.toList)

/-- The text behind a mark, which has to come first. -/
def after? (mark : String) (text : List Char) : Option (List Char) :=
  text.dropPrefix? mark.toList

/-- The modules that the first lines import, up to a line that imports none. -/
def imports : Lines → List ModuleName × Lines
  | [] => ([], [])
  | line :: rest =>
    match after? "import " line with
    | some name => (⟨String.ofList name⟩ :: (imports rest).1, (imports rest).2)
    | none => ([], line :: rest)

def flag? (text : List Char) : Option (Bool × List Char) :=
  match after? "True" text with
  | some rest => some (true, rest)
  | none => (after? "False" text).map fun rest => (false, rest)

def format? (line : List Char) : Option Format := do
  let rest ← after? r"    { defaultFormatOptions | newLines = " line
  let (newLines, rest) ← flag? rest
  let rest ← after? ", indent = " rest
  if rest.dropWhile Char.isDigit = r" }".toList then
    some ⟨Nat.ofDigitChars 10 (rest.takeWhile Char.isDigit) 0, newLines⟩
  else none

/-- A view with its module, which ends at the last dot. -/
def view? (text : List Char) : Option (ModuleName × EntryFunction) :=
  match text.reverse.dropWhile (· != '.') with
  | [] => none
  | _ :: name =>
    some (⟨String.ofList name.reverse⟩,
      ⟨String.ofList (text.reverse.takeWhile (· != '.')).reverse⟩)

/-- The page that an element of the list stands for. -/
def element? (lead : String) (line : List Char) : Option Binding := do
  let rest ← after? lead line
  let rest ← after? "decode ( " rest
  let (key, rest) ← StringLiteral.read? rest
  let rest ← after? ", " rest
  if rest.dropWhile isViewChar = " )".toList then do
    let (name, entry) ← view? (rest.takeWhile isViewChar)
    some ⟨String.ofList key, name, entry⟩
  else none

def elementsRest? : Lines → Option (List Binding × Lines)
  | [] => none
  | line :: rest =>
    if line = "    ]".toList then some ([], rest)
    else do
      let b ← element? "    , " line
      let (bs, rest) ← elementsRest? rest
      some (b :: bs, rest)

/-- The elements of the list that begins with the first line, and the lines behind its end. -/
def elements? : Lines → Option (List Binding × Lines)
  | [] => none
  | line :: rest =>
    if line = "    []".toList then some ([], rest)
    else do
      let b ← element? "    [ " line
      let (bs, rest) ← elementsRest? rest
      some (b :: bs, rest)

/-- The modules of a project, which an empty line sets off if there are any. -/
def importBlock? : Lines → Option (List ModuleName × Lines)
  | [] :: rest =>
    match imports rest with
    | ([], _) => some ([], [] :: rest)
    | (modules, rest) => some (modules, rest)
  | _ => none

/-- The parts of the program that a text is; a text that is none is refused. -/
def read? (text : String) : Option Driver := do
  let lines ← skip? opening (List.splitOn '\n' text.toList)
  let (modules, lines) ← importBlock? lines
  let lines ← skip? middle lines
  let format ← lines.head?.bind format?
  let lines ← skip? beforePages lines.tail
  let (bindings, lines) ← elements? lines
  let lines ← skip? ending lines
  if lines = [[]] then some ⟨modules, bindings, format⟩ else none

theorem skip?_append (fixed : List String) (rest : Lines) :
    skip? fixed (fixed.map String.toList ++ rest) = some rest :=
  List.dropPrefix?_append_of_beq rest (beq_self_eq_true _)

theorem after?_append (mark : String) (rest : List Char) :
    after? mark (mark.toList ++ rest) = some rest :=
  List.dropPrefix?_append_of_beq rest (beq_self_eq_true _)

/-- A first character that differs is enough to refuse a mark. -/
theorem after?_eq_none {mark : String} {c d : Char} {m text : List Char}
    (hm : mark.toList = d :: m) (hc : d ≠ c) : after? mark (c :: text) = none := by
  have hb : (c == d) = false := by simpa using hc.symm
  simp [after?, hm, List.dropPrefix?, hb]

theorem imports_importLines (modules : List ModuleName) (rest : Lines) :
    imports ((modules.map importLine).map String.toList ++ [] :: rest) = (modules, [] :: rest) := by
  induction modules with
  | nil => rfl
  | cons m ms ih =>
    simp only [List.map_cons, List.cons_append, imports, importLine, String.toList_append,
      after?_append, ih, String.ofList_toList]

theorem flag?_append (newLines : Bool) (rest : List Char) :
    flag? ((if newLines then "True" else "False").toList ++ rest) = some (newLines, rest) := by
  cases newLines with
  | true => simp only [flag?, if_true, after?_append]
  | false =>
    have hnone : after? "True" ("False".toList ++ rest) = none :=
      after?_eq_none (d := 'T') (m := "rue".toList) rfl (by decide)
    simp only [flag?, Bool.false_eq_true, if_false, hnone, after?_append, Option.map_some]

theorem ofDigitChars_toString (n : Nat) : Nat.ofDigitChars 10 (toString n).toList 0 = n := by
  rw [Nat.toString_eq_ofList_toDigits, String.toList_ofList, Nat.ofDigitChars_ten_toDigits]

theorem format?_formatLine (format : Format) :
    format? (formatLine format).toList = some format := by
  have hline : (formatLine format).toList =
      r"    { defaultFormatOptions | newLines = ".toList ++
        ((if format.newLines then "True" else "False").toList ++
          (", indent = ".toList ++ ((toString format.indent).toList ++ r" }".toList))) := by
    unfold formatLine
    simp only [String.toList_append, List.append_assoc]
  have htake : ((toString format.indent).toList ++ r" }".toList).takeWhile Char.isDigit =
      (toString format.indent).toList := by
    rw [List.takeWhile_append_of_pos (indent_isDigit format.indent)]
    simp
  have hdrop : ((toString format.indent).toList ++ r" }".toList).dropWhile Char.isDigit =
      r" }".toList := by
    rw [List.dropWhile_append_of_pos (indent_isDigit format.indent)]
    rfl
  rw [format?, hline]
  simp only [after?_append, Option.bind_eq_bind, Option.bind_some, flag?_append, hdrop, htake,
    if_true, ofDigitChars_toString]

/-- An entry holds no dot, so the last dot is the one before it. -/
theorem view?_append {name : ModuleName} {entry : EntryFunction} (h : entry.Grammatical) :
    view? (name.text.toList ++ '.' :: entry.name.toList) = some (name, entry) := by
  have hentry : ∀ c ∈ entry.name.toList.reverse, (c != '.') = true := by
    intro c hc
    have hid := h.isIdentifierRest c (List.mem_reverse.mp hc)
    rw [bne_iff_ne]
    rintro rfl
    revert hid
    decide
  have hreverse : (name.text.toList ++ '.' :: entry.name.toList).reverse =
      entry.name.toList.reverse ++ '.' :: name.text.toList.reverse := by simp
  simp only [view?, hreverse]
  rw [List.dropWhile_append_of_pos hentry, List.takeWhile_append_of_pos hentry]
  simp

theorem element?_expression (lead : String) {b : Binding} (hm : b.moduleName.Grammatical)
    (he : b.entry.Grammatical) : element? lead (lead ++ expression b).toList = some b := by
  have hview : ∀ c ∈ b.moduleName.text.toList ++ '.' :: b.entry.name.toList,
      isViewChar c = true := by
    intro c hc
    rcases List.mem_append.mp hc with hc | hc
    · exact hm.isViewChar c hc
    · rcases List.mem_cons.mp hc with rfl | hc
      · rfl
      · exact isViewChar_of_isIdentifierRest (he.isIdentifierRest c hc)
  have hline : (lead ++ expression b).toList =
      lead.toList ++ ("decode ( ".toList ++ (StringLiteral.encode b.key.toList ++
        (", ".toList ++ ((b.moduleName.text.toList ++ '.' :: b.entry.name.toList) ++
          " )".toList)))) := by
    simp only [expression, StringLiteral.ofString, String.toList_append, String.toList_ofList,
      List.append_assoc, String.reduceToList, List.cons_append, List.nil_append]
  have htake : ((b.moduleName.text.toList ++ '.' :: b.entry.name.toList) ++
      " )".toList).takeWhile isViewChar =
        b.moduleName.text.toList ++ '.' :: b.entry.name.toList := by
    rw [List.takeWhile_append_of_pos hview]
    simp [show isViewChar ' ' = false from rfl]
  have hdrop : ((b.moduleName.text.toList ++ '.' :: b.entry.name.toList) ++
      " )".toList).dropWhile isViewChar = " )".toList := by
    rw [List.dropWhile_append_of_pos hview]
    rfl
  simp only [element?, hline, after?_append, StringLiteral.read?_encode, Option.bind_eq_bind,
    Option.bind_some, hdrop, htake, if_true, view?_append he, String.ofList_toList]

theorem elementsRest?_append {bindings : List Binding} (h : ∀ b ∈ bindings, b.Grammatical)
    (rest : Lines) :
    elementsRest? (((bindings.map expression).map ("    , " ++ ·)).map String.toList ++
      "    ]".toList :: rest) = some (bindings, rest) := by
  induction bindings with
  | nil => simp [elementsRest?]
  | cons b bs ih =>
    have hb := h b (by simp)
    have hne : ("    , " ++ expression b).toList ≠ "    ]".toList := by
      rw [String.toList_append]
      exact append_cons_ne_append_cons "    ".toList (by decide)
    simp only [List.map_cons, List.cons_append, elementsRest?, if_neg hne,
      element?_expression _ hb.1 hb.2, ih fun b hb => h b (by simp [hb]), Option.bind_eq_bind,
      Option.bind_some]

theorem elements?_elementLines {bindings : List Binding} (h : ∀ b ∈ bindings, b.Grammatical)
    (rest : Lines) :
    elements? ((elementLines (bindings.map expression)).map String.toList ++ rest) =
      some (bindings, rest) := by
  cases bindings with
  | nil => simp [elementLines, elements?]
  | cons b bs =>
    have hb := h b (by simp)
    have hne : ("    [ " ++ expression b).toList ≠ "    []".toList :=
      first_ne_emptyListLine (expression b)
    have hrest := elementsRest?_append (List.forall_mem_cons.mp h).2 rest
    simp only [List.map_cons, elementLines, List.map_append, List.map_nil, List.append_assoc,
      List.cons_append, List.nil_append, elements?, if_neg hne, element?_expression _ hb.1 hb.2,
      hrest, Option.bind_eq_bind, Option.bind_some]

theorem importBlock?_importLines (modules : List ModuleName) (rest : Lines) :
    importBlock? ((importLines modules).map String.toList ++ [] :: [] :: rest) =
      some (modules, [] :: [] :: rest) := by
  cases modules with
  | nil => rfl
  | cons m ms =>
    have h := imports_importLines (m :: ms) ([] :: rest)
    simp only [importLines, List.isEmpty_cons, Bool.false_eq_true, if_false]
    simp only [List.map_cons, List.cons_append, String.toList_empty] at h ⊢
    simp only [importBlock?, h]

/-- A program whose names follow their grammars is read back, whatever its destination keys are. -/
theorem read?_render {d : Driver} (hi : ∀ m ∈ d.imports, m.Grammatical)
    (hb : ∀ b ∈ d.bindings, b.Grammatical) : read? d.render = some d := by
  have hmiddle : middle.map String.toList = [] :: [] :: (middle.tail.tail).map String.toList := by
    rfl
  have himports (rest : Lines) : importBlock? ((importLines d.imports).map String.toList ++
      (middle.map String.toList ++ rest)) = some (d.imports, middle.map String.toList ++ rest) := by
    rw [hmiddle]
    exact importBlock?_importLines d.imports _
  simp only [read?, splitOn_render hi hb, lines_eq, List.map_append, List.append_assoc,
    skip?_append, Option.bind_eq_bind, Option.bind_some, himports, List.map_cons,
    List.cons_append, List.nil_append, List.head?_cons, List.tail_cons, format?_formatLine,
    elements?_elementLines hb, if_true]

end ElmPrerender.Elm.DriverReader
