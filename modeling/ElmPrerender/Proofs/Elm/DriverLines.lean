import Mathlib.Data.List.Basic
import ElmPrerender.Elm.Driver
import ElmPrerender.Proofs.Configuration.Names
import ElmPrerender.Proofs.Elm.StringLiteral
import ElmPrerender.Proofs.Text.Split

/-!
# The lines of a generated program

Four blocks of lines are the same in every program. Between them stand the imports, the format and
the pages. No line holds a line feed, whatever the destination keys are, so the lines of the text
are the lines it was made from. Each page takes one of them, and no other line looks like a page.
-/

namespace ElmPrerender.Elm

/-- The names of a page follow their grammars; its key is arbitrary. -/
def Binding.Grammatical (b : Binding) : Prop := b.moduleName.Grammatical ∧ b.entry.Grammatical

namespace Driver

/-- The lines before the imports of a project. -/
def opening : List String := headerLines ++ [""] ++ supportImportLines

/-- The lines between the imports and the format. -/
def middle : List String :=
  gap ++ jsonLines ++ gap ++ ["formatOptions : FormatOptions", "formatOptions ="]

/-- The lines between the format and the pages. -/
def beforePages : List String :=
  gap ++ decodeLines ++ gap ++ ["htmlPairs : List ( String, String )", "htmlPairs ="]

/-- The lines behind the pages. -/
def ending : List String := gap ++ mainLines ++ gap ++ outputLines

/-- Everything but the imports, the format and the pages is the same in every program. -/
theorem lines_eq (d : Driver) :
    d.lines = opening ++ importLines d.imports ++ middle ++ [formatLine d.format] ++ beforePages ++
      elementLines (d.bindings.map expression) ++ ending := by
  simp only [lines, opening, middle, beforePages, ending, formatLines, pairsLines,
    List.append_assoc, List.cons_append, List.nil_append]

/-- The line of a list of pages without any. -/
def emptyListLine : List Char := "    []".toList

/-- A line that lists a page. -/
def isPageLine (line : List Char) : Bool :=
  "    [ decode ( ".toList.isPrefixOf line || "    , decode ( ".toList.isPrefixOf line

/-- A line that ends where it should and says nothing about pages. -/
structure Plain (line : List Char) : Prop where
  noLineFeed : '\n' ∉ line
  noPage : isPageLine line = false
  notEmptyList : line ≠ emptyListLine

theorem notMem_literal {c : Char} {s : String} {l : List Char} (hs : s = String.ofList l)
    (h : c ∉ l) : c ∉ s.toList := by
  rw [hs, String.toList_ofList]
  exact h

theorem notMem_append {c : Char} {s t : String} (hs : c ∉ s.toList) (ht : c ∉ t.toList) :
    c ∉ (s ++ t).toList := by
  rw [String.toList_append, List.mem_append]
  exact fun h => h.elim hs ht

theorem indent_isDigit (n : Nat) : ∀ c ∈ (toString n).toList, c.isDigit = true := by
  intro c hc
  rw [Nat.toString_eq_ofList_toDigits, String.toList_ofList] at hc
  exact Nat.isDigit_of_mem_toDigits (by decide) (by decide) hc

theorem importLine_no_lineFeed {name : ModuleName} (h : name.Grammatical) :
    '\n' ∉ (importLine name).toList := by
  refine notMem_append (notMem_literal rfl (by decide)) ?_
  intro hc
  exact absurd (h.isViewChar _ hc) (by decide)

theorem formatLine_no_lineFeed (format : Format) : '\n' ∉ (formatLine format).toList := by
  have hflag : '\n' ∉ (if format.newLines then "True" else "False").toList := by
    cases format.newLines
    · exact notMem_literal rfl (by decide)
    · exact notMem_literal rfl (by decide)
  have hindent : '\n' ∉ (toString format.indent).toList := fun hc =>
    absurd (indent_isDigit format.indent _ hc) (by decide)
  unfold formatLine
  refine notMem_append (notMem_append (notMem_append (notMem_append ?_ hflag) ?_) hindent) ?_
  all_goals exact notMem_literal rfl (by decide)

/-- The key is the only text that may be arbitrary, and its line breaks are escaped. -/
theorem expression_no_lineFeed {b : Binding} (h : b.Grammatical) :
    '\n' ∉ (expression b).toList := by
  have hkey : '\n' ∉ (StringLiteral.ofString b.key).toList :=
    (StringLiteral.denotes_ofString b.key).no_lineBreak.1
  have hname : '\n' ∉ b.moduleName.text.toList := fun hc =>
    absurd (h.1.isViewChar _ hc) (by decide)
  have hentry : '\n' ∉ b.entry.name.toList := fun hc =>
    absurd (h.2.isIdentifierRest _ hc) (by decide)
  refine notMem_append (notMem_append (notMem_append (notMem_append (notMem_append
    (notMem_append ?_ hkey) ?_) hname) ?_) hentry) ?_
  all_goals exact notMem_literal rfl (by decide)

theorem elementLines_no_lineFeed {bindings : List Binding} (h : ∀ b ∈ bindings, b.Grammatical) :
    ∀ line ∈ elementLines (bindings.map expression), '\n' ∉ line.toList := by
  cases bindings with
  | nil =>
    intro line hline
    rw [List.mem_singleton.mp hline]
    exact notMem_literal rfl (by decide)
  | cons b bs =>
    intro line hline
    simp only [List.map_cons, elementLines, List.mem_cons, List.mem_append, List.mem_map,
      List.not_mem_nil, or_false] at hline
    rcases hline with rfl | ⟨_, ⟨b', hb', rfl⟩, rfl⟩ | rfl
    · exact notMem_append (notMem_literal rfl (by decide)) (expression_no_lineFeed (h b (by simp)))
    · exact notMem_append (notMem_literal rfl (by decide))
        (expression_no_lineFeed (h b' (by simp [hb'])))
    · exact notMem_literal rfl (by decide)

theorem append_cons_ne_append_cons (lead : List Char) {c d : Char} {text more : List Char}
    (h : c ≠ d) : lead ++ c :: text ≠ lead ++ d :: more := by
  intro he
  exact h (List.cons.inj (List.append_cancel_left he)).1

theorem plain_literal {s : String} {l : List Char} (hs : s = String.ofList l)
    (h : '\n' ∉ l ∧ isPageLine l = false ∧ l ≠ emptyListLine) : Plain s.toList := by
  rw [hs, String.toList_ofList]
  exact ⟨h.1, h.2.1, h.2.2⟩

theorem plain_fixed : ∀ line ∈ opening ++ middle ++ beforePages ++ ending, Plain line.toList := by
  simp only [opening, middle, beforePages, ending, headerLines, supportImportLines, gap, jsonLines,
    decodeLines, mainLines, outputLines, reservedModuleName, String.reduceAppend, List.cons_append,
    List.nil_append, List.forall_mem_cons]
  repeat' apply And.intro
  all_goals first | exact plain_literal rfl (by decide) | exact List.forall_mem_nil _

theorem plain_importLine {name : ModuleName} (h : name.Grammatical) :
    Plain (importLine name).toList := by
  refine ⟨importLine_no_lineFeed h, ?_, ?_⟩
  · rw [importLine, String.toList_append]
    rfl
  · rw [importLine, String.toList_append]
    exact append_cons_ne_append_cons [] (by decide)

theorem plain_formatLine (format : Format) : Plain (formatLine format).toList := by
  refine ⟨formatLine_no_lineFeed format, ?_, ?_⟩
  · unfold formatLine
    simp only [String.toList_append, List.append_assoc]
    rfl
  · unfold formatLine
    simp only [String.toList_append, List.append_assoc]
    exact append_cons_ne_append_cons "    ".toList (by decide)

theorem plain_importLines {modules : List ModuleName} (h : ∀ m ∈ modules, m.Grammatical) :
    ∀ line ∈ importLines modules, Plain line.toList := by
  intro line hline
  unfold importLines at hline
  split at hline
  · simp at hline
  · rcases List.mem_cons.mp hline with rfl | hline
    · exact plain_literal rfl (by decide)
    · obtain ⟨m, hm, rfl⟩ := List.mem_map.mp hline
      exact plain_importLine (h m hm)

theorem isPageLine_first (b : Binding) : isPageLine ("    [ " ++ expression b).toList = true := by
  simp only [expression, String.toList_append, List.append_assoc]
  rfl

theorem isPageLine_later (b : Binding) : isPageLine ("    , " ++ expression b).toList = true := by
  simp only [expression, String.toList_append, List.append_assoc]
  rfl

theorem first_ne_emptyListLine (text : String) : ("    [ " ++ text).toList ≠ emptyListLine := by
  rw [String.toList_append]
  exact append_cons_ne_append_cons "    [".toList (by decide)

theorem later_ne_emptyListLine (text : String) : ("    , " ++ text).toList ≠ emptyListLine := by
  rw [String.toList_append]
  exact append_cons_ne_append_cons "    ".toList (by decide)

theorem countP_later (bindings : List Binding) :
    (((bindings.map expression).map ("    , " ++ ·)).map String.toList).countP isPageLine =
      bindings.length := by
  induction bindings with
  | nil => rfl
  | cons b bs ih =>
    simp only [List.map_cons, List.countP_cons, isPageLine_later, ih, if_true, List.length_cons]

/-- Each page takes one line of the list. -/
theorem countP_elementLines (bindings : List Binding) :
    ((elementLines (bindings.map expression)).map String.toList).countP isPageLine =
      bindings.length := by
  cases bindings with
  | nil => rfl
  | cons b bs =>
    have hend : isPageLine "    ]".toList = false := rfl
    simp only [List.map_cons, elementLines, List.map_append, List.map_nil, List.countP_cons,
      List.countP_append, List.countP_nil, isPageLine_first, countP_later, hend, if_true,
      Bool.false_eq_true, if_false, List.length_cons, Nat.add_zero]

theorem emptyListLine_mem_elementLines {bindings : List Binding} :
    emptyListLine ∈ (elementLines (bindings.map expression)).map String.toList ↔ bindings = [] := by
  cases bindings with
  | nil => simp [elementLines, emptyListLine]
  | cons b bs =>
    simp only [List.map_cons, elementLines, List.mem_cons, List.map_append, List.mem_append,
      List.mem_map, List.map_nil, List.not_mem_nil, or_false, reduceCtorEq, iff_false]
    rintro (h | ⟨_, ⟨text, _, rfl⟩, h⟩ | h)
    · exact first_ne_emptyListLine _ h.symm
    · exact later_ne_emptyListLine _ h
    · exact absurd h (by decide)

variable {d : Driver}

/-- Outside the list of pages every line is plain. -/
theorem plain_outside (hi : ∀ m ∈ d.imports, m.Grammatical) :
    ∀ line ∈ opening ++ importLines d.imports ++ middle ++ [formatLine d.format] ++ beforePages ++
      ending, Plain line.toList := by
  have hfixed := plain_fixed
  simp only [List.forall_mem_append] at hfixed ⊢
  refine ⟨⟨⟨⟨⟨hfixed.1.1.1, plain_importLines hi⟩, hfixed.1.1.2⟩, ?_⟩, hfixed.1.2⟩, hfixed.2⟩
  intro line hline
  rw [List.mem_singleton.mp hline]
  exact plain_formatLine d.format

theorem mem_lines {line : String} : line ∈ d.lines ↔
    line ∈ opening ++ importLines d.imports ++ middle ++ [formatLine d.format] ++ beforePages ++
      ending ∨ line ∈ elementLines (d.bindings.map expression) := by
  rw [lines_eq]
  simp only [List.mem_append]
  tauto

theorem lines_no_lineFeed (hi : ∀ m ∈ d.imports, m.Grammatical)
    (hb : ∀ b ∈ d.bindings, b.Grammatical) : ∀ line ∈ d.lines, '\n' ∉ line.toList := by
  intro line hline
  rcases mem_lines.mp hline with outside | page
  · exact (plain_outside hi line outside).noLineFeed
  · exact elementLines_no_lineFeed hb line page

/-- The text is cut back into the lines it was made from. -/
theorem splitOn_render (hi : ∀ m ∈ d.imports, m.Grammatical)
    (hb : ∀ b ∈ d.bindings, b.Grammatical) :
    List.splitOn '\n' d.render.toList = d.lines.map String.toList ++ [[]] := by
  have hlines : ∀ line ∈ d.lines.map String.toList, '\n' ∉ line := by
    intro line hline
    obtain ⟨l, hl, rfl⟩ := List.mem_map.mp hline
    exact lines_no_lineFeed hi hb l hl
  have htext : d.render.toList = (d.lines.map String.toList).flatMap (· ++ ['\n']) := by
    simp [render, List.flatMap_map]
  rw [htext, Text.splitOn_lines hlines]

theorem countP_lines (hi : ∀ m ∈ d.imports, m.Grammatical) :
    (d.lines.map String.toList).countP isPageLine = d.bindings.length := by
  have houtside {block : List String} (h : ∀ line ∈ block, Plain line.toList) :
      (block.map String.toList).countP isPageLine = 0 := by
    rw [List.countP_eq_zero]
    intro line hline
    obtain ⟨l, hl, rfl⟩ := List.mem_map.mp hline
    simp [(h l hl).noPage]
  have hplain := plain_outside hi
  simp only [List.forall_mem_append] at hplain
  simp only [lines_eq, List.map_append, List.countP_append, countP_elementLines,
    houtside hplain.1.1.1.1.1, houtside hplain.1.1.1.1.2, houtside hplain.1.1.1.2,
    houtside hplain.1.1.2, houtside hplain.1.2, houtside hplain.2, Nat.zero_add, Nat.add_zero]

theorem emptyListLine_mem_lines (hi : ∀ m ∈ d.imports, m.Grammatical) :
    emptyListLine ∈ d.lines.map String.toList ↔ d.bindings = [] := by
  rw [← emptyListLine_mem_elementLines]
  constructor
  · intro h
    obtain ⟨line, hline, he⟩ := List.mem_map.mp h
    rcases mem_lines.mp hline with outside | page
    · exact absurd he (plain_outside hi line outside).notEmptyList
    · exact List.mem_map.mpr ⟨line, page, he⟩
  · intro h
    obtain ⟨line, hline, he⟩ := List.mem_map.mp h
    exact List.mem_map.mpr ⟨line, mem_lines.mpr (Or.inr hline), he⟩

end Driver

end ElmPrerender.Elm
