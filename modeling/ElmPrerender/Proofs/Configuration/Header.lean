import ElmPrerender.Proofs.Configuration.Names
import ElmPrerender.Proofs.Text.Words

/-!
# The header of a source

The first line of a source either declares a module or fails to in one of four ways. Both are given
by a grammar that says which texts the line is put together from, and a source has the outcome that
its line has by the grammar.
-/

namespace ElmPrerender.ModuleName

open Text (White Solid EndsWord Stands)

/-- `[A-Za-z0-9_]` -/
def NameChar (c : Char) : Prop :=
  'A' ≤ c ∧ c ≤ 'Z' ∨ 'a' ≤ c ∧ c ≤ 'z' ∨ '0' ≤ c ∧ c ≤ '9' ∨ c = '_'

instance : DecidablePred NameChar := fun _ => inferInstanceAs (Decidable (_ ∨ _))

/-- `[A-Z][A-Za-z0-9_]*` -/
inductive NamePart : List Char → Prop
  | intro {c : Char} {r : List Char} (capital : 'A' ≤ c ∧ c ≤ 'Z') (others : ∀ d ∈ r, NameChar d) :
      NamePart (c :: r)

/-- One part or more, with a dot between neighbours. -/
inductive Dotted : List Char → Prop
  | part {p : List Char} (part : NamePart p) : Dotted p
  | dot {p rest : List Char} (part : NamePart p) (others : Dotted rest) : Dotted (p ++ '.' :: rest)

/-- A source is byte-order marks, the line that may declare its module, and what the first line
feed begins. -/
structure HeaderLine (source marks line behind : List Char) : Prop where
  whole : source = marks ++ line ++ behind
  marks : ∀ c ∈ marks, c = '\uFEFF'
  unmarked : ∀ c ∈ (line ++ behind).head?, c ≠ '\uFEFF'
  line : '\n' ∉ line
  feed : ∀ c ∈ behind.head?, c = '\n'

/-- A line that opens with the word `module`, with what follows this word. -/
inductive OpensModule (line : List Char) : List Char → Prop
  | plain {blanks rest : List Char} (opening : Stands line blanks "module".toList rest) :
      OpensModule line rest
  | keyword {blanks keyword middle gap rest : List Char}
      (known : keyword = "port".toList ∨ keyword = "effect".toList)
      (opening : Stands line blanks keyword middle)
      (separated : gap ≠ []) (behind : Stands middle gap "module".toList rest) :
      OpensModule line rest

/-- What a line declares. -/
inductive Declares (line : List Char) : Except ModuleNameError ModuleName → Prop
  | module {rest gap name tail : List Char} (opening : OpensModule line rest) (separated : gap ≠ [])
      (stands : Stands rest gap name tail) (dotted : Dotted name)
      (free : name ≠ "PrivateMain".toList) :
      Declares line (.ok ⟨String.ofList name⟩)
  | reserved {rest gap tail : List Char} (opening : OpensModule line rest) (separated : gap ≠ [])
      (stands : Stands rest gap "PrivateMain".toList tail) :
      Declares line (.error .reserved)
  | invalidName {rest gap word tail : List Char} (opening : OpensModule line rest)
      (separated : gap ≠ []) (stands : Stands rest gap word tail) (nonempty : word ≠ [])
      (solid : Solid word) (undotted : ¬ Dotted word) :
      Declares line (.error (.invalidName (String.ofList word)))
  | emptyName {rest : List Char} (opening : OpensModule line rest) (nothing : White rest) :
      Declares line (.error .emptyName)
  | missingHeader (unopened : ∀ rest, ¬ OpensModule line rest) :
      Declares line (.error .missingHeader)

theorem isUpper_iff {c : Char} : c.isUpper = true ↔ 'A' ≤ c ∧ c ≤ 'Z' := decide_eq_true_iff

theorem isLower_iff {c : Char} : c.isLower = true ↔ 'a' ≤ c ∧ c ≤ 'z' := by
  change (decide ('a' ≤ c) && decide (c ≤ 'z')) = true ↔ _
  rw [Bool.and_eq_true, decide_eq_true_iff, decide_eq_true_iff]

theorem isDigit_iff {c : Char} : c.isDigit = true ↔ '0' ≤ c ∧ c ≤ '9' :=
  Char.isDigit_iff_toNat

theorem isIdentifierRest_iff {c : Char} : isIdentifierRest c = true ↔ NameChar c := by
  change (c.isUpper || c.isLower || c.isDigit || c == '_') = true ↔ _
  simp only [NameChar, Bool.or_eq_true, beq_iff_eq, isUpper_iff, isLower_iff, isDigit_iff,
    or_assoc]

theorem isUpperIdentifier_iff {piece : List Char} :
    isUpperIdentifier piece = true ↔ NamePart piece := by
  constructor
  · intro h
    cases piece with
    | nil => cases h
    | cons c r =>
      simp only [isUpperIdentifier, Bool.and_eq_true, List.all_eq_true] at h
      exact .intro (isUpper_iff.mp h.1) fun d hd => isIdentifierRest_iff.mp (h.2 d hd)
  · rintro ⟨capital, others⟩
    simp only [isUpperIdentifier, Bool.and_eq_true, List.all_eq_true]
    exact ⟨isUpper_iff.mpr capital, fun d hd => isIdentifierRest_iff.mpr (others d hd)⟩

theorem NamePart.nameChar {piece : List Char} (h : NamePart piece) : ∀ c ∈ piece, NameChar c := by
  obtain ⟨capital, others⟩ := h
  intro c hc
  rcases List.mem_cons.mp hc with rfl | hr
  · exact Or.inl capital
  · exact others c hr

theorem NamePart.dot_notMem {piece : List Char} (h : NamePart piece) : '.' ∉ piece :=
  fun hdot => absurd (h.nameChar '.' hdot) (by decide)

theorem dotted_of_pieces {pieces : List (List Char)} (nonempty : pieces ≠ [])
    (parts : ∀ piece ∈ pieces, NamePart piece) : Dotted (List.intercalate ['.'] pieces) := by
  induction pieces with
  | nil => exact absurd rfl nonempty
  | cons piece pieces ih =>
    have hpiece := parts piece (List.mem_cons_self ..)
    cases pieces with
    | nil => simpa using Dotted.part hpiece
    | cons next pieces =>
      have hrest := ih (List.cons_ne_nil next pieces)
        fun p hp => parts p (List.mem_cons_of_mem piece hp)
      simpa using Dotted.dot hpiece hrest

/-- The pieces between the dots of a text are parts of a name exactly when it is one. -/
theorem all_splitOn_iff {name : List Char} :
    (List.splitOn '.' name).all isUpperIdentifier = true ↔ Dotted name := by
  simp only [List.all_eq_true, isUpperIdentifier_iff]
  constructor
  · intro h
    have hdotted := dotted_of_pieces (List.splitOn_ne_nil '.' name) h
    rwa [List.intercalate_splitOn] at hdotted
  · intro h
    induction h with
    | part hpart =>
      simpa [List.splitOn_eq_singleton hpart.dot_notMem] using hpart
    | dot hpart _ ih =>
      simpa [List.splitOn_append_cons_self_of_not_mem hpart.dot_notMem] using ⟨hpart, ih⟩

theorem NameChar.range {c : Char} (h : NameChar c) : 0x30 ≤ c.toNat ∧ c.toNat ≤ 0x7A := by
  have within : ∀ {a b : Char}, a ≤ c ∧ c ≤ b → 0x30 ≤ a.toNat → b.toNat ≤ 0x7A →
      0x30 ≤ c.toNat ∧ c.toNat ≤ 0x7A :=
    fun hc low high => ⟨Nat.le_trans low hc.1, Nat.le_trans hc.2 high⟩
  rcases h with hupper | hlower | hdigit | rfl
  · exact within hupper (by decide) (by decide)
  · exact within hlower (by decide) (by decide)
  · exact within hdigit (by decide) (by decide)
  · decide

theorem NameChar.isWhite {c : Char} (h : NameChar c) : Text.isWhite c = false := by
  have hrange := h.range
  exact Text.isWhite_of_printable (by omega) (by omega)

theorem Dotted.solid {name : List Char} (h : Dotted name) : Solid name := by
  induction h with
  | part hpart => exact fun c hc => (hpart.nameChar c hc).isWhite
  | dot hpart _ ih =>
    intro c hc
    rcases List.mem_append.mp hc with hp | hr
    · exact (hpart.nameChar c hp).isWhite
    · rcases List.mem_cons.mp hr with rfl | hr
      · rfl
      · exact ih c hr

theorem Dotted.ne_nil {name : List Char} (h : Dotted name) : name ≠ [] := by
  rcases h with ⟨⟨⟩⟩ | _ <;> simp

theorem parse_of_dotted {name : List Char} (dotted : Dotted name)
    (free : name ≠ reservedModuleName.toList) :
    parse (String.ofList name) = .ok ⟨String.ofList name⟩ := by
  have hpieces := all_splitOn_iff.mpr dotted
  simp [parse, String.toList_ofList, dotted.solid.trim, dotted.ne_nil, hpieces, free]

theorem parse_of_not_dotted {word : List Char} (nonempty : word ≠ []) (solid : Solid word)
    (undotted : ¬ Dotted word) :
    parse (String.ofList word) = .error (.invalidName (String.ofList word)) := by
  have hpieces := mt all_splitOn_iff.mp undotted
  simp only [parse, String.toList_ofList, solid.trim]
  rw [if_neg (by simpa using nonempty), if_pos (by simpa using hpieces)]

theorem dotted_reserved : Dotted reservedModuleName.toList :=
  all_splitOn_iff.mp (by decide)

theorem parse_reserved : parse reservedModuleName = .error .reserved := by
  decide

theorem HeaderLine.eq_headerLine {source : String} {marks line behind : List Char}
    (h : HeaderLine source.toList marks line behind) : headerLine source = line := by
  have hmarks : ∀ c ∈ marks, (c == '\uFEFF') = true := by simpa using h.marks
  have hunmarked : ∀ c ∈ (line ++ behind).head?, (c == '\uFEFF') = false := by
    simpa using h.unmarked
  have hline : ∀ c ∈ line, (c != '\n') = true := by
    intro c hc
    simpa using fun hn : c = '\n' => h.line (hn ▸ hc)
  have hfeed : ∀ c ∈ behind.head?, (c != '\n') = false := by simpa using h.feed
  rw [headerLine, h.whole, List.append_assoc, Text.dropWhile_append_of_stop hmarks hunmarked,
    Text.firstLine, Text.takeWhile_append_of_stop hline hfeed]

/-- Every source has a line for its header. -/
theorem exists_headerLine (source : String) :
    ∃ marks line behind, HeaderLine source.toList marks line behind := by
  let unmarked := source.toList.dropWhile (· == '\uFEFF')
  refine ⟨source.toList.takeWhile (· == '\uFEFF'), unmarked.takeWhile (· != '\n'),
    unmarked.dropWhile (· != '\n'), ?_, ?_, ?_, ?_, ?_⟩
  · rw [List.append_assoc, List.takeWhile_append_dropWhile, List.takeWhile_append_dropWhile]
  · exact fun c hc => by simpa using List.mem_takeWhile_imp hc
  · rw [List.takeWhile_append_dropWhile]
    exact fun c hc => by simpa using Text.stop_of_dropWhile source.toList c hc
  · exact fun hn => by simpa using List.mem_takeWhile_imp hn
  · exact fun c hc => by simpa using Text.stop_of_dropWhile unmarked c hc

/-- A line feed ends the line of the header, whatever stands behind it. -/
theorem headerLine_append (source behind : String) :
    headerLine (source ++ "\n" ++ behind) = headerLine source := by
  obtain ⟨marks, line, rest, h⟩ := exists_headerLine source
  have hcut : HeaderLine (source ++ "\n" ++ behind).toList marks line
      (rest ++ '\n' :: behind.toList) := by
    refine ⟨?_, h.marks, ?_, h.line, Text.head?_append_cons h.feed rfl⟩
    · simp [h.whole]
    · rw [← List.append_assoc]
      exact Text.head?_append_cons h.unmarked (by decide)
  rw [hcut.eq_headerLine, h.eq_headerLine]

theorem isHeaderKeyword_iff {word : List Char} :
    isHeaderKeyword word = true ↔ word = "port".toList ∨ word = "effect".toList := by
  simp [isHeaderKeyword]

theorem solid_module : Solid "module".toList := .of_all (by decide)

theorem solid_keyword {word : List Char}
    (known : word = "port".toList ∨ word = "effect".toList) : Solid word := by
  rcases known with rfl | rfl
  · exact .of_all (by decide)
  · exact .of_all (by decide)

theorem headerKeyword?_eq_module_iff {line rest : List Char} :
    headerKeyword? line = some ("module".toList, rest) ↔ OpensModule line rest := by
  constructor
  · intro h
    rw [headerKeyword?, Option.bind_eq_bind, Option.bind_eq_some_iff] at h
    obtain ⟨⟨word, middle⟩, hfirst, hnext⟩ := h
    obtain ⟨blanks, opening, -, -⟩ := Text.nextWord?_eq_some_iff.mp hfirst
    by_cases hkeyword : isHeaderKeyword word = true
    · simp only [hkeyword, if_true] at hnext
      obtain ⟨gap, behind, nonempty, solid⟩ := Text.nextWord?_eq_some_iff.mp hnext
      exact .keyword (isHeaderKeyword_iff.mp hkeyword) opening
        (behind.gap_ne_nil opening.ends nonempty solid) behind
    · simp only [hkeyword, if_false, Bool.false_eq_true, Option.some.injEq, Prod.mk.injEq] at hnext
      obtain ⟨rfl, rfl⟩ := hnext
      exact .plain opening
  · rintro (opening | ⟨known, opening, -, behind⟩)
    · rw [headerKeyword?, opening.nextWord? (by simp) solid_module]
      rfl
    · rw [headerKeyword?, opening.nextWord? (by rcases known with rfl | rfl <;> simp)
        (solid_keyword known)]
      simp only [Option.bind_eq_bind, Option.bind_some, isHeaderKeyword_iff.mpr known, if_true]
      exact behind.nextWord? (by simp) solid_module

theorem OpensModule.ends {line rest : List Char} (h : OpensModule line rest) : EndsWord rest := by
  rcases h with opening | ⟨-, -, -, behind⟩
  · exact opening.ends
  · exact behind.ends

section Outcome

variable {source : String} {rest : List Char}

theorem ofSource_of_unopened (unopened : ∀ rest, ¬ OpensModule (headerLine source) rest) :
    ofSource source = .error .missingHeader := by
  unfold ofSource
  cases hkeyword : headerKeyword? (headerLine source) with
  | none => rfl
  | some words =>
    obtain ⟨keyword, rest⟩ := words
    have hother : keyword ≠ "module".toList := by
      rintro rfl
      exact unopened rest (headerKeyword?_eq_module_iff.mp hkeyword)
    exact if_pos hother

theorem ofSource_of_white (h : OpensModule (headerLine source) rest) (nothing : White rest) :
    ofSource source = .error .emptyName := by
  rw [ofSource, headerKeyword?_eq_module_iff.mpr h]
  simp [Text.nextWord?_of_white nothing]

theorem ofSource_of_stands {gap word tail : List Char}
    (h : OpensModule (headerLine source) rest) (stands : Stands rest gap word tail)
    (nonempty : word ≠ []) (solid : Solid word) :
    ofSource source = parse (String.ofList word) := by
  rw [ofSource, headerKeyword?_eq_module_iff.mpr h]
  simp [stands.nextWord? nonempty solid]

/-- A source has the outcome that its line has by the grammar. -/
theorem Declares.ofSource {outcome : Except ModuleNameError ModuleName}
    (h : Declares (headerLine source) outcome) : ofSource source = outcome := by
  cases h with
  | module opening separated stands dotted free =>
    rw [ofSource_of_stands opening stands dotted.ne_nil dotted.solid, parse_of_dotted dotted free]
  | reserved opening separated stands =>
    rw [ofSource_of_stands opening stands dotted_reserved.ne_nil dotted_reserved.solid]
    exact parse_reserved
  | invalidName opening separated stands nonempty solid undotted =>
    rw [ofSource_of_stands opening stands nonempty solid,
      parse_of_not_dotted nonempty solid undotted]
  | emptyName opening nothing => exact ofSource_of_white opening nothing
  | missingHeader unopened => exact ofSource_of_unopened unopened

end Outcome

/-- Every line has an outcome by the grammar. -/
theorem exists_declares (line : List Char) : ∃ outcome, Declares line outcome := by
  by_cases hopens : ∃ rest, OpensModule line rest
  · obtain ⟨rest, opening⟩ := hopens
    rcases Text.white_or_stands rest with nothing | ⟨gap, word, tail, stands, nonempty, solid⟩
    · exact ⟨_, .emptyName opening nothing⟩
    · have separated := stands.gap_ne_nil opening.ends nonempty solid
      by_cases hdotted : Dotted word
      · by_cases hreserved : word = "PrivateMain".toList
        · subst hreserved
          exact ⟨_, .reserved opening separated stands⟩
        · exact ⟨_, .module opening separated stands hdotted hreserved⟩
      · exact ⟨_, .invalidName opening separated stands nonempty solid hdotted⟩
  · exact ⟨_, .missingHeader (not_exists.mp hopens)⟩

theorem ofSource_eq_iff {source : String} {outcome : Except ModuleNameError ModuleName} :
    ofSource source = outcome ↔ Declares (headerLine source) outcome := by
  constructor
  · rintro rfl
    obtain ⟨outcome, hdeclares⟩ := exists_declares (headerLine source)
    rwa [hdeclares.ofSource]
  · exact Declares.ofSource

/-- A name that a source declares is read as itself. -/
theorem parse_of_ofSource {source : String} {name : ModuleName} (h : ofSource source = .ok name) :
    parse name.text = .ok name := by
  cases ofSource_eq_iff.mp h with
  | module opening separated stands dotted free => exact parse_of_dotted dotted free

/-- The outcome of a source is the one that the grammar gives to its first line, to which nothing
behind the first line feed belongs, and a name that comes out is a name to itself. -/
theorem ofSource_follows_grammar (source : String) :
    (∀ outcome, ofSource source = outcome ↔
      ∃ marks line behind, HeaderLine source.toList marks line behind ∧ Declares line outcome) ∧
    (∀ behind, ofSource (source ++ "\n" ++ behind) = ofSource source) ∧
    ∀ name, ofSource source = .ok name → parse name.text = .ok name := by
  refine ⟨fun outcome => ?_, fun behind => ?_, fun name => parse_of_ofSource⟩
  · rw [ofSource_eq_iff]
    constructor
    · intro hdeclares
      obtain ⟨marks, line, behind, hline⟩ := exists_headerLine source
      rw [hline.eq_headerLine] at hdeclares
      exact ⟨marks, line, behind, hline, hdeclares⟩
    · rintro ⟨marks, line, behind, hline, hdeclares⟩
      rwa [hline.eq_headerLine]
  · rw [ofSource, headerLine_append, ofSource]

example : ofSource "\uFEFF\uFEFF\t port\u2003module Pages.About_2\r\nmodule Other" =
    .ok ⟨"Pages.About_2"⟩ := by
  decide

end ElmPrerender.ModuleName
