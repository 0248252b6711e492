import ElmPrerender.Elm.StringLiteral

/-!
# Written literals are read back

A grammar says which texts are literals and what they mean. The reader takes the literal that a
text starts with, and a text starts with one literal at most, so none is the beginning of a longer
one. A written literal is a literal of the grammar: it is read to its own closing quote, whatever
text follows it, and it holds no line break, so it stays inside its line.
-/

namespace ElmPrerender.Elm.StringLiteral

/-- What may stand between the quotes, and the text that it means. -/
inductive Spells : List Char → List Char → Prop
  | nil : Spells [] []
  | escape {letter c : Char} {spelling s : List Char} (named : ofEscapeLetter? letter = some c)
      (tail : Spells spelling s) : Spells ('\\' :: letter :: spelling) (c :: s)
  | plain {c : Char} {spelling s : List Char} (unquoted : c ≠ '"') (unescaped : c ≠ '\\')
      (unbroken : c ≠ '\n' ∧ c ≠ '\r') (tail : Spells spelling s) : Spells (c :: spelling) (c :: s)

/-- A whole literal, and the text that it means. -/
def Denotes (literal s : List Char) : Prop :=
  ∃ spelling, Spells spelling s ∧ literal = '"' :: (spelling ++ ['"'])

variable {spelling literal s rest text : List Char}

theorem readBody?_escape {c letter : Char} (h : ofEscapeLetter? letter = some c)
    (tail : readBody? text = some (s, rest)) :
    readBody? ('\\' :: letter :: text) = some (c :: s, rest) := by
  rw [readBody?, h, tail]
  rfl

theorem readBody?_plain {c : Char} (unquoted : c ≠ '"') (unescaped : c ≠ '\\')
    (unbroken : c ≠ '\n' ∧ c ≠ '\r') (tail : readBody? text = some (s, rest)) :
    readBody? (c :: text) = some (c :: s, rest) := by
  rw [readBody?, tail]
  · simp [unbroken]
  · exact unquoted
  · exact fun hc _ => unescaped hc
  · exact fun _ _ hc _ => unescaped hc

theorem readBody?_of_spells (h : Spells spelling s) (rest : List Char) :
    readBody? (spelling ++ '"' :: rest) = some (s, rest) := by
  induction h with
  | nil => simp [readBody?]
  | escape named _ ih => exact readBody?_escape named ih
  | plain unquoted unescaped unbroken _ ih => exact readBody?_plain unquoted unescaped unbroken ih

theorem spells_of_readBody? (h : readBody? text = some (s, rest)) :
    ∃ spelling, Spells spelling s ∧ text = spelling ++ '"' :: rest := by
  fun_induction readBody? text generalizing s rest with
  | case1 => cases h
  | case2 r =>
    cases h
    exact ⟨[], .nil, rfl⟩
  | case3 => cases h
  | case4 letter r ih =>
    simp only [Option.bind_eq_bind, Option.bind_eq_some_iff, Prod.exists] at h
    obtain ⟨c, named, s', rest', hr, h⟩ := h
    cases h
    obtain ⟨spelling, tail, rfl⟩ := ih hr
    exact ⟨_, .escape named tail, rfl⟩
  | case5 => cases h
  | case6 c r unquoted alone followed unbroken ih =>
    simp only [Option.bind_eq_bind, Option.bind_eq_some_iff, Prod.exists] at h
    obtain ⟨s', rest', hr, h⟩ := h
    cases h
    obtain ⟨spelling, tail, rfl⟩ := ih hr
    -- A backslash is read with the character behind it, and there is one: the closing quote.
    have unescaped : c ≠ '\\' := by
      rintro rfl
      cases spelling with
      | nil | cons => exact followed _ _ rfl rfl
    exact ⟨_, .plain unquoted unescaped (by simpa using unbroken) tail, rfl⟩

/-- The reader takes the literal of the grammar that a text starts with, and nothing else. -/
theorem read?_eq_some_iff :
    read? text = some (s, rest) ↔ ∃ literal, Denotes literal s ∧ text = literal ++ rest := by
  constructor
  · intro h
    unfold read? at h
    split at h
    · obtain ⟨spelling, hspelling, rfl⟩ := spells_of_readBody? h
      exact ⟨_, ⟨spelling, hspelling, rfl⟩, by simp⟩
    · cases h
  · rintro ⟨_, ⟨spelling, hspelling, rfl⟩, rfl⟩
    simpa [read?] using readBody?_of_spells hspelling rest

/-- Other escapes are no part of a literal. -/
example : read? ['"', '\\', 'u', '"'] = none := rfl

theorem Denotes.read? (h : Denotes literal s) (rest : List Char) :
    read? (literal ++ rest) = some (s, rest) :=
  read?_eq_some_iff.mpr ⟨literal, h, rfl⟩

/-- Two literals that begin one text are the same literal. -/
theorem Denotes.unique {other s' : List Char} (h : Denotes literal s) (h' : Denotes other s')
    (begins : literal <+: text) (begins' : other <+: text) : literal = other ∧ s = s' := by
  obtain ⟨rest, rfl⟩ := begins
  obtain ⟨rest', he⟩ := begins'
  have hread := h'.read? rest'
  rw [he, h.read? rest] at hread
  cases hread
  exact ⟨(List.append_cancel_right he).symm, rfl⟩

theorem ofEscapeLetter?_escapeLetter? {c letter : Char} (h : escapeLetter? c = some letter) :
    ofEscapeLetter? letter = some c := by
  unfold escapeLetter? at h
  split at h <;> cases h <;> rfl

/-- The characters that are written as themselves end neither the literal nor its line. -/
theorem plain_of_escapeLetter?_eq_none {c : Char} (h : escapeLetter? c = none) :
    c ≠ '"' ∧ c ≠ '\\' ∧ c ≠ '\n' ∧ c ≠ '\r' := by
  refine ⟨?_, ?_, ?_, ?_⟩ <;>
    · rintro rfl
      simp [escapeLetter?] at h

theorem spells_body (s : List Char) : Spells (body s) s := by
  induction s with
  | nil => exact .nil
  | cons c r ih =>
    unfold body
    split
    · rename_i letter h
      exact .escape (ofEscapeLetter?_escapeLetter? h) ih
    · rename_i h
      obtain ⟨unquoted, unescaped, unbroken⟩ := plain_of_escapeLetter?_eq_none h
      exact .plain unquoted unescaped unbroken ih

theorem denotes_encode (s : List Char) : Denotes (encode s) s := ⟨body s, spells_body s, rfl⟩

/-- The text behind the literal is arbitrary: no text can move the closing quote. -/
theorem read?_encode (s rest : List Char) : read? (encode s ++ rest) = some (s, rest) :=
  (denotes_encode s).read? rest

theorem ofEscapeLetter?_not_lineBreak {c letter : Char} (h : ofEscapeLetter? letter = some c) :
    letter ≠ '\n' ∧ letter ≠ '\r' := by
  constructor <;>
    · rintro rfl
      simp [ofEscapeLetter?] at h

theorem Spells.no_lineBreak (h : Spells spelling s) : '\n' ∉ spelling ∧ '\r' ∉ spelling := by
  induction h with
  | nil => simp
  | escape named _ ih =>
    have hletter := ofEscapeLetter?_not_lineBreak named
    simp [hletter.1.symm, hletter.2.symm, ih]
  | plain _ _ unbroken _ ih => simp [unbroken.1.symm, unbroken.2.symm, ih]

/-- Whatever a literal means, it stays on one line. -/
theorem Denotes.no_lineBreak (h : Denotes literal s) : '\n' ∉ literal ∧ '\r' ∉ literal := by
  obtain ⟨spelling, hspelling, rfl⟩ := h
  simp [hspelling.no_lineBreak]

theorem denotes_ofString (v : String) : Denotes (ofString v).toList v.toList := by
  rw [ofString, String.toList_ofList]
  exact denotes_encode v.toList

/-- The reader takes exactly the literals of the grammar. A written literal is read to its own
closing quote, and no other literal begins the text, whatever follows, even a quote. It holds no
line break, and different texts are written differently. -/
theorem ofString_selfDelimiting :
    (∀ text s rest, read? text = some (s, rest) ↔
      ∃ literal, Denotes literal s ∧ text = literal ++ rest) ∧
    (∀ v rest : String, read? (ofString v ++ rest).toList = some (v.toList, rest.toList) ∧
      ∀ literal s, Denotes literal s → literal <+: (ofString v ++ rest).toList →
        literal = (ofString v).toList ∧ s = v.toList) ∧
    (∀ v, '\n' ∉ (ofString v).toList ∧ '\r' ∉ (ofString v).toList) ∧
    Function.Injective ofString := by
  have hread (v rest : String) :
      read? (ofString v ++ rest).toList = some (v.toList, rest.toList) := by
    rw [String.toList_append]
    exact (denotes_ofString v).read? rest.toList
  refine ⟨fun text s rest => read?_eq_some_iff, fun v rest => ⟨hread v rest, ?_⟩, ?_, ?_⟩
  · intro literal s h begins
    refine h.unique (denotes_ofString v) begins ?_
    rw [String.toList_append]
    exact List.prefix_append _ _
  · exact fun v => (denotes_ofString v).no_lineBreak
  · intro v w h
    have hv := hread v ""
    rw [h, hread w ""] at hv
    exact String.toList_inj.mp (Prod.mk.inj (Option.some.inj hv)).1.symm

/-- A key of a backslash, a quote and a line feed, with a quote right behind its literal. -/
theorem ofString_selfDelimiting_key :
    let key := "\\\"\n"
    let literal := ['"', '\\', '\\', '\\', '"', '\\', 'n', '"']
    Denotes literal key.toList ∧ literal <+: (ofString key ++ "\" )").toList ∧
      literal = (ofString key).toList ∧
      read? (ofString key ++ "\" )").toList = some (key.toList, "\" )".toList) ∧
      '\n' ∉ (ofString key).toList := by
  intro key literal
  obtain ⟨-, hread, unbroken, -⟩ := ofString_selfDelimiting
  obtain ⟨own, only⟩ := hread key "\" )"
  have spelled : Spells ['\\', '\\', '\\', '"', '\\', 'n'] ['\\', '"', '\n'] :=
    .escape rfl (.escape rfl (.escape rfl .nil))
  have means : key.toList = ['\\', '"', '\n'] := by decide
  have denotes : Denotes literal key.toList := ⟨_, means ▸ spelled, rfl⟩
  have begins : literal <+: (ofString key ++ "\" )").toList := by decide
  exact ⟨denotes, begins, (only _ _ denotes begins).1, own, (unbroken key).1⟩

end ElmPrerender.Elm.StringLiteral
