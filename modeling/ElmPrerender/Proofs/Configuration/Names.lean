import ElmPrerender.RenderConfiguration
import ElmPrerender.Proofs.Text.Split

/-!
# Names of modules and views

What a parsed name looks like. Its characters are letters, digits, underscores and, in a module
name, dots; so a name holds no white space, no quote and no bracket.
-/

namespace ElmPrerender

theorem isIdentifierRest_of_isUpper {c : Char} (h : c.isUpper = true) :
    isIdentifierRest c = true := by
  change (c.isUpper || c.isLower || c.isDigit || c == '_') = true
  simp [h]

theorem isIdentifierRest_of_isLower {c : Char} (h : c.isLower = true) :
    isIdentifierRest c = true := by
  change (c.isUpper || c.isLower || c.isDigit || c == '_') = true
  simp [h]

/-- Characters of a view as it is called from another module, `Pages.About.view`. -/
def isViewChar (c : Char) : Bool := isIdentifierRest c || c == '.'

theorem isViewChar_of_isIdentifierRest {c : Char} (h : isIdentifierRest c = true) :
    isViewChar c = true := by
  simp [isViewChar, h]

/-- Dot-separated capitalised identifiers, the name of the generated program aside. -/
def ModuleName.Grammatical (name : ModuleName) : Prop :=
  (List.splitOn '.' name.text.toList).all isUpperIdentifier = true ∧
    name.text ≠ reservedModuleName

theorem ModuleName.grammatical_of_parse {raw : String} {name : ModuleName}
    (h : ModuleName.parse raw = .ok name) : name.Grammatical := by
  unfold ModuleName.parse at h
  simp only at h
  split at h
  · cases h
  split at h
  · cases h
  split at h
  · cases h
  rename_i pieces reserved
  cases h
  refine ⟨by simpa using pieces, ?_⟩
  intro he
  exact reserved (by rw [← he, String.toList_ofList])

theorem isViewChar_of_mem_upperIdentifier {piece : List Char}
    (h : isUpperIdentifier piece = true) : ∀ c ∈ piece, isViewChar c = true := by
  cases piece with
  | nil => simp
  | cons d r =>
    simp only [isUpperIdentifier, Bool.and_eq_true, List.all_eq_true] at h
    intro c hc
    rcases List.mem_cons.mp hc with rfl | hr
    · exact isViewChar_of_isIdentifierRest (isIdentifierRest_of_isUpper h.1)
    · exact isViewChar_of_isIdentifierRest (h.2 c hr)

theorem ModuleName.Grammatical.isViewChar {name : ModuleName} (h : name.Grammatical) :
    ∀ c ∈ name.text.toList, isViewChar c = true := by
  intro c hc
  rcases Text.mem_of_mem_splitOn '.' hc with rfl | ⟨piece, hp, hcp⟩
  · rfl
  · exact isViewChar_of_mem_upperIdentifier (List.all_eq_true.mp h.1 piece hp) c hcp

/-- A small letter and then identifier characters, and no word of the language. -/
def EntryFunction.Grammatical (entry : EntryFunction) : Prop :=
  EntryFunction.isLowerIdentifier entry.name.toList = true ∧
    entry.name ∉ EntryFunction.keywords

theorem EntryFunction.parse_eq_ok_iff {raw : String} {entry : EntryFunction} :
    EntryFunction.parse raw = .ok entry ↔ entry = ⟨raw⟩ ∧ entry.Grammatical := by
  unfold EntryFunction.parse
  constructor
  · intro h
    split at h
    · cases h
    split at h
    · cases h
    rename_i lower keyword
    cases h
    exact ⟨rfl, by simpa using lower, by simpa using keyword⟩
  · rintro ⟨rfl, lower, keyword⟩
    simp [lower, keyword]

/-- A parsed name is read as itself. -/
theorem EntryFunction.Grammatical.parse {entry : EntryFunction} (h : entry.Grammatical) :
    EntryFunction.parse entry.name = .ok entry :=
  EntryFunction.parse_eq_ok_iff.mpr ⟨rfl, h⟩

theorem EntryFunction.grammatical_view : EntryFunction.view.Grammatical := by
  unfold EntryFunction.Grammatical
  decide

theorem EntryFunction.Grammatical.isIdentifierRest {entry : EntryFunction}
    (h : entry.Grammatical) : ∀ c ∈ entry.name.toList, isIdentifierRest c = true := by
  have hl := h.1
  cases hn : entry.name.toList with
  | nil => simp
  | cons d r =>
    simp only [hn, EntryFunction.isLowerIdentifier, Bool.and_eq_true, List.all_eq_true] at hl
    intro c hc
    rcases List.mem_cons.mp hc with rfl | hr
    · exact isIdentifierRest_of_isLower hl.1
    · exact hl.2 c hr

end ElmPrerender
