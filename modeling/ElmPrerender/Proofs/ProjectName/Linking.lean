import Mathlib.Data.Bool.AllAny
import ElmPrerender.Proofs.Configuration.Header
import ElmPrerender.Scaffold

/-!
# The variable of the native module

The compiler links the native module by a variable that has the name of the project in it. The name
is the path of the repository with two characters replaced, and no other character is looked at. So
the module declares this variable exactly for the paths that have nothing else in them than an
identifier may have. In any other path the first such character ends the variable.
-/

namespace ElmPrerender

open ModuleName (NameChar)

namespace ProjectName

/-- The path that names the project. -/
def namingPath (repository : String) : List Char :=
  withoutSuffix (withoutSlashes (repositoryPath repository))

/-- The name that a path gives. -/
def ofPath (path : List Char) : ProjectName := ⟨String.ofList (path.map nameChar)⟩

theorem ofRepository?_eq_some_iff {repository : String} {name : ProjectName} :
    ofRepository? repository = some name ↔
      namingPath repository ≠ [] ∧ name = ofPath (namingPath repository) := by
  change (if (namingPath repository).isEmpty then none
    else some (ofPath (namingPath repository))) = some name ↔ _
  by_cases hpath : namingPath repository = []
  · simp [hpath]
  · rw [if_neg (by simpa using hpath), Option.some.injEq, eq_comm]
    exact (and_iff_right hpath).symm

end ProjectName

namespace Scaffold

open ProjectName (nameChar namingPath ofPath)

/-- `[A-Za-z0-9_$]` -/
def IdentifierChar (c : Char) : Prop := NameChar c ∨ c = '$'

instance : DecidablePred IdentifierChar := fun _ => inferInstanceAs (Decidable (_ ∨ _))

/-- A text declares a variable, and goes on behind it. The variable is as long as it can be. -/
structure DeclaresBefore (text linked rest : List Char) : Prop where
  whole : text = "var ".toList ++ linked ++ rest
  starts : ∃ c ∈ linked.head?, IdentifierChar c ∧ ¬ c.isDigit
  chars : ∀ c ∈ linked, IdentifierChar c
  ends : ∀ c ∈ rest.head?, ¬ IdentifierChar c

/-- A text is the declaration of a variable for the object of the native module, nothing else. -/
def Declares (text linked : List Char) : Prop := DeclaresBefore text linked nativeObject.toList

/-- A character of a path that the name of a project can hold: all those of an identifier, and those
that are replaced. -/
def Linkable (c : Char) : Prop := IdentifierChar c ∨ c = '/' ∨ c = '-'

instance : DecidablePred Linkable := fun _ => inferInstanceAs (Decidable (_ ∨ _))

theorem identifierChar_nameChar_iff {c : Char} : IdentifierChar (nameChar c) ↔ Linkable c := by
  unfold nameChar Linkable
  split
  · rename_i hslash
    simp [hslash, IdentifierChar]
  split
  · rename_i hhyphen
    simp [hhyphen, IdentifierChar, NameChar]
  · rename_i hslash hhyphen
    simp [hslash, hhyphen]

theorem nameChar_of_not_linkable {c : Char} (h : ¬ Linkable c) : nameChar c = c := by
  have hslash : c ≠ '/' := fun hc => h (.inr (.inl hc))
  have hhyphen : c ≠ '-' := fun hc => h (.inr (.inr hc))
  simp [nameChar, hslash, hhyphen]

/-- A variable and what follows it are found again by its characters. -/
theorem DeclaresBefore.cut {text linked rest : List Char} (h : DeclaresBefore text linked rest) :
    linked = (text.drop 4).takeWhile (IdentifierChar ·) ∧
      rest = (text.drop 4).dropWhile (IdentifierChar ·) := by
  have hdrop : text.drop 4 = linked ++ rest := by
    rw [h.whole, List.append_assoc]
    rfl
  have hinside : ∀ c ∈ linked, decide (IdentifierChar c) = true := fun c hc =>
    decide_eq_true (h.chars c hc)
  have hends : ∀ c ∈ rest.head?, decide (IdentifierChar c) = false := fun c hc =>
    decide_eq_false (h.ends c hc)
  rw [hdrop, Text.takeWhile_append_of_stop hinside hends,
    Text.dropWhile_append_of_stop hinside hends]
  exact ⟨rfl, rfl⟩

/-- A text declares one variable only. -/
theorem DeclaresBefore.unique {text x y a b : List Char} (first : DeclaresBefore text x a)
    (second : DeclaresBefore text y b) : x = y ∧ a = b :=
  ⟨first.cut.1.trans second.cut.1.symm, first.cut.2.trans second.cut.2.symm⟩

theorem toList_shimVariable (path : List Char) :
    (shimVariable (ofPath path)).toList = '_' :: path.map nameChar ++ "$Native_Jsonify".toList := by
  simp [shimVariable, ofPath, String.toList_append]

theorem toList_shim (path : List Char) :
    (shim (ofPath path)).toList =
      "var ".toList ++ (shimVariable (ofPath path)).toList ++ nativeObject.toList := by
  rw [← String.toList_append, ← String.toList_append]
  simp only [shim, nativeObject, String.append_assoc]

/-- The variable ends where a path has its first character that cannot be linked. -/
theorem declaresBefore_shim {before after : List Char} {c : Char}
    (linkable : ∀ d ∈ before, Linkable d) (stop : ¬ Linkable c) :
    DeclaresBefore (shim (ofPath (before ++ c :: after))).toList ('_' :: before.map nameChar)
      (c :: (after.map nameChar ++ "$Native_Jsonify".toList ++ nativeObject.toList)) where
  whole := by
    rw [toList_shim, toList_shimVariable, List.map_append, List.map_cons,
      nameChar_of_not_linkable stop]
    simp only [List.append_assoc, List.cons_append]
  starts := ⟨'_', rfl, by decide, by decide⟩
  chars := by
    rw [List.forall_mem_cons, List.forall_mem_map]
    exact ⟨by decide, fun d hd => identifierChar_nameChar_iff.mpr (linkable d hd)⟩
  ends := by
    rintro d ⟨⟩
    exact fun hc => stop (.inl hc)

theorem identifierChar_shimVariable_iff {path : List Char} :
    (∀ c ∈ (shimVariable (ofPath path)).toList, IdentifierChar c) ↔ ∀ c ∈ path, Linkable c := by
  have hsuffix : ∀ c ∈ "$Native_Jsonify".toList, IdentifierChar c :=
    List.all_iff_forall_prop.mp (by decide)
  rw [toList_shimVariable, List.forall_mem_append, List.forall_mem_cons, List.forall_mem_map]
  simp only [identifierChar_nameChar_iff]
  exact (and_iff_left hsuffix).trans (and_iff_right (by decide))

/-- The native module declares its variable for a path that can be linked, and else none. -/
theorem declares_shim_iff {path linked : List Char} :
    Declares (shim (ofPath path)).toList linked ↔
      linked = (shimVariable (ofPath path)).toList ∧ ∀ c ∈ path, Linkable c := by
  rw [← identifierChar_shimVariable_iff]
  constructor
  · intro h
    -- The words before and behind it are the same, so the variable is the one that is written.
    have hwhole := h.whole.symm.trans (toList_shim path)
    obtain rfl : linked = (shimVariable (ofPath path)).toList := by simpa using hwhole
    exact ⟨rfl, h.chars⟩
  · rintro ⟨rfl, hchars⟩
    refine ⟨toList_shim path, ⟨'_', ?_, by decide, by decide⟩, hchars, ?_⟩
    · rw [toList_shimVariable]
      rfl
    · rintro c ⟨⟩
      decide

/-- The shim of a project is one declaration, of the variable with the name of the project, exactly
if the path that names it has no character that an identifier cannot have, but for slashes and
hyphens. In another path the first such character ends the variable; the text goes on with it. -/
theorem shim_declares_variable {repository : String} {name : ProjectName}
    (named : ProjectName.ofRepository? repository = some name) :
    (∀ linked, Declares (shim name).toList linked ↔
      linked = (shimVariable name).toList ∧ ∀ c ∈ namingPath repository, Linkable c) ∧
    ∀ before c after, namingPath repository = before ++ c :: after →
      (∀ d ∈ before, Linkable d) → ¬ Linkable c →
      ∀ linked rest, DeclaresBefore (shim name).toList linked rest ↔
        linked = '_' :: before.map nameChar ∧
          rest = c :: (after.map nameChar ++ "$Native_Jsonify".toList ++ nativeObject.toList) := by
  obtain ⟨-, rfl⟩ := ProjectName.ofRepository?_eq_some_iff.mp named
  refine ⟨fun linked => declares_shim_iff, ?_⟩
  intro before c after hpath linkable stop linked rest
  rw [hpath]
  constructor
  · exact fun h => h.unique (declaresBefore_shim linkable stop)
  · rintro ⟨rfl, rfl⟩
    exact declaresBefore_shim linkable stop

theorem shim_declares_user_project :
    ProjectName.ofRepository? "https://github.com/user/my-project.git" =
        some ⟨"user$my_project"⟩ ∧
      Declares (shim ⟨"user$my_project"⟩).toList "_user$my_project$Native_Jsonify".toList := by
  have hnamed : ProjectName.ofRepository? "https://github.com/user/my-project.git" =
      some ⟨"user$my_project"⟩ := by decide +kernel
  have hpath : namingPath "https://github.com/user/my-project.git" = "user/my-project".toList := by
    decide +kernel
  refine ⟨hnamed, ((shim_declares_variable hnamed).1 _).mpr ⟨by decide, ?_⟩⟩
  rw [hpath]
  exact List.all_iff_forall_prop.mp (by decide)

/-- A dot is left in the name of a project. No variable is declared then: the text goes on with
`.site` behind the variable `_user$my`. -/
theorem dotted_project_undeclared :
    ProjectName.ofRepository? "https://github.com/user/my.site" = some ⟨"user$my.site"⟩ ∧
      (¬ ∃ linked, Declares (shim ⟨"user$my.site"⟩).toList linked) ∧
      ∃ rest, DeclaresBefore (shim ⟨"user$my.site"⟩).toList "_user$my".toList
        (".site".toList ++ rest) := by
  have hname : (⟨"user$my.site"⟩ : ProjectName) =
      ofPath ("user/my".toList ++ '.' :: "site".toList) := by decide
  have hlinkable : ∀ c ∈ "user/my".toList, Linkable c := List.all_iff_forall_prop.mp (by decide)
  have hdot : ¬ Linkable '.' := by decide
  refine ⟨by decide +kernel, ?_, ?_⟩
  · rintro ⟨linked, hdeclares⟩
    rw [hname, declares_shim_iff] at hdeclares
    exact hdot (hdeclares.2 '.' (by decide))
  · rw [hname]
    exact ⟨_, declaresBefore_shim hlinkable hdot⟩

end Scaffold

end ElmPrerender
