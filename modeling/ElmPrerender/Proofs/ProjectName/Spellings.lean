import ElmPrerender.Proofs.ProjectName.Linking
import ElmPrerender.Proofs.Url.WebPath

/-!
# Spellings of a repository

A repository is given by the address of its page or by the path of this page alone, with `.git` or
without, with any slashes around the path, and with white space around all of it. The project has
the same name in each of these spellings.
-/

namespace ElmPrerender.ProjectName

open ModuleName (NameChar)
open Text (White Firm)
open Url (Kept PlainSegment PlainPath Query)

/-- `[A-Za-z0-9_-]` -/
def LabelChar (c : Char) : Prop := NameChar c ∨ c = '-'

instance : DecidablePred LabelChar := fun _ => inferInstanceAs (Decidable (_ ∨ _))

/-- What a user or a project is called. -/
structure Label (s : List Char) : Prop where
  nonempty : s ≠ []
  chars : ∀ c ∈ s, LabelChar c

/-- The path of a repository. Slashes around it do not count, nor does a final `.git`. -/
inductive Locates (user project : List Char) : List Char → Prop
  | intro {suffix : List Char} (leading trailing : Nat)
      (known : suffix = [] ∨ suffix = ".git".toList) :
      Locates user project (List.replicate leading '/' ++
        (user ++ '/' :: (project ++ suffix) ++ List.replicate trailing '/'))

/-- The path alone, or the address of its page with a query or a fragment. -/
inductive Spells (user project : List Char) : List Char → Prop
  | path {before path after : List Char} (gap : White before) (located : Locates user project path)
      (behind : White after) : Spells user project (before ++ (path ++ after))
  | address {before path tail after : List Char} (gap : White before)
      (located : Locates user project path) (query : Query tail) (behind : White after) :
      Spells user project (before ++ ("https://github.com/".toList ++ path ++ (tail ++ after)))

/-- A hyphen is written as an underscore in the name of a project. -/
def underscored (s : List Char) : List Char := s.map fun c => if c = '-' then '_' else c

/-- What holds of all labels can be looked up for each character. -/
theorem LabelChar.forall {P : Char → Prop}
    (h : ∀ n < 0x7B, LabelChar (Char.ofNat n) → P (Char.ofNat n)) {c : Char} (hc : LabelChar c) :
    P c := by
  have hrange : c.toNat < 0x7B := by
    rcases hc with hname | rfl
    · exact Nat.lt_succ_of_le hname.range.2
    · decide
  have hchar := h c.toNat hrange
  rw [Char.ofNat_toNat] at hchar
  exact hchar hc

theorem LabelChar.kept {c : Char} (h : LabelChar c) : Kept c :=
  LabelChar.forall (by decide +kernel) h

/-- Dot segments begin otherwise, in small letters too. -/
theorem LabelChar.undotted {c : Char} (h : LabelChar c) : c.toLower ≠ '.' ∧ c.toLower ≠ '%' :=
  LabelChar.forall (P := fun c => c.toLower ≠ '.' ∧ c.toLower ≠ '%') (by decide +kernel) h

namespace Label

variable {s suffix : List Char}

theorem notMem (h : Label s) {c : Char} (other : ¬ LabelChar c) : c ∉ s :=
  fun hc => other (h.chars c hc)

theorem plainSegment (h : Label s) (kept : ∀ c ∈ suffix, Kept c) : PlainSegment (s ++ suffix) := by
  obtain ⟨c, r, rfl⟩ := List.exists_cons_of_ne_nil h.nonempty
  have hc := (h.chars c List.mem_cons_self).undotted
  refine .of_head ?_ hc.1 hc.2
  exact List.forall_mem_append.mpr ⟨fun d hd => (h.chars d hd).kept, kept⟩

theorem plainPath (h : Label s) (kept : ∀ c ∈ suffix, Kept c) (single : '/' ∉ suffix) :
    PlainPath (s ++ suffix) := by
  refine (h.plainSegment kept).path ?_
  rw [List.mem_append, not_or]
  exact ⟨h.notMem (by decide), single⟩

theorem firm (h : Label s) (single : '/' ∉ suffix) : Firm (· == '/') (s ++ suffix) := by
  refine .of_forall (by simp [h.nonempty]) fun c hc => beq_false_of_ne ?_
  rintro rfl
  rcases List.mem_append.mp hc with hc | hc
  · exact h.notMem (by decide) hc
  · exact single hc

theorem map_nameChar (h : Label s) : s.map nameChar = underscored s := by
  refine List.map_congr_left ?_
  intro c hc
  have hslash : c ≠ '/' := by
    rintro rfl
    exact h.notMem (by decide) hc
  rw [nameChar, if_neg hslash]

end Label

/-- All slashes around a text that neither begins nor ends with one. -/
theorem withoutSlashes_between {s : List Char} (firm : Firm (· == '/') s) (leading trailing : Nat) :
    withoutSlashes (List.replicate leading '/' ++ (s ++ List.replicate trailing '/')) = s := by
  have hslashes : ∀ n, ∀ c ∈ List.replicate n '/', (c == '/') = true := fun n c hc => by
    simp [List.eq_of_mem_replicate hc]
  rw [withoutSlashes, firm.cut (hslashes leading), Text.dropEndWhile_of_forall (hslashes trailing),
    List.append_nil]

theorem withoutSuffix_append (s : List Char) : withoutSuffix (s ++ ".git".toList) = s := by
  have hsuffix : gitSuffix.isSuffixOf (s ++ ".git".toList) = true :=
    List.isSuffixOf_iff_suffix.mpr (List.suffix_append s _)
  have hlength : (s ++ ".git".toList).length - gitSuffix.length = s.length := by
    rw [List.length_append]
    exact Nat.add_sub_cancel ..
  rw [withoutSuffix, if_pos hsuffix, hlength, List.take_left]

theorem withoutSuffix_of_dot_notMem {s : List Char} (h : '.' ∉ s) : withoutSuffix s = s := by
  refine if_neg ?_
  intro hsuffix
  exact h ((List.isSuffixOf_iff_suffix.mp hsuffix).subset List.mem_cons_self)

namespace Locates

variable {user project path : List Char}

/-- A path with a slash in front is one of the same repository. -/
theorem rooted (h : Locates user project path) : Locates user project ('/' :: path) := by
  obtain ⟨leading, trailing, known⟩ := h
  exact .intro (leading + 1) trailing known

theorem nonempty (h : Locates user project path) : path ≠ [] := by
  obtain ⟨leading, trailing, known⟩ := h
  simp

theorem plainPath (h : Locates user project path) (huser : Label user) (hproject : Label project) :
    PlainPath path := by
  obtain ⟨leading, trailing, known⟩ := h
  rename_i suffix
  have hsuffix : (∀ c ∈ suffix, Kept c) ∧ '/' ∉ suffix := by
    rw [← List.all_iff_forall_prop]
    rcases known with rfl | rfl <;> decide
  have huserPath : PlainPath (user ++ []) := huser.plainPath (List.forall_mem_nil _) (by simp)
  rw [List.append_nil] at huserPath
  have hprojectPath := hproject.plainPath hsuffix.1 hsuffix.2
  exact ((huserPath.append hprojectPath).beforeSlashes trailing).behindSlashes leading

theorem colon_notMem (h : Locates user project path) (huser : Label user)
    (hproject : Label project) : ':' ∉ path := by
  obtain ⟨leading, trailing, known⟩ := h
  rename_i suffix
  have hsuffix : ':' ∉ suffix := by rcases known with rfl | rfl <;> decide
  have hcolon : ∀ n, ':' ∉ List.replicate n '/' := by simp [List.mem_replicate]
  have huserColon : ':' ∉ user := huser.notMem (by decide)
  have hprojectColon : ':' ∉ project := hproject.notMem (by decide)
  simp [hcolon, hsuffix, huserColon, hprojectColon]

/-- Slashes around it and the suffix are dropped from the path of a repository. -/
theorem cut (h : Locates user project path) (huser : Label user) (hproject : Label project) :
    withoutSuffix (withoutSlashes path) = user ++ '/' :: project := by
  obtain ⟨leading, trailing, known⟩ := h
  rename_i suffix
  have hsuffix : '/' ∉ suffix := by rcases known with rfl | rfl <;> decide
  have huserFirm : Firm (· == '/') (user ++ []) := huser.firm (by simp)
  rw [List.append_nil] at huserFirm
  rw [withoutSlashes_between (huserFirm.between '/' (hproject.firm hsuffix))]
  rcases known with rfl | rfl
  · rw [List.append_nil]
    have huserDot : '.' ∉ user := huser.notMem (by decide)
    have hprojectDot : '.' ∉ project := hproject.notMem (by decide)
    exact withoutSuffix_of_dot_notMem (by simp [huserDot, hprojectDot])
  · rw [← List.cons_append, ← List.append_assoc, withoutSuffix_append]

end Locates

namespace Spells

variable {user project : List Char} {repository : String}

/-- A query or a fragment is left without white space at its end. -/
theorem query_dropEndWhile {tail after : List Char} (query : Query tail) (behind : White after) :
    Query (Text.dropEndWhile Text.isWhite (tail ++ after)) := by
  cases tail with
  | nil =>
    rw [List.nil_append, Text.dropEndWhile_of_forall behind]
    exact query
  | cons c r =>
    have hwhole : Query (c :: r ++ after) := query
    exact hwhole.of_prefix (Text.dropEndWhile_prefix _ _)

/-- Each spelling has a path of the repository. -/
theorem repositoryPath (h : Spells user project repository.toList) (huser : Label user)
    (hproject : Label project) : Locates user project (repositoryPath repository) := by
  generalize htext : repository.toList = text at h
  rw [ProjectName.repositoryPath, htext]
  have hsolid : ∀ {path}, Locates user project path → ∀ c ∈ path, Text.isWhite c = false := by
    intro path located c hc
    have hrange := ((located.plainPath huser hproject).kept c hc).printable
    exact Text.isWhite_of_printable hrange.1 hrange.2
  cases h with
  | @path before path after gap located behind =>
    have htrim : Text.trim (before ++ (path ++ after)) = path := by
      rw [Text.trim, (Firm.of_forall located.nonempty (hsolid located)).cut gap,
        Text.dropEndWhile_of_forall behind, List.append_nil]
    -- A path has no colon, so it is taken for what it is.
    rw [htrim, Url.path?_of_colon_notMem (located.colon_notMem huser hproject)]
    exact located
  | @address before path tail after gap located query behind =>
    have hfront : ∀ c ∈ "https://github.com/".toList ++ path, Text.isWhite c = false :=
      List.forall_mem_append.mpr ⟨List.all_iff_forall_prop.mp (by decide), hsolid located⟩
    -- White space at the end may belong to the query; the path is not touched by trimming it.
    have htrim : Text.trim (before ++ ("https://github.com/".toList ++ path ++ (tail ++ after))) =
        "https://".toList ++ ("github.com".toList ++ '/' :: path) ++
          Text.dropEndWhile Text.isWhite (tail ++ after) := by
      rw [Text.trim, (Firm.of_forall (by simp) hfront).cut gap]
      rfl
    have hhost : ∀ c ∈ "github.com".toList, Url.HostChar c :=
      List.all_iff_forall_prop.mp (by decide)
    have hpath := Url.path?_webAddress hhost (by decide +kernel) (by decide)
      (located.plainPath huser hproject) (query_dropEndWhile query behind)
    rw [htrim, hpath]
    exact located.rooted

end Spells

/-- A repository whose user and project are called by letters, digits, underscores and hyphens
names the same project in all its spellings. -/
theorem name_of_spells {user project : List Char} {repository : String}
    (huser : Label user) (hproject : Label project)
    (spelled : Spells user project repository.toList) :
    ofRepository? repository =
      some ⟨String.ofList (underscored user ++ '$' :: underscored project)⟩ := by
  have hpath : namingPath repository = user ++ '/' :: project :=
    (spelled.repositoryPath huser hproject).cut huser hproject
  rw [ofRepository?_eq_some_iff, hpath, ofPath, List.map_append, List.map_cons, huser.map_nameChar,
    hproject.map_nameChar]
  exact ⟨by simp, rfl⟩

theorem name_of_page_address :
    Label "my-user".toList ∧ Label "elm_site".toList ∧
      Spells "my-user".toList "elm_site".toList
        "\t https://github.com//my-user/elm_site.git//?tab=readme#top \n".toList ∧
      ofRepository? "\t https://github.com//my-user/elm_site.git//?tab=readme#top \n" =
        some ⟨"my_user$elm_site"⟩ := by
  have huser : Label "my-user".toList := ⟨by decide, List.all_iff_forall_prop.mp (by decide)⟩
  have hproject : Label "elm_site".toList := ⟨by decide, List.all_iff_forall_prop.mp (by decide)⟩
  have hgap : White "\t ".toList := List.all_eq_true.mp (by decide)
  have hquery : Query "?tab=readme#top".toList := by
    rintro c ⟨⟩
    exact .inl rfl
  have hbehind : White " \n".toList := List.all_eq_true.mp (by decide)
  have hspelled : Spells "my-user".toList "elm_site".toList
      "\t https://github.com//my-user/elm_site.git//?tab=readme#top \n".toList :=
    .address hgap (.intro 1 2 (.inr rfl)) hquery hbehind
  exact ⟨huser, hproject, hspelled, name_of_spells huser hproject hspelled⟩

end ElmPrerender.ProjectName
