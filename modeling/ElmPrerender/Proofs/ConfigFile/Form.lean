import ElmPrerender.ConfigFile
import ElmPrerender.Manifest
import ElmPrerender.ModuleName
import ElmPrerender.Proofs.Json.Typed

/-!
# The form of a list of pages

A text that is accepted as a list of pages is a JSON object whose only member lists the pages, or a
JSON list of that one object. So it is no manifest, and no source file either.
-/

namespace ElmPrerender.ConfigFile

open Json.Reader

/-- The first byte of a text that is not blank. -/
def opening (text : String) : Option UInt8 :=
  ((Text.Utf8.ofString text).dropWhile isBlank).head?

theorem opening_eq {text : String} {blanks inner : Json.Bytes} {b : UInt8} (h : Blank blanks)
    (hb : isBlank b = false) (htext : Text.Utf8.ofString text = blanks ++ b :: inner) :
    opening text = some b := by
  rw [opening, htext, dropWhile_blank h hb, List.head?_cons]

/-- The one field of a list. -/
theorem eq_files {α : Type} {values : List (String × α)} {files : α}
    (known : ∀ m ∈ values, m.1 ∈ [filesField]) (distinct : (values.map (·.1)).Nodup)
    (h : required values filesField = .ok files) : values = [(filesField, files)] := by
  cases values with
  | nil => cases h
  | cons first others =>
    have hfirst : first.1 = filesField := List.mem_singleton.mp (known first (by simp))
    cases others with
    | nil =>
      obtain ⟨name, a⟩ := first
      cases hfirst
      have hrequired : required [(filesField, a)] filesField = .ok a := rfl
      cases hrequired.symm.trans h
      rfl
    | cons second others =>
      have hsecond : second.1 = filesField := List.mem_singleton.mp (known second (by simp))
      simp [hfirst, hsecond] at distinct

/-- An accepted text is read in one of two ways: as a record with the one field, or as a list with
one item in its place. -/
theorem reads_of_accepted {text : String} {c : ConfigFile} (h : parse text = .ok c) :
    ∃ files blanks inner nested middle stop rest, c = ⟨.ofList files⟩ ∧ Blank blanks ∧
      maxDepth = nested + 1 ∧ Reads finish stop () rest ∧
      ((Text.Utf8.ofString text = blanks ++ Json.byte '{' :: inner ∧
          closeObject middle = (none, stop) ∧
          Reads (fieldValues [filesField] (fun _ => object nested) (inner.length + 1) true []) inner
            (.ok [(filesField, files)]) middle) ∨
        (Text.Utf8.ofString text = blanks ++ Json.byte '[' :: inner ∧
          closeList middle = (none, stop) ∧
          Reads (oneItem (object nested) "struct ConfigFile with 1 element") inner (.ok files)
            middle)) := by
  unfold parse at h
  split at h
  · rename_i file hparse
    cases h
    obtain ⟨stop, rest, hread, hends⟩ := reads_of_parse hparse
    obtain ⟨blanks, inner, nested, middle, hblanks, hdepth, ⟨htext, hclose, values, hvalues, hof⟩ |
      ⟨htext, hclose, hlist⟩⟩ := hread.of_record
    · obtain ⟨hknown, hdistinct⟩ := distinct_of_fieldValues (by simp) (by simp) hvalues
      cases hfiles : required values filesField with
      | error cause =>
        rw [hfiles] at hof
        cases hof
      | ok files =>
        rw [hfiles] at hof
        cases hof
        rw [eq_files hknown hdistinct hfiles] at hvalues
        exact ⟨files, blanks, inner, nested, middle, stop, rest, rfl, hblanks, hdepth, hends,
          Or.inl ⟨htext, hclose, hvalues⟩⟩
    · obtain ⟨verdict, _, hitem, hverdict⟩ := hlist.of_bind
      cases verdict with
      | error cause => cases hverdict
      | ok files =>
        cases hverdict
        exact ⟨files, blanks, inner, nested, middle, stop, rest, rfl, hblanks, hdepth, hends,
          Or.inr ⟨htext, hclose, hitem⟩⟩
  · cases h

/-- The value that an accepted text holds, by its first byte. -/
theorem value_of_parse {text : String} {c : ConfigFile} (h : parse text = .ok c) :
    (opening text = some (Json.byte '{') ∧
        Json.Value.parse text = .ok (.object [(filesField, .object c.files)])) ∨
      (opening text = some (Json.byte '[') ∧
        Json.Value.parse text = .ok (.array [.object c.files])) := by
  obtain ⟨files, blanks, inner, nested, middle, stop, rest, rfl, hblanks, hdepth, hends,
    ⟨htext, hclose, hvalues⟩ | ⟨htext, hclose, hitem⟩⟩ := reads_of_accepted h
  · left
    have hvalue := reads_value_of_fieldValues (fun files => .object (Json.Members.ofList files))
      hblanks (fun _ _ _ _ hobject => reads_value_of_object hobject) hvalues hclose
    rw [← htext, ← hdepth] at hvalue
    exact ⟨opening_eq hblanks (by decide) htext, parse_of_reads hvalue hends⟩
  · right
    have hvalue := reads_value_of_oneItem hblanks
      (fun _ _ hobject => reads_value_of_object hobject) hitem hclose
    rw [← htext, ← hdepth] at hvalue
    exact ⟨opening_eq hblanks (by decide) htext, parse_of_reads hvalue hends⟩

/-- A list of pages is taken for a manifest without any of its fields, or for none at all. -/
theorem manifest_of_parse {text : String} {c : ConfigFile} (h : parse text = .ok c) :
    (opening text = some (Json.byte '{') ∧
        Manifest.parse text = .ok ⟨[(filesField, .object c.files)]⟩) ∨
      (opening text = some (Json.byte '[') ∧ Manifest.parse text = .error .notObject) := by
  rcases value_of_parse h with ⟨hopening, hvalue⟩ | ⟨hopening, hvalue⟩
  · left
    refine ⟨hopening, ?_⟩
    rw [Manifest.parse, hvalue]
  · right
    refine ⟨hopening, ?_⟩
    rw [Manifest.parse, hvalue]

/-- The characters that JSON leaves out. -/
def blankCharacters : List Char := [' ', '\n', '\t', '\r']

theorem mem_blankCharacters {c : Char} (hc : c.val.toNat < 128)
    (h : isBlank (Json.byte c) = true) : c ∈ blankCharacters := by
  simp only [isBlank, Bool.or_eq_true, beq_iff_eq] at h
  rcases h with ((h | h) | h) | h
  all_goals
    rw [(byte_inj hc (by decide)).mp h]
    decide

/-- A text whose first byte behind the blanks is that of an ASCII character. -/
theorem exists_blankCharacters {o : Char} (ho : o.val.toNat < 128) {s : List Char}
    (h : ((Text.Utf8.encode s).dropWhile isBlank).head? = some (Json.byte o)) :
    ∃ before behind, s = before ++ o :: behind ∧ ∀ c ∈ before, c ∈ blankCharacters := by
  induction s with
  | nil => cases h
  | cons c rest ih =>
    by_cases hc : c.val.toNat < 128
    · rw [encode_ascii hc, List.dropWhile_cons] at h
      by_cases hblank : isBlank (Json.byte c) = true
      · rw [if_pos hblank] at h
        obtain ⟨before, behind, rfl, hbefore⟩ := ih h
        refine ⟨c :: before, behind, rfl, ?_⟩
        intro d hd
        rcases List.mem_cons.mp hd with rfl | hd
        · exact mem_blankCharacters hc hblank
        · exact hbefore d hd
      · rw [if_neg hblank, List.head?_cons, Option.some.injEq] at h
        rw [(byte_inj hc ho).mp h]
        exact ⟨[], rest, rfl, by simp⟩
    · -- No byte of this character is a blank or an ASCII character.
      exfalso
      obtain ⟨b, more, hb, hlarge⟩ :=
        Text.Utf8.exists_encodeChar_notAscii (Nat.le_of_not_lt hc)
      have hnotBlank : isBlank b = false := by
        rw [Bool.eq_false_iff]
        intro hblank
        simp only [isBlank, Bool.or_eq_true, beq_iff_eq] at hblank
        rcases hblank with ((rfl | rfl) | rfl) | rfl
        all_goals exact absurd hlarge (by decide)
      have hencode : Text.Utf8.encode (c :: rest) = b :: (more ++ Text.Utf8.encode rest) := by
        rw [Text.Utf8.encode, List.flatMap_cons, hb]
        rfl
      rw [hencode, List.dropWhile_cons, if_neg (by simp [hnotBlank]), List.head?_cons,
        Option.some.injEq] at h
      rw [h, byte_toNat ho] at hlarge
      omega

/-- The first word of a line that begins behind blanks. -/
theorem dropWhile_firstLine {o : Char} (line : o ≠ '\n') (white : Text.isWhite o = false)
    {before : List Char} (h : ∀ c ∈ before, c ∈ blankCharacters) (behind : List Char) :
    (Text.firstLine (before ++ o :: behind)).dropWhile Text.isWhite = [] ∨
      ∃ rest, (Text.firstLine (before ++ o :: behind)).dropWhile Text.isWhite = o :: rest := by
  induction before with
  | nil =>
    right
    refine ⟨Text.firstLine behind, ?_⟩
    simp [Text.firstLine, line, white]
  | cons c before ih =>
    have hothers := ih fun d hd => h d (List.mem_cons_of_mem c hd)
    have hc := h c (List.mem_cons_self ..)
    by_cases hline : c = '\n'
    · left
      simp [Text.firstLine, hline]
    · have hwhite : Text.isWhite c = true := by
        simp only [blankCharacters, List.mem_cons, List.not_mem_nil, or_false] at hc
        rcases hc with rfl | rfl | rfl | rfl <;> decide
      have hcons : Text.firstLine (c :: before ++ o :: behind) =
          c :: Text.firstLine (before ++ o :: behind) := by
        simp [Text.firstLine, hline]
      rw [hcons, List.dropWhile_cons_of_pos hwhite]
      exact hothers

/-- Characters that can begin a list of pages. -/
structure Opens (o : Char) : Prop where
  ascii : o.val.toNat < 128
  white : Text.isWhite o = false
  mark : o ≠ '\uFEFF'
  header : o ≠ 'm' ∧ o ≠ 'p' ∧ o ≠ 'e'

theorem opens_brace : Opens '{' :=
  ⟨by decide, by decide, by decide, by decide, by decide, by decide⟩

theorem opens_bracket : Opens '[' :=
  ⟨by decide, by decide, by decide, by decide, by decide, by decide⟩

/-- The only word that the first line may begin with is none of a header. -/
theorem ofSource_of_opens {o : Char} (ho : Opens o) {text : String}
    (h : opening text = some (Json.byte o)) :
    ModuleName.ofSource text = .error .missingHeader := by
  obtain ⟨before, behind, htext, hbefore⟩ := exists_blankCharacters ho.ascii h
  have hmark : text.toList.dropWhile (· == '\uFEFF') = before ++ o :: behind := by
    rw [htext]
    cases before with
    | nil => simp [ho.mark]
    | cons c before =>
      have hc : c ≠ '\uFEFF' := by
        rintro rfl
        exact absurd (hbefore _ (List.mem_cons_self ..)) (by decide)
      simp [hc]
  have hline : o ≠ '\n' := by
    rintro rfl
    exact absurd ho.white (by decide)
  rw [ModuleName.ofSource, ModuleName.headerLine, hmark, ModuleName.headerKeyword?, Text.nextWord?]
  rcases dropWhile_firstLine hline ho.white hbefore behind with hnone | ⟨rest, hword⟩
  · rw [hnone]
    rfl
  · obtain ⟨hm, hp, he⟩ := ho.header
    rw [hword]
    simp [ModuleName.isHeaderKeyword, ho.white, hm, hp, he]

/-- A list of pages declares no module. -/
theorem ofSource_of_parse {text : String} {c : ConfigFile} (h : parse text = .ok c) :
    ModuleName.ofSource text = .error .missingHeader := by
  rcases value_of_parse h with ⟨hopening, -⟩ | ⟨hopening, -⟩
  · exact ofSource_of_opens opens_brace hopening
  · exact ofSource_of_opens opens_bracket hopening

end ElmPrerender.ConfigFile
