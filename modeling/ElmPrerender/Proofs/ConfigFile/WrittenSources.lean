import ElmPrerender.Proofs.ConfigFile.Form
import ElmPrerender.Proofs.ConfigFile.Sources
import ElmPrerender.Proofs.Json.Repeated
import ElmPrerender.Proofs.Json.WrittenMembers

/-!
# Entries as they are written

The text of a list of pages writes members, in order and with repeated names. What is accepted has
one source for each name: it stands where the name is first written and has the pages that are
written last. So every written member has its own pages exactly when no name is written twice.
-/

namespace ElmPrerender.ConfigFile

open Json.Reader

/-- The members that the text of a list of pages writes under its only field. The field may be left
out, as the list of its value. -/
inductive WritesFiles : Json.Bytes → List (String × Json.Value) → Prop
  | record {blanks gap quoted space held behind rest : Json.Bytes}
      {written : List (String × Json.Value)} (opens : Blank blanks) (begins : Blank gap)
      (named : Reads stringRest quoted filesField (space ++ Json.byte ':' :: held))
      (blank : Blank space)
      (holds : WritesObject (maxDepth - 2) held written (behind ++ Json.byte '}' :: rest))
      (closes : Blank behind) (ends : Blank rest) :
      WritesFiles (blanks ++ Json.byte '{' :: (gap ++ Json.byte '"' :: quoted)) written
  | list {blanks held behind rest : Json.Bytes} {written : List (String × Json.Value)}
      (opens : Blank blanks)
      (holds : WritesObject (maxDepth - 2) held written (behind ++ Json.byte ']' :: rest))
      (closes : Blank behind) (ends : Blank rest) :
      WritesFiles (blanks ++ Json.byte '[' :: held) written

theorem blank_of_finish {text rest : Json.Bytes} (h : Reads finish text () rest) : Blank text := by
  rcases h.of_peeked with ⟨hblank, -⟩ | ⟨blanks, b, inner, -, -, hnext⟩
  · exact hblank
  · exact absurd hnext (not_reads_failAtNext _ _ _ _)

/-- A record of one field is written as an object of one member. -/
theorem record_of_fieldValues {α : Type} {item : String → Json.Reader α} {fuel : Nat}
    {field : String} {a : α} {inner middle rest : Json.Bytes}
    (h : Reads (fieldValues [field] item (fuel + 1) true []) inner (.ok [(field, a)]) middle)
    (hclose : closeObject middle = (none, rest)) :
    ∃ gap quoted space held behind, Blank gap ∧ inner = gap ++ Json.byte '"' :: quoted ∧
      Reads stringRest quoted field (space ++ Json.byte ':' :: held) ∧ Blank space ∧
      Reads (item field) held a (behind ++ Json.byte '}' :: rest) ∧ Blank behind := by
  rcases h.of_fieldValues with ⟨-, hnone⟩ |
    ⟨name, a', quoted, afterName, held, others, hknown, -, hmember, hname, hcolon, hitem, hmore⟩
  · cases hnone
  obtain rfl : name = field := by simpa using hknown
  obtain ⟨space, hspace, rfl⟩ := hcolon.of_colon
  rcases hmember.of_hasMember with ⟨hfalse, -⟩ | ⟨-, gap, hgap, hinner⟩
  · cases hfalse
  have hends : ∃ behind, others = behind ++ Json.byte '}' :: rest ∧ Blank behind ∧ a' = a := by
    cases fuel with
    | zero =>
      cases hmore
      obtain ⟨behind, hbehind, rfl⟩ := of_closeObject hclose
      exact ⟨behind, rfl, hbehind, rfl⟩
    | succ fuel =>
      rcases hmore.of_fieldValues with ⟨hlast, hvalues⟩ |
        ⟨second, _, _, _, _, _, hsecond, hfresh, -⟩
      · cases hvalues
        rcases hlast.of_hasMember with ⟨-, behind, after, hbehind, rfl, rfl⟩ | ⟨htrue, -⟩
        · cases hclose
          exact ⟨behind, rfl, hbehind, rfl⟩
        · cases htrue
      · -- There is no other field that a second member could be.
        obtain rfl : second = name := by simpa using hsecond
        simp at hfresh
  obtain ⟨behind, rfl, hbehind, rfl⟩ := hends
  exact ⟨gap, quoted, space, held, behind, hgap, hinner, hname, hspace, hitem, hbehind⟩

/-- A list of one item is what stands between its brackets. -/
theorem item_of_oneItem {α : Type} {item : Json.Reader α} {expected : String} {a : α}
    {text middle : Json.Bytes} (h : Reads (oneItem item expected) text (.ok a) middle) :
    Reads item (text.dropWhile isBlank) a middle := by
  obtain ⟨goesOn, held, hhas, hitem⟩ := h.of_bind
  cases goesOn with
  | false =>
    rw [if_neg Bool.false_ne_true] at hitem
    cases hitem
  | true =>
    rw [if_pos rfl] at hitem
    obtain ⟨a', hread, ha⟩ := hitem.of_map
    cases ha
    obtain ⟨next, _, hpeek, hnext⟩ := hhas.of_bind
    cases hpeek
    cases hhead : (text.dropWhile isBlank).head? with
    | none =>
      rw [hhead] at hnext
      exact absurd hnext (not_reads_failAtNext _ _ _ _)
    | some b =>
      rw [hhead] at hnext
      dsimp only at hnext
      by_cases hclose : b = Json.byte ']'
      · rw [if_pos hclose] at hnext
        cases hnext
      · rw [if_neg hclose] at hnext
        cases hnext
        exact hread

/-- An accepted text writes members, and they are what is kept of it, name by name. -/
theorem exists_writesFiles {text : String} {c : ConfigFile} (h : parse text = .ok c) :
    ∃ written, WritesFiles (Text.Utf8.ofString text) written ∧
      c.files = Json.Members.ofList written := by
  obtain ⟨files, blanks, inner, nested, middle, stop, rest, rfl, hblanks, hdepth, hends,
    ⟨htext, hclose, hvalues⟩ | ⟨htext, hclose, hitem⟩⟩ := reads_of_accepted h
  · obtain ⟨gap, quoted, space, held, behind, hgap, rfl, hname, hspace, hheld, hbehind⟩ :=
      record_of_fieldValues hvalues hclose
    obtain ⟨depth, hnested, hobject⟩ := writesObject_of_reads hheld
    obtain rfl : depth = maxDepth - 2 := by omega
    refine ⟨files, ?_, rfl⟩
    rw [htext]
    exact .record hblanks hgap hname hspace hobject hbehind (blank_of_finish hends)
  · obtain ⟨depth, hnested, hobject⟩ := writesObject_of_reads (item_of_oneItem hitem)
    obtain rfl : depth = maxDepth - 2 := by omega
    obtain ⟨behind, hbehind, rfl⟩ := Reads.of_closeList hclose
    refine ⟨files, ?_, rfl⟩
    rw [htext]
    exact .list hblanks hobject.of_dropWhile hbehind (blank_of_finish hends)

/-- The first byte of a text that is not blank, and what follows it, are known. -/
theorem opening_unique {blanks blanks' inner inner' : Json.Bytes} {b b' : UInt8}
    (h : Blank blanks) (h' : Blank blanks') (hb : isBlank b = false) (hb' : isBlank b' = false)
    (htext : blanks ++ b :: inner = blanks' ++ b' :: inner') : b = b' ∧ inner = inner' := by
  have hpeek := reads_peek? h hb inner
  rw [htext] at hpeek
  obtain ⟨_, hinner⟩ := hpeek.unique (reads_peek? h' hb' inner')
  exact List.cons.inj hinner

/-- A text writes one list of members. -/
theorem WritesFiles.unique {text : Json.Bytes} {written written' : List (String × Json.Value)}
    (h : WritesFiles text written) (h' : WritesFiles text written') : written = written' := by
  have hbrace : isBlank (Json.byte '{') = false := by decide
  have hbracket : isBlank (Json.byte '[') = false := by decide
  have hquote : isBlank (Json.byte '"') = false := by decide
  have hcolon : isBlank (Json.byte ':') = false := by decide
  cases h with
  | record hopens hbegins hnamed hblank hholds =>
    generalize htext : _ ++ Json.byte '{' :: _ = text at h'
    cases h' with
    | record hopens' hbegins' hnamed' hblank' hholds' =>
      obtain ⟨-, hinner⟩ := opening_unique hopens hopens' hbrace hbrace htext
      obtain ⟨-, rfl⟩ := opening_unique hbegins hbegins' hquote hquote hinner
      obtain ⟨-, hheld⟩ := hnamed.unique hnamed'
      obtain ⟨-, rfl⟩ := opening_unique hblank hblank' hcolon hcolon hheld
      exact (hholds.unique hholds').1
    | list hopens' hholds' =>
      obtain ⟨hne, -⟩ := opening_unique hopens hopens' hbrace hbracket htext
      exact absurd hne (by decide)
  | list hopens hholds =>
    generalize htext : _ ++ Json.byte '[' :: _ = text at h'
    cases h' with
    | record hopens' =>
      obtain ⟨hne, -⟩ := opening_unique hopens hopens' hbracket hbrace htext
      exact absurd hne (by decide)
    | list hopens' hholds' =>
      obtain ⟨-, rfl⟩ := opening_unique hopens hopens' hbracket hbracket htext
      exact (hholds.unique hholds').1

theorem names_of_mapM {written : List (String × Json.Value)} {sources : List SourceTargets}
    (h : written.mapM sourceOf = .ok sources) :
    sources.map (·.source.text) = written.map Prod.fst := by
  have heach := mapM_eq_ok_iff.mp h
  clear h
  induction written generalizing sources with
  | nil =>
    rw [List.map_eq_nil_iff.mp heach.symm]
    rfl
  | cons m rest ih =>
    cases sources with
    | nil => cases heach
    | cons s sources =>
      obtain ⟨hfirst, hrest⟩ := List.cons.inj heach
      rw [List.map_cons, List.map_cons, ih hrest, (sourceOf_eq_ok_iff.mp hfirst).1]

/-- What is kept of written members: one source for each name, at the place of its first member and
with the pages of its last one. What the members before that hold is not looked at. -/
structure Keeps (written : List (String × Json.Value)) (sources : List SourceTargets) : Prop where
  names : sources.map (·.source.text) = (written.map Prod.fst).eraseDups
  last : ∀ s ∈ sources, ∃ v, Json.Members.get? written.reverse s.source.text = some v ∧
    entryTargets v = .ok s.targets
  overwritten : ∀ before between after name v v' w,
    written = before ++ (name, v) :: between ++ (name, w) :: after →
      ConfigFile.sources ⟨.ofList (before ++ (name, v') :: between ++ (name, w) :: after)⟩ =
        .ok sources

theorem keeps_of_sources {written : List (String × Json.Value)} {sources : List SourceTargets}
    (h : ConfigFile.sources ⟨.ofList written⟩ = .ok sources) : Keeps written sources := by
  constructor
  · rw [← Json.Members.names_ofList]
    exact names_of_mapM h
  · intro s hs
    obtain ⟨m, hm, hsource⟩ := exists_of_mem_mapM h hs
    obtain ⟨hname, htargets⟩ := sourceOf_eq_ok_iff.mp hsource
    refine ⟨m.2, ?_, htargets⟩
    rw [hname, ← Json.Members.get?_ofList]
    exact Json.Members.get?_of_mem (Json.Members.nodup_names_ofList written) hm
  · rintro before between after name v v' w rfl
    rw [Json.Members.ofList_overwritten before between after name v' v w]
    exact h

/-- An accepted text writes one list of members. Each of them has a source of its own exactly when
no name is written twice; else all but the last member of a name are lost. -/
theorem sources_of_writesFiles {text : String} {c : ConfigFile} {sources : List SourceTargets}
    (hparse : parse text = .ok c) (hsources : c.sources = .ok sources) :
    ∃ written, (∀ other, WritesFiles (Text.Utf8.ofString text) other ↔ other = written) ∧
      Keeps written sources ∧
      (written.mapM sourceOf = .ok sources ↔ (written.map Prod.fst).Nodup) := by
  obtain ⟨written, hwrites, hfiles⟩ := exists_writesFiles hparse
  obtain rfl : c = ⟨.ofList written⟩ := congrArg ConfigFile.mk hfiles
  refine ⟨written, ?_, keeps_of_sources hsources, ?_⟩
  · intro other
    constructor
    · intro hother
      exact hother.unique hwrites
    · rintro rfl
      exact hwrites
  · constructor
    · intro hall
      rw [← names_of_mapM hall, names_of_mapM hsources]
      exact Json.Members.nodup_names_ofList written
    · intro hdistinct
      have hsame := Json.Members.ofList_eq_self hdistinct
      unfold ConfigFile.sources at hsources
      rw [hsame] at hsources
      exact hsources

def repeatedText : String :=
  r#"{"files": {"A.elm": "a.html", "A.elm": "b.html"}}"#

def repeatedWritten : List (String × Json.Value) :=
  [("A.elm", .string "a.html"), ("A.elm", .string "b.html")]

def repeatedSources : List SourceTargets :=
  [⟨⟨"A.elm"⟩, [⟨.file ⟨"b.html"⟩, .view⟩]⟩]

theorem sources_of_repeatedText :
    parse repeatedText = .ok ⟨[("A.elm", .string "b.html")]⟩ ∧
    ConfigFile.sources ⟨[("A.elm", .string "b.html")]⟩ = .ok repeatedSources ∧
    ∃ written, (∀ other, WritesFiles (Text.Utf8.ofString repeatedText) other ↔ other = written) ∧
      Keeps written repeatedSources ∧
      (written.mapM sourceOf = .ok repeatedSources ↔ (written.map Prod.fst).Nodup) := by
  have hparse : parse repeatedText = .ok ⟨[("A.elm", .string "b.html")]⟩ := by decide +kernel
  have hsources : ConfigFile.sources ⟨[("A.elm", .string "b.html")]⟩ = .ok repeatedSources := by
    decide +kernel
  exact ⟨hparse, hsources, sources_of_writesFiles hparse hsources⟩

/-- The text in parts: behind the quote that opens the name of the field, and behind those of the
two members, with what follows each name. -/
def fieldPart : Json.Bytes := Text.Utf8.ofString
  r#"files": {"A.elm": "a.html", "A.elm": "b.html"}}"#

def firstPart : Json.Bytes := Text.Utf8.ofString
  r#"A.elm": "a.html", "A.elm": "b.html"}}"#

def secondPart : Json.Bytes := Text.Utf8.ofString r#"A.elm": "b.html"}}"#

def firstValue : Json.Bytes := Text.Utf8.ofString
  r#" "a.html", "A.elm": "b.html"}}"#

def secondValue : Json.Bytes := Text.Utf8.ofString r#" "b.html"}}"#

theorem writesFiles_repeatedText :
    WritesFiles (Text.Utf8.ofString repeatedText) repeatedWritten := by
  have hspace : Blank [Json.byte ' '] := blank_space
  have hfield : Reads stringRest fieldPart filesField ([] ++ Json.byte ':' ::
      ([Json.byte ' '] ++ Json.byte '{' :: ([] ++ Json.byte '"' :: firstPart))) := by
    unfold Reads
    decide +kernel
  have hfirst : Reads stringRest firstPart "A.elm" ([] ++ Json.byte ':' :: firstValue) := by
    unfold Reads
    decide +kernel
  have hsecond : Reads stringRest secondPart "A.elm" ([] ++ Json.byte ':' :: secondValue) := by
    unfold Reads
    decide +kernel
  have hfirstValue : Reads (value (maxDepth - 2)) firstValue (.string "a.html")
      (([] ++ Json.byte ',' :: [Json.byte ' ']) ++ Json.byte '"' :: secondPart) := by
    unfold Reads
    decide +kernel
  have hsecondValue : Reads (value (maxDepth - 2)) secondValue (.string "b.html")
      ([] ++ Json.byte '}' :: ([] ++ Json.byte '}' :: [])) := by
    unfold Reads
    decide +kernel
  have hmembers : Writes (maxDepth - 2) true ([] ++ Json.byte '"' :: firstPart) repeatedWritten
      ([] ++ Json.byte '}' :: []) :=
    .member Blank.nil hfirst Blank.nil hfirstValue
      (.member ⟨[], _, Blank.nil, hspace, rfl⟩ hsecond Blank.nil hsecondValue (.done Blank.nil))
  have htext : Text.Utf8.ofString repeatedText =
      [] ++ Json.byte '{' :: ([] ++ Json.byte '"' :: fieldPart) := by
    decide +kernel
  rw [htext]
  exact .record Blank.nil Blank.nil hfield Blank.nil ⟨_, _, hspace, rfl, hmembers⟩ Blank.nil
    Blank.nil

/-- Two members are written and either would be accepted, but the page of the first is lost. -/
theorem first_entry_lost :
    WritesFiles (Text.Utf8.ofString repeatedText) repeatedWritten ∧
    repeatedWritten.mapM sourceOf =
      .ok (⟨⟨"A.elm"⟩, [⟨.file ⟨"a.html"⟩, .view⟩]⟩ :: repeatedSources) ∧
    parse repeatedText = .ok ⟨[("A.elm", .string "b.html")]⟩ ∧
    ConfigFile.sources ⟨[("A.elm", .string "b.html")]⟩ = .ok repeatedSources :=
  ⟨writesFiles_repeatedText, by decide +kernel, by decide +kernel, by decide +kernel⟩

end ElmPrerender.ConfigFile
