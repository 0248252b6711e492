import Mathlib.Data.List.Permutation
import ElmPrerender.Proofs.ConfigFile.Form
import ElmPrerender.Proofs.ConfigFile.Sources
import ElmPrerender.Proofs.Configuration.Header
import ElmPrerender.Proofs.Json.Accepted

/-!
# The schema of a configuration file

An entry is an output, a record of an output and a view, or a list of such records. A file all of
whose entries keep to this has their pages, source by source; any other file is refused over the
first entry that does not.
-/

namespace ElmPrerender

open ModuleName (NameChar)

/-- Where an output goes. Nothing can be written to the empty text. -/
inductive Destination.Written : String → Destination → Prop
  | standardOutput : Written "::stdout" .standardOutput
  | file {output : String} (nonempty : output ≠ "") (other : output ≠ "::stdout") :
      Written output (.file ⟨output⟩)

/-- `[a-z][A-Za-z0-9_]*`, but for the words of the language. -/
structure EntryFunction.Written (name : String) : Prop where
  letters : ∃ c r, name.toList = c :: r ∧ ('a' ≤ c ∧ c ≤ 'z') ∧ ∀ d ∈ r, NameChar d
  free : name ∉ keywords

namespace ConfigFile

/-- The members of a record: the output and the view, in either order, and no others. -/
inductive Fields (output view : String) : Json.Members → Prop
  | outputFirst : Fields output view [("output", .string output), ("viewFunction", .string view)]
  | viewFirst : Fields output view [("viewFunction", .string view), ("output", .string output)]

/-- A record of one page. -/
inductive Page : Json.Members → RenderTarget → Prop
  | intro {members : Json.Members} {output view : String} {destination : Destination}
      (fields : Fields output view members) (goes : Destination.Written output destination)
      (named : EntryFunction.Written view) : Page members ⟨destination, ⟨view⟩⟩

/-- The pages of an entry, at least one. -/
inductive Entry : Json.Value → List RenderTarget → Prop
  | text {output : String} {destination : Destination}
      (goes : Destination.Written output destination) :
      Entry (.string output) [⟨destination, ⟨"view"⟩⟩]
  | record {members : Json.Members} {page : RenderTarget} (described : Page members page) :
      Entry (.object members) [page]
  | list {records : List Json.Members} {pages : List RenderTarget} (nonempty : records ≠ [])
      (described : List.Forall₂ Page records pages) :
      Entry (.array (records.map .object)) pages

theorem Entry.nonempty {v : Json.Value} {pages : List RenderTarget} (h : Entry v pages) :
    pages ≠ [] := by
  cases h with
  | text | record => simp
  | list nonempty described =>
    cases described with
    | nil => exact absurd rfl nonempty
    | cons => simp

end ConfigFile

theorem Destination.parse_eq_ok_iff {output : String} {destination : Destination} :
    Destination.parse output = .ok destination ↔ Written output destination := by
  unfold Destination.parse
  constructor
  · intro h
    split at h
    · cases h
    rename_i hnonempty
    cases h
    unfold ofKey
    split
    · rename_i hkey
      rw [hkey]
      exact .standardOutput
    · rename_i hkey
      exact .file (by simpa using hnonempty) hkey
  · intro h
    cases h with
    | standardOutput => rfl
    | file nonempty other =>
      have hkey : output ≠ standardOutputKey := other
      simp [nonempty, ofKey, hkey]

theorem EntryFunction.isLowerIdentifier_iff {name : List Char} :
    isLowerIdentifier name = true ↔
      ∃ c r, name = c :: r ∧ ('a' ≤ c ∧ c ≤ 'z') ∧ ∀ d ∈ r, NameChar d := by
  cases name with
  | nil => simp [isLowerIdentifier]
  | cons c r =>
    simp only [isLowerIdentifier, Bool.and_eq_true, List.all_eq_true, ModuleName.isLower_iff,
      ModuleName.isIdentifierRest_iff]
    constructor
    · rintro ⟨small, others⟩
      exact ⟨c, r, rfl, small, others⟩
    · rintro ⟨c', r', hname, small, others⟩
      cases hname
      exact ⟨small, others⟩

theorem EntryFunction.parse_eq_ok_iff_written {name : String} {entry : EntryFunction} :
    EntryFunction.parse name = .ok entry ↔ entry = ⟨name⟩ ∧ Written name := by
  rw [EntryFunction.parse_eq_ok_iff]
  refine and_congr_right ?_
  rintro rfl
  constructor
  · rintro ⟨letters, free⟩
    exact ⟨isLowerIdentifier_iff.mp letters, free⟩
  · rintro ⟨letters, free⟩
    exact ⟨isLowerIdentifier_iff.mpr letters, free⟩

namespace TargetRecord

theorem fieldOfMember_eq_ok_iff {m : String × Json.Value} {f : String × String} :
    fieldOfMember m = .ok f ↔ f.1 ∈ fields ∧ m = (f.1, .string f.2) := by
  obtain ⟨name, v⟩ := m
  obtain ⟨field, text⟩ := f
  by_cases hname : name ∈ fields
  · cases v with
    | string s =>
      simp only [fieldOfMember, List.contains_eq_mem, hname]
      simp only [decide_true, Bool.not_true, Bool.false_eq_true, if_false, Except.ok.injEq,
        Prod.mk.injEq, Json.Value.string.injEq]
      constructor
      · rintro ⟨rfl, rfl⟩
        exact ⟨hname, rfl, rfl⟩
      · rintro ⟨-, rfl, rfl⟩
        exact ⟨rfl, rfl⟩
    | null | bool | number | array | object => simp [fieldOfMember, hname]
  · simp only [fieldOfMember, List.contains_eq_mem, hname]
    simp only [decide_false, Bool.not_false, if_true, reduceCtorEq, false_iff, Prod.mk.injEq]
    rintro ⟨hfield, rfl, -⟩
    exact hname hfield

/-- The members of a record are its fields as they are written. -/
theorem members_of_mapM {members : Json.Members} {values : List (String × String)}
    (h : members.mapM fieldOfMember = .ok values) :
    (∀ f ∈ values, f.1 ∈ fields) ∧ members = values.map fun f => (f.1, .string f.2) := by
  have heach := mapM_eq_ok_iff_forall₂.mp h
  clear h
  induction heach with
  | nil => simp
  | cons hfirst _ ih =>
    obtain ⟨hknown, hmember⟩ := fieldOfMember_eq_ok_iff.mp hfirst
    obtain ⟨hothers, hmembers⟩ := ih
    refine ⟨List.forall_mem_cons.mpr ⟨hknown, hothers⟩, ?_⟩
    rw [List.map_cons, ← hmember, ← hmembers]

/-- Both fields are there, each once, and no others are. -/
theorem eq_of_fields {values : List (String × String)} {output view : String}
    (known : ∀ f ∈ values, f.1 ∈ fields) (distinct : (values.map Prod.fst).Nodup)
    (houtput : (outputField, output) ∈ values) (hview : (viewField, view) ∈ values) :
    values = [(outputField, output), (viewField, view)] ∨
      values = [(viewField, view), (outputField, output)] := by
  refine List.perm_pair.mp ((List.perm_ext_iff_of_nodup distinct.of_map ?_).mpr ?_)
  · simp [outputField, viewField]
  rintro ⟨name, text⟩
  simp only [List.mem_cons, List.not_mem_nil, or_false]
  constructor
  · intro hmem
    have hunique := List.inj_on_of_nodup_map distinct
    rcases List.mem_cons.mp (known _ hmem) with hname | hname
    · exact Or.inl (hunique hmem houtput hname)
    · exact Or.inr (hunique hmem hview (List.mem_singleton.mp hname))
  · intro h
    rcases h with h | h
    · rwa [h]
    · rwa [h]

theorem mem_of_required {values : List (String × String)} {name text : String}
    (h : Json.Reader.required values name = .ok text) : (name, text) ∈ values := by
  unfold Json.Reader.required at h
  split at h
  · rename_i found text' hfound
    cases h
    have hname : found = name := by simpa using List.find?_some hfound
    exact hname ▸ List.mem_of_find?_eq_some hfound
  · cases h

/-- A record is read from its two fields, in either order, and from nothing else. -/
theorem ofMembers_eq_ok_iff {members : Json.Members} {record : TargetRecord}
    (distinct : (members.map Prod.fst).Nodup) :
    ofMembers members = .ok record ↔
      ConfigFile.Fields record.output record.viewFunction members := by
  constructor
  · intro h
    obtain ⟨values, hvalues, hfields⟩ := bind_eq_ok_iff.mp h
    obtain ⟨output, houtput, hfields⟩ := bind_eq_ok_iff.mp hfields
    obtain ⟨view, hview, hrecord⟩ := bind_eq_ok_iff.mp hfields
    cases hrecord
    obtain ⟨known, rfl⟩ := members_of_mapM hvalues
    rw [List.map_map] at distinct
    rcases eq_of_fields known distinct (mem_of_required houtput) (mem_of_required hview) with
      rfl | rfl
    · exact .outputFirst
    · exact .viewFirst
  · obtain ⟨output, view⟩ := record
    intro h
    cases h with
    | outputFirst => rfl
    | viewFirst => rfl

end TargetRecord

namespace ConfigFile

theorem recordTarget_eq_ok_iff {members : Json.Members} {page : RenderTarget}
    (distinct : (members.map Prod.fst).Nodup) :
    recordTarget members = .ok page ↔ Page members page := by
  unfold recordTarget
  constructor
  · intro h
    split at h
    · cases h
    rename_i record hrecord
    split at h
    · cases h
    rename_i destination hdestination
    split at h
    · cases h
    rename_i entry hentry
    cases h
    obtain ⟨rfl, named⟩ := EntryFunction.parse_eq_ok_iff_written.mp hentry
    exact .intro ((TargetRecord.ofMembers_eq_ok_iff distinct).mp hrecord)
      (Destination.parse_eq_ok_iff.mp hdestination) named
  · rintro ⟨fields, goes, named⟩
    rename_i output view destination
    have hrecord : TargetRecord.ofMembers members = .ok ⟨output, view⟩ :=
      (TargetRecord.ofMembers_eq_ok_iff distinct).mpr fields
    have hentry : EntryFunction.parse view = .ok ⟨view⟩ :=
      EntryFunction.parse_eq_ok_iff_written.mpr ⟨rfl, named⟩
    simp only [hrecord, Destination.parse_eq_ok_iff.mpr goes, hentry]

theorem plainTarget_eq_ok_iff {output : String} {page : RenderTarget} :
    plainTarget output = .ok page ↔
      page.entry = ⟨"view"⟩ ∧ Destination.Written output page.destination := by
  obtain ⟨destination, entry⟩ := page
  rw [← Destination.parse_eq_ok_iff]
  unfold plainTarget
  cases Destination.parse output with
  | error e => simp
  | ok found => simp [EntryFunction.view, eq_comm, and_comm]

theorem itemTarget_eq_ok_iff {v : Json.Value} {page : RenderTarget} (ordered : v.Ordered) :
    itemTarget v = .ok page ↔ ∃ members, v = .object members ∧ Page members page := by
  cases ordered with
  | object distinct =>
    rw [itemTarget, recordTarget_eq_ok_iff distinct]
    simp
  | null | bool | number | string | array => simp [itemTarget]

theorem forall₂_itemTarget_iff {items : List Json.Value} {pages : List RenderTarget}
    (ordered : ∀ v ∈ items, v.Ordered) :
    List.Forall₂ (fun v page => itemTarget v = .ok page) items pages ↔
      ∃ records : List Json.Members, items = records.map .object ∧
        List.Forall₂ Page records pages := by
  constructor
  · intro h
    induction h with
    | nil => exact ⟨[], rfl, .nil⟩
    | cons hfirst _ ih =>
      obtain ⟨hv, hothers⟩ := List.forall_mem_cons.mp ordered
      obtain ⟨members, rfl, hpage⟩ := (itemTarget_eq_ok_iff hv).mp hfirst
      obtain ⟨records, rfl, hpages⟩ := ih hothers
      exact ⟨members :: records, rfl, .cons hpage hpages⟩
  · rintro ⟨records, rfl, hpages⟩
    induction hpages with
    | nil => exact .nil
    | cons hpage _ ih =>
      obtain ⟨hv, hothers⟩ := List.forall_mem_cons.mp ordered
      exact .cons ((itemTarget_eq_ok_iff hv).mpr ⟨_, rfl, hpage⟩) (ih hothers)

/-- What is read of an entry are the pages that the schema gives it. -/
theorem entryTargets_eq_ok_iff {v : Json.Value} {pages : List RenderTarget} (ordered : v.Ordered) :
    entryTargets v = .ok pages ↔ Entry v pages := by
  cases ordered with
  | string output =>
    constructor
    · intro h
      obtain ⟨⟨destination, entry⟩, hpage, hpages⟩ := bind_eq_ok_iff.mp h
      obtain ⟨rfl, goes⟩ := plainTarget_eq_ok_iff.mp hpage
      cases hpages
      exact .text goes
    · rintro ⟨goes⟩
      exact bind_eq_ok_iff.mpr ⟨_, plainTarget_eq_ok_iff.mpr ⟨rfl, goes⟩, rfl⟩
  | object distinct =>
    constructor
    · intro h
      obtain ⟨page, hpage, hpages⟩ := bind_eq_ok_iff.mp h
      cases hpages
      exact .record ((recordTarget_eq_ok_iff distinct).mp hpage)
    · intro h
      cases h with
      | record described =>
        exact bind_eq_ok_iff.mpr ⟨_, (recordTarget_eq_ok_iff distinct).mpr described, rfl⟩
  | @array items ordered =>
    have hitems : items ≠ [] → (entryTargets (.array items) = .ok pages ↔
        ∃ records : List Json.Members, items = records.map .object ∧
          List.Forall₂ Page records pages) := by
      intro nonempty
      rw [entryTargets, mapM_eq_ok_iff_forall₂, forall₂_itemTarget_iff ordered]
      exact nonempty
    constructor
    · intro h
      cases items with
      | nil => cases h
      | cons v rest =>
        obtain ⟨records, hrecords, described⟩ := (hitems (by simp)).mp h
        rw [hrecords]
        refine .list ?_ described
        rintro rfl
        cases hrecords
    · intro h
      generalize hv : Json.Value.array items = v at h
      cases h with
      | text | record => cases hv
      | @list records pages nonempty described =>
        cases hv
        exact (hitems (by simpa using nonempty)).mpr ⟨records, rfl, described⟩
  | null | bool | number =>
    constructor
    · intro h
      cases h
    · rintro ⟨⟩

variable {c : ConfigFile}

/-- The members of a file that was read have no name twice, however deep they lie. -/
theorem ordered_of_parse {text : String} (h : parse text = .ok c) : ∀ m ∈ c.files, m.2.Ordered := by
  have hfiles : (Json.Value.object c.files).Ordered := by
    rcases value_of_parse h with ⟨-, hvalue⟩ | ⟨-, hvalue⟩
    · cases Json.Value.ordered_of_parse hvalue with
      | object _ ordered => exact ordered _ List.mem_cons_self
    · cases Json.Value.ordered_of_parse hvalue with
      | array ordered => exact ordered _ List.mem_cons_self
  cases hfiles with
  | object _ ordered => exact ordered

theorem sourceOf_eq_ok_iff_entry {m : String × Json.Value} {s : SourceTargets}
    (ordered : m.2.Ordered) :
    sourceOf m = .ok s ↔ s.source = ⟨m.1⟩ ∧ Entry m.2 s.targets ∧ s.targets ≠ [] := by
  obtain ⟨⟨source⟩, pages⟩ := s
  rw [sourceOf_eq_ok_iff, entryTargets_eq_ok_iff ordered, Path.mk.injEq]
  exact and_congr_right fun _ => (and_iff_left_of_imp Entry.nonempty).symm

/-- A file is accepted exactly when all its entries keep to the schema. It then has one source for
each member, in the same order, with the pages of its entry. Any other file is refused over its
first entry that does not keep to the schema. -/
theorem sources_follow_schema (c : ConfigFile) (ordered : ∀ m ∈ c.files, m.2.Ordered) :
    ((∃ found, c.sources = .ok found) ↔ ∀ m ∈ c.files, ∃ pages, Entry m.2 pages) ∧
    (∀ found, c.sources = .ok found ↔ List.Forall₂ (fun m s =>
      s.source = ⟨m.1⟩ ∧ Entry m.2 s.targets ∧ s.targets ≠ []) c.files found) ∧
    ∀ e, c.sources = .error e ↔ ∃ before m after problem, c.files = before ++ m :: after ∧
      (∀ n ∈ before, ∃ pages, Entry n.2 pages) ∧ (∀ pages, ¬ Entry m.2 pages) ∧
      entryTargets m.2 = .error problem ∧ e = .malformed m.1 problem := by
  have hsource : ∀ m ∈ c.files, (∃ s, sourceOf m = .ok s) ↔ ∃ pages, Entry m.2 pages := by
    intro m hm
    constructor
    · rintro ⟨s, hs⟩
      exact ⟨s.targets, ((sourceOf_eq_ok_iff_entry (ordered m hm)).mp hs).2.1⟩
    · rintro ⟨pages, hpages⟩
      exact ⟨⟨⟨m.1⟩, pages⟩,
        (sourceOf_eq_ok_iff_entry (ordered m hm)).mpr ⟨rfl, hpages, hpages.nonempty⟩⟩
  refine ⟨?_, ?_, ?_⟩
  · rw [sources, exists_mapM_eq_ok_iff]
    exact forall₂_congr hsource
  · intro found
    rw [sources, mapM_eq_ok_iff_forall₂]
    exact forall₂_congr_of_mem fun m hm s => sourceOf_eq_ok_iff_entry (ordered m hm)
  · intro e
    rw [sources, mapM_eq_error_iff]
    constructor
    · rintro ⟨before, m, after, hfiles, hbefore, hm⟩
      obtain ⟨problem, hproblem, he⟩ := sourceOf_eq_error_iff.mp hm
      refine ⟨before, m, after, problem, hfiles, ?_, ?_, hproblem, he⟩
      · intro n hn
        exact (hsource n (by simp [hfiles, hn])).mp (hbefore n hn)
      · intro pages hpages
        rw [← entryTargets_eq_ok_iff (ordered m (by simp [hfiles])), hproblem] at hpages
        cases hpages
    · rintro ⟨before, m, after, problem, hfiles, hbefore, -, hproblem, rfl⟩
      refine ⟨before, m, after, hfiles, ?_, sourceOf_eq_error_iff.mpr ⟨problem, hproblem, rfl⟩⟩
      intro n hn
      exact (hsource n (by simp [hfiles, hn])).mpr (hbefore n hn)

/-- A list whose records have their members in different orders, and a bare output. -/
def mixedText : String :=
  r#"{"files": {"B.elm": [{"viewFunction": "about_2", "output": "::stdout"}, "# ++
    r#"{"output": "b.html", "viewFunction": "view"}], "A.elm": ":stdout"}}"#

def mixedFile : ConfigFile where
  files := [
    ("B.elm", .array [
      .object [("viewFunction", .string "about_2"), ("output", .string "::stdout")],
      .object [("output", .string "b.html"), ("viewFunction", .string "view")]]),
    ("A.elm", .string ":stdout")]

theorem mixedFile_follows_schema :
    (∀ m ∈ mixedFile.files, m.2.Ordered) ∧ ∃ found, mixedFile.sources = .ok found ∧
      List.Forall₂ (fun m s => s.source = ⟨m.1⟩ ∧ Entry m.2 s.targets ∧ s.targets ≠ [])
        mixedFile.files found := by
  have hparse : parse mixedText = .ok mixedFile := by decide +kernel
  have hordered := ordered_of_parse hparse
  have habout : EntryFunction.Written "about_2" :=
    (EntryFunction.parse_eq_ok_iff_written.mp
      (rfl : EntryFunction.parse "about_2" = .ok ⟨"about_2"⟩)).2
  have hview : EntryFunction.Written "view" :=
    (EntryFunction.parse_eq_ok_iff_written.mp (rfl : EntryFunction.parse "view" = .ok .view)).2
  have hfirst : Page [("viewFunction", .string "about_2"), ("output", .string "::stdout")] _ :=
    .intro .viewFirst .standardOutput habout
  have hsecond : Page [("output", .string "b.html"), ("viewFunction", .string "view")] _ :=
    .intro .outputFirst (.file (by decide) (by decide)) hview
  obtain ⟨haccepted, hsources, -⟩ := sources_follow_schema mixedFile hordered
  obtain ⟨found, hfound⟩ := haccepted.mpr (by
    intro m hm
    simp only [mixedFile, List.mem_cons, List.not_mem_nil, or_false] at hm
    rcases hm with rfl | rfl
    · exact ⟨_, .list (by simp) (.cons hfirst (.cons hsecond .nil))⟩
    · exact ⟨_, .text (.file (by decide) (by decide))⟩)
  exact ⟨hordered, found, hfound, (hsources found).mp hfound⟩

end ConfigFile

end ElmPrerender
