import ElmPrerender.ConfigFile
import ElmPrerender.Proofs.Configuration.Built
import ElmPrerender.Proofs.Json.Records
import ElmPrerender.Proofs.Results

/-!
# A written configuration is read back

The configuration file made from a built configuration is read back from its text, and its sources
are those of the configuration: no two of them share a name in the file, because no two of their
paths are the same.
-/

namespace ElmPrerender

open Json.Reader
open Text.Utf8

/-- The text of a parsed destination is parsed to the same destination. -/
theorem Destination.parse_key {d : Destination} (h : ∃ raw, Destination.parse raw = .ok d) :
    Destination.parse d.key = .ok d := by
  obtain ⟨raw, hraw⟩ := h
  have hkey : d.key = raw := by
    unfold Destination.parse at hraw
    split at hraw
    · cases hraw
    · cases hraw
      exact Destination.key_ofKey raw
  rw [hkey, hraw]

theorem TargetRecord.ofMembers_toValue (output viewFunction : String) :
    TargetRecord.ofMembers [(outputField, .string output), (viewField, .string viewFunction)] =
      .ok ⟨output, viewFunction⟩ := by
  rfl

namespace ConfigFile

theorem itemTarget_targetRecord {t : RenderTarget} (entry : t.entry.Grammatical)
    (parsed : ∃ raw, Destination.parse raw = .ok t.destination) :
    itemTarget (targetRecord t).toValue = .ok t := by
  have hrecord := TargetRecord.ofMembers_toValue t.destination.key t.entry.name
  simp only [itemTarget, targetRecord, TargetRecord.toValue, recordTarget, hrecord,
    Destination.parse_key parsed, entry.parse]

variable {config : RenderConfiguration}

/-- The entry that stands for a module. -/
def entryOf (spec : ModuleSpec) : String × Json.Value :=
  (spec.source.text, .array (spec.targets.map fun t => (targetRecord t).toValue))

theorem sourceOf_entryOf {spec : ModuleSpec}
    (h : spec.WellFormed fun d => ∃ raw, Destination.parse raw = .ok d) :
    sourceOf (entryOf spec) = .ok ⟨spec.source, spec.targets⟩ := by
  have hitems : (spec.targets.map fun t => (targetRecord t).toValue).mapM itemTarget =
      .ok spec.targets := by
    rw [List.mapM_map, mapM_eq_ok (g := id), List.map_id]
    intro t ht
    exact itemTarget_targetRecord (h.entries t ht) (h.destinations t ht)
  have hentry : entryTargets (entryOf spec).2 = .ok spec.targets := by
    cases htargets : spec.targets with
    | nil => exact absurd htargets h.nonempty
    | cons t rest =>
      rw [htargets] at hitems
      simpa only [entryOf, htargets, List.map_cons, entryTargets] using hitems
  simp only [sourceOf, hentry]
  rfl

/-- Sources that are no same path differ in their texts. -/
theorem names_nodup (pairwise : config.specs.Pairwise fun a b => a.source.same b.source = false) :
    ((config.specs.map entryOf).map (·.1)).Nodup := by
  rw [List.map_map, List.Nodup, List.pairwise_map]
  refine pairwise.imp ?_
  intro a b different text
  have hpath : a.source = b.source := by
    cases ha : a.source
    cases hb : b.source
    simpa [ha, hb, entryOf] using text
  rw [hpath] at different
  simp [Path.same] at different

theorem files_ofConfiguration
    (pairwise : config.specs.Pairwise fun a b => a.source.same b.source = false) :
    (ofConfiguration config).files = config.specs.map entryOf :=
  Json.Members.ofList_eq_self (names_nodup pairwise)

/-- The sources of the file made from a well-formed configuration. -/
theorem sources_ofConfiguration
    (h : config.WellFormed fun d => ∃ raw, Destination.parse raw = .ok d) :
    (ofConfiguration config).sources =
      .ok (config.specs.map fun spec => ⟨spec.source, spec.targets⟩) := by
  rw [sources, files_ofConfiguration h.sources, List.mapM_map]
  exact mapM_eq_ok fun spec hspec => sourceOf_entryOf (h.specs spec hspec)

variable {c : ConfigFile}

theorem ofFields_files (distinct : (c.files.map (·.1)).Nodup) :
    (do
      let files ← required [(filesField, (c.files : List (String × Json.Value)))] filesField
      pure ⟨Json.Members.ofList files⟩ : Except Json.Cause ConfigFile) = .ok c := by
  have hfiles : required [(filesField, (c.files : List (String × Json.Value)))] filesField =
      .ok c.files := rfl
  rw [hfiles]
  change Except.ok (ConfigFile.mk (Json.Members.ofList c.files)) = .ok c
  rw [Json.Members.ofList_eq_self distinct]

theorem reads_reader {indent : List Char} (h : Blank (encode indent))
    (distinct : (c.files.map (·.1)).Nodup)
    (readable : ∀ m ∈ c.files, m.2.Readable (maxDepth - 2)) (rest : Json.Bytes) :
    Reads (reader maxDepth) (encode (c.toValue.pretty indent 0) ++ rest) c rest := by
  have hfiles : Written (Json.Reader.object (maxDepth - 1))
      (encode ((Json.Value.object c.files).pretty indent 1)) c.files :=
    written_members h readable 1
  have hwritten : ∀ m ∈ [(filesField, (c.files : List (String × Json.Value)))],
      Written (Json.Reader.object (maxDepth - 1))
        (encode ((Json.Value.object m.2).pretty indent 1)) m.2 := by
    intro m hm
    rw [List.mem_singleton.mp hm]
    exact hfiles
  rw [toValue, encode_prettyObject indent 0 _ (by simp)]
  exact reads_record_object (fun members => encode ((Json.Value.object members).pretty indent 1))
    (blank_lineBreak h 1) blank_space (blank_lineBreak h 0) [(filesField, c.files)] (by simp)
    (by simp) hwritten (ofFields_files distinct) rest

/-- A file with distinct names whose entries are not nested too deeply is read back. -/
theorem parse_prettyText (distinct : (c.files.map (·.1)).Nodup)
    (readable : ∀ m ∈ c.files, m.2.Readable (maxDepth - 2)) :
    ConfigFile.parse c.prettyText = .ok c := by
  have hread := reads_reader (Json.blank_indent 4) distinct readable [Json.byte '\n']
  have hparse := parse_eq_ok hread blank_lineFeed
  rw [ConfigFile.parse, prettyText, Json.ofString_prettyText, hparse]

theorem readable_entryOf (spec : ModuleSpec) : (entryOf spec).2.Readable (maxDepth - 2) := by
  intro v hv
  obtain ⟨t, -, rfl⟩ := List.mem_map.mp hv
  have hnames : [TargetRecord.outputField, TargetRecord.viewField].Nodup := by decide
  refine ⟨hnames, ?_⟩
  intro m hm
  simp only [List.mem_cons, List.not_mem_nil, or_false] at hm
  rcases hm with rfl | rfl <;> simp only [Json.Value.Within]

/-- Writing a built configuration as a file and reading the text gives each module's source and
pages again, in order. -/
theorem sources_of_written_text
    (built : config.Built fun d => ∃ raw, Destination.parse raw = .ok d) :
    ∃ file, ConfigFile.parse (ofConfiguration config).prettyText = .ok file ∧
      file.sources = .ok (config.specs.map fun spec => ⟨spec.source, spec.targets⟩) := by
  have hconfig := built.wellFormed
  have hfiles := files_ofConfiguration hconfig.sources
  refine ⟨ofConfiguration config, parse_prettyText ?_ ?_, sources_ofConfiguration hconfig⟩
  · rw [hfiles]
    exact names_nodup hconfig.sources
  · intro m hm
    rw [hfiles] at hm
    obtain ⟨spec, -, rfl⟩ := List.mem_map.mp hm
    exact readable_entryOf spec

/-- A module whose path and outputs need escapes. -/
def quotedSpec : ModuleSpec :=
  ⟨⟨"src/\"Main\".elm"⟩, ⟨"Main"⟩, [⟨.file ⟨"a\\b\n.html"⟩, .view⟩, ⟨.standardOutput, ⟨"about"⟩⟩]⟩

def accentedSpec : ModuleSpec :=
  ⟨⟨"src/Été.elm"⟩, ⟨"Pages.Main"⟩, [⟨.standardOutput, .view⟩]⟩

theorem quoted_sources_of_written_text :
    RenderConfiguration.Built (fun d => ∃ raw, Destination.parse raw = .ok d)
        ⟨[quotedSpec, accentedSpec]⟩ ∧
      ∃ file, ConfigFile.parse (ofConfiguration ⟨[quotedSpec, accentedSpec]⟩).prettyText = .ok file ∧
        file.sources = .ok [⟨quotedSpec.source, quotedSpec.targets⟩,
          ⟨accentedSpec.source, accentedSpec.targets⟩] := by
  have first : RenderConfiguration.Built (fun d => ∃ raw, Destination.parse raw = .ok d)
      ⟨[quotedSpec]⟩ := by
    have made : ModuleSpec.make quotedSpec.source ⟨"Main"⟩ quotedSpec.targets = .ok quotedSpec :=
      rfl
    refine .push .empty (rfl : ModuleName.parse "Main" = .ok ⟨"Main"⟩) ?_ ?_ made rfl
    · intro t ht
      simp only [quotedSpec, List.mem_cons, List.not_mem_nil, or_false] at ht
      rcases ht with rfl | rfl
      · exact ⟨"view", rfl⟩
      · exact ⟨"about", rfl⟩
    · intro t ht
      simp only [quotedSpec, List.mem_cons, List.not_mem_nil, or_false] at ht
      rcases ht with rfl | rfl
      · exact ⟨"a\\b\n.html", rfl⟩
      · exact ⟨"::stdout", rfl⟩
  have built : RenderConfiguration.Built (fun d => ∃ raw, Destination.parse raw = .ok d)
      ⟨[quotedSpec, accentedSpec]⟩ := by
    have made : ModuleSpec.make accentedSpec.source ⟨"Pages.Main"⟩ accentedSpec.targets =
        .ok accentedSpec := rfl
    refine .push first (rfl : ModuleName.parse "Pages.Main" = .ok ⟨"Pages.Main"⟩) ?_ ?_ made rfl
    · intro t ht
      rw [List.mem_singleton.mp ht]
      exact ⟨"view", rfl⟩
    · intro t ht
      rw [List.mem_singleton.mp ht]
      exact ⟨"::stdout", rfl⟩
  exact ⟨built, sources_of_written_text built⟩

end ConfigFile

end ElmPrerender
