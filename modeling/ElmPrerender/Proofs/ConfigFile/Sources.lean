import ElmPrerender.ConfigFile
import ElmPrerender.Proofs.Configuration.Names
import ElmPrerender.Proofs.Results

/-!
# Accepted sources

Each source that is accepted has a page, and all its pages have parsed destinations and entries.
What is refused is refused over its syntax, one entry, or the output of a single file.
-/

namespace ElmPrerender

structure RenderTarget.WellFormed (t : RenderTarget) : Prop where
  entry : t.entry.Grammatical
  destination : ∃ raw, Destination.parse raw = .ok t.destination

structure SourceTargets.WellFormed (s : SourceTargets) : Prop where
  nonempty : s.targets ≠ []
  targets : ∀ t ∈ s.targets, t.WellFormed

theorem RenderTarget.wellFormed_standardOutput :
    RenderTarget.WellFormed ⟨.standardOutput, .view⟩ :=
  ⟨EntryFunction.grammatical_view, Destination.standardOutputKey, rfl⟩

namespace ConfigFile

theorem wellFormed_of_plainTarget {output : String} {t : RenderTarget}
    (h : plainTarget output = .ok t) : t.WellFormed := by
  unfold plainTarget at h
  split at h
  · cases h
  · rename_i destination hparse
    cases h
    exact ⟨EntryFunction.grammatical_view, output, hparse⟩

theorem wellFormed_of_recordTarget {members : Json.Members} {t : RenderTarget}
    (h : recordTarget members = .ok t) : t.WellFormed := by
  unfold recordTarget at h
  split at h
  · cases h
  rename_i record _
  split at h
  · cases h
  rename_i destination hparse
  split at h
  · cases h
  rename_i entry hentry
  cases h
  exact ⟨(EntryFunction.parse_eq_ok_iff.mp hentry).2, record.output, hparse⟩

theorem wellFormed_of_itemTarget {v : Json.Value} {t : RenderTarget}
    (h : itemTarget v = .ok t) : t.WellFormed := by
  unfold itemTarget at h
  split at h
  · exact wellFormed_of_recordTarget h
  · cases h

theorem wellFormed_singleton {t : RenderTarget} (h : t.WellFormed) {source : Path} :
    SourceTargets.WellFormed ⟨source, [t]⟩ := by
  refine ⟨by simp, ?_⟩
  intro u hu
  rw [List.mem_singleton.mp hu]
  exact h

theorem wellFormed_of_entryTargets {v : Json.Value} {targets : List RenderTarget} {source : Path}
    (h : entryTargets v = .ok targets) : SourceTargets.WellFormed ⟨source, targets⟩ := by
  cases v with
  | null | bool | number => cases h
  | string output =>
    obtain ⟨t, ht, htargets⟩ := bind_eq_ok_iff.mp h
    cases htargets
    exact wellFormed_singleton (wellFormed_of_plainTarget ht)
  | object members =>
    obtain ⟨t, ht, htargets⟩ := bind_eq_ok_iff.mp h
    cases htargets
    exact wellFormed_singleton (wellFormed_of_recordTarget ht)
  | array records =>
    cases records with
    | nil => cases h
    | cons v rest =>
      rw [entryTargets] at h
      · refine ⟨?_, ?_⟩
        · have hlength := length_of_mapM_eq_ok h
          rintro rfl
          cases hlength
        · intro t ht
          obtain ⟨item, -, hitem⟩ := exists_of_mem_mapM h ht
          exact wellFormed_of_itemTarget hitem
      · simp

theorem sourceOf_eq_ok_iff {m : String × Json.Value} {s : SourceTargets} :
    sourceOf m = .ok s ↔ s.source.text = m.1 ∧ entryTargets m.2 = .ok s.targets := by
  obtain ⟨⟨name⟩, targets⟩ := s
  unfold sourceOf
  cases entryTargets m.2 with
  | error problem => simp
  | ok targets' => simp [eq_comm]

theorem sourceOf_eq_error_iff {m : String × Json.Value} {e : ConfigError} :
    sourceOf m = .error e ↔ ∃ problem, entryTargets m.2 = .error problem ∧
      e = .malformed m.1 problem := by
  unfold sourceOf
  cases entryTargets m.2 with
  | error problem => simp [eq_comm]
  | ok targets => simp

theorem wellFormed_of_sources {c : ConfigFile} {sources : List SourceTargets}
    (h : c.sources = .ok sources) : ∀ s ∈ sources, s.WellFormed := by
  intro s hs
  obtain ⟨m, -, hm⟩ := exists_of_mem_mapM h hs
  exact wellFormed_of_entryTargets (sourceOf_eq_ok_iff.mp hm).2

theorem syntaxError_of_parse {text : String} {e : ConfigError}
    (h : parse text = .error e) : ∃ cause, e = .syntaxError cause := by
  unfold ConfigFile.parse at h
  split at h
  · cases h
  · cases h
    exact ⟨_, rfl⟩

/-- A configuration file is only refused over one of its entries. -/
theorem malformed_of_sources {file : ConfigFile} {e : ConfigError}
    (h : file.sources = .error e) :
    ∃ name v problem, (name, v) ∈ file.files ∧ entryTargets v = .error problem ∧
      e = .malformed name problem := by
  obtain ⟨⟨name, v⟩, hmem, hsource⟩ := exists_of_mapM_error h
  obtain ⟨problem, hproblem, rfl⟩ := sourceOf_eq_error_iff.mp hsource
  exact ⟨name, v, problem, hmem, hproblem, rfl⟩

end ConfigFile

theorem SourceTargets.wellFormed_of_ofFile {source : Path} {output : Option String}
    {sources : List SourceTargets} (h : SourceTargets.ofFile source output = .ok sources) :
    ∀ s ∈ sources, s.WellFormed := by
  intro s hs
  unfold SourceTargets.ofFile at h
  split at h
  · cases h
    rw [List.mem_singleton.mp hs]
    exact ConfigFile.wellFormed_singleton RenderTarget.wellFormed_standardOutput
  · split at h
    · rename_i target htarget
      cases h
      rw [List.mem_singleton.mp hs]
      exact ConfigFile.wellFormed_singleton (ConfigFile.wellFormed_of_plainTarget htarget)
    · cases h

theorem SourceTargets.eq_singleton_of_ofFile {source : Path} {output : Option String}
    {pending : List SourceTargets}
    (h : SourceTargets.ofFile source output = .ok pending) :
    ∃ target, pending = [⟨source, [target]⟩] := by
  unfold SourceTargets.ofFile at h
  split at h
  · cases h
    exact ⟨_, rfl⟩
  · split at h
    · cases h
      exact ⟨_, rfl⟩
    · cases h

/-- A single file is only refused over its output. -/
theorem SourceTargets.refused_of_ofFile {source : Path} {output : Option String} {e : ConfigError}
    (h : SourceTargets.ofFile source output = .error e) :
    ∃ text cause, output = some text ∧ Destination.parse text = .error cause ∧
      e = .malformed source.text (.domain cause) := by
  cases output with
  | none => cases h
  | some text =>
    cases hparse : Destination.parse text with
    | error cause =>
      simp only [SourceTargets.ofFile, ConfigFile.plainTarget, hparse] at h
      cases h
      exact ⟨text, cause, rfl, hparse, rfl⟩
    | ok destination =>
      simp only [SourceTargets.ofFile, ConfigFile.plainTarget, hparse] at h
      cases h

end ElmPrerender
