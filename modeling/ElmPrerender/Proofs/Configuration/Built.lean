import ElmPrerender.Proofs.Configuration.Names

/-!
# Configurations that can be built

A configuration is built from the empty one by successful additions. Every built one is well
formed: its names follow their grammars, each module has a page, and no source occurs twice.
-/

namespace ElmPrerender

/-- A module as it stands in a built configuration. -/
structure ModuleSpec.WellFormed (admits : Destination → Prop) (spec : ModuleSpec) : Prop where
  name : spec.moduleName.Grammatical
  nonempty : spec.targets ≠ []
  entries : ∀ t ∈ spec.targets, t.entry.Grammatical
  destinations : ∀ t ∈ spec.targets, admits t.destination

theorem ModuleSpec.make_eq_ok_iff {source : Path} {name : ModuleName}
    {targets : List RenderTarget} {spec : ModuleSpec} :
    ModuleSpec.make source name targets = .ok spec ↔
      targets ≠ [] ∧ spec = ⟨source, name, targets⟩ := by
  unfold ModuleSpec.make
  cases targets with
  | nil => simp
  | cons t rest => simp [eq_comm]

namespace RenderConfiguration

theorem hasSource_eq_false_iff {config : RenderConfiguration} {source : Path} :
    config.hasSource source = false ↔
      ∀ spec ∈ config.specs, spec.source.same source = false := by
  simp [hasSource]

theorem push_eq_ok_iff {config next : RenderConfiguration} {spec : ModuleSpec} :
    config.push spec = .ok next ↔
      (∀ old ∈ config.specs, old.source.same spec.source = false) ∧
        next = ⟨config.specs ++ [spec]⟩ := by
  rw [← hasSource_eq_false_iff]
  unfold push
  cases config.hasSource spec.source with
  | true => simp
  | false => simp [eq_comm]

/-- Reached from the empty configuration by successful additions of parsed names. Which
destinations a page may have is left to `admits`. -/
inductive Built (admits : Destination → Prop) : RenderConfiguration → Prop where
  | empty : Built admits .empty
  | push {config next : RenderConfiguration} {source : Path} {rawName : String}
      {name : ModuleName} {targets : List RenderTarget} {spec : ModuleSpec}
      (built : Built admits config)
      (named : ModuleName.parse rawName = .ok name)
      (entries : ∀ t ∈ targets, ∃ raw, EntryFunction.parse raw = .ok t.entry)
      (admitted : ∀ t ∈ targets, admits t.destination)
      (made : ModuleSpec.make source name targets = .ok spec)
      (pushed : config.push spec = .ok next) : Built admits next

structure WellFormed (admits : Destination → Prop) (config : RenderConfiguration) : Prop where
  specs : ∀ spec ∈ config.specs, spec.WellFormed admits
  sources : config.specs.Pairwise fun a b => a.source.same b.source = false

variable {admits : Destination → Prop} {config : RenderConfiguration}

theorem WellFormed.empty : RenderConfiguration.empty.WellFormed admits :=
  ⟨by simp [RenderConfiguration.empty], by simp [RenderConfiguration.empty]⟩

theorem WellFormed.append (h : config.WellFormed admits) {spec : ModuleSpec}
    (hs : spec.WellFormed admits)
    (fresh : ∀ old ∈ config.specs, old.source.same spec.source = false) :
    WellFormed admits ⟨config.specs ++ [spec]⟩ := by
  refine ⟨?_, ?_⟩
  · intro s hmem
    rcases List.mem_append.mp hmem with old | new
    · exact h.specs s old
    · rw [List.mem_singleton.mp new]
      exact hs
  · rw [List.pairwise_append]
    refine ⟨h.sources, List.pairwise_singleton .., ?_⟩
    intro old hold new hnew
    rw [List.mem_singleton.mp hnew]
    exact fresh old hold

theorem Built.wellFormed (h : config.Built admits) : config.WellFormed admits := by
  induction h with
  | empty => exact .empty
  | push _ named entries admitted made pushed ih =>
    obtain ⟨nonempty, rfl⟩ := ModuleSpec.make_eq_ok_iff.mp made
    obtain ⟨fresh, rfl⟩ := push_eq_ok_iff.mp pushed
    refine ih.append ⟨ModuleName.grammatical_of_parse named, nonempty, ?_, admitted⟩ fresh
    intro t ht
    obtain ⟨raw, hraw⟩ := entries t ht
    exact (EntryFunction.parse_eq_ok_iff.mp hraw).2

end RenderConfiguration

end ElmPrerender
