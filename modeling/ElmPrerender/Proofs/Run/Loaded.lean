import ElmPrerender.Proofs.Configuration.Built
import ElmPrerender.Proofs.ConfigFile.Sources
import ElmPrerender.Proofs.Run.Loading

/-!
# What loading finds

If no two sources that declare a module are the same path, all of them are in the configuration, in
their order, and all others are left out.
-/

namespace ElmPrerender.Run

variable (options : RunOptions) (store : Store)

/-- The module that a source declares, if it declares one. -/
def moduleIn? (s : SourceTargets) : Option ModuleName := (moduleIn options store s.source).toOption

/-- A source that declares a module, as it stands in the configuration. -/
def specIn? (s : SourceTargets) : Option ModuleSpec :=
  (moduleIn? options store s).map fun name => ⟨s.source, name, s.targets⟩

/-- The configuration that the sources make. -/
def retainedSpecs (pending : List SourceTargets) : List ModuleSpec :=
  pending.filterMap (specIn? options store)

/-- The sources that declare no usable module. -/
def droppedSources (pending : List SourceTargets) : List Path :=
  (pending.filter fun s => (moduleIn? options store s).isNone).map (·.source)

/-- What is told of a source that declares no usable module. -/
def skippedIn? (s : SourceTargets) : Option Event :=
  match moduleIn options store s.source with
  | .error problem => some (.skipped s.source problem)
  | .ok _ => none

def skippedEvents (pending : List SourceTargets) : List Event :=
  pending.filterMap (skippedIn? options store)

variable {options : RunOptions} {store : Store}

theorem addModule_eq_ok {config : RenderConfiguration} {s : SourceTargets} (name : ModuleName)
    (nonempty : s.targets ≠ [])
    (fresh : ∀ old ∈ config.specs, old.source.same s.source = false) :
    addModule config s name = .ok ⟨config.specs ++ [⟨s.source, name, s.targets⟩]⟩ := by
  have hmake : ModuleSpec.make s.source name s.targets = .ok ⟨s.source, name, s.targets⟩ :=
    ModuleSpec.make_eq_ok_iff.mpr ⟨nonempty, rfl⟩
  have hpush : config.push ⟨s.source, name, s.targets⟩ =
      .ok ⟨config.specs ++ [⟨s.source, name, s.targets⟩]⟩ :=
    RenderConfiguration.push_eq_ok_iff.mpr ⟨fresh, rfl⟩
  rw [addModule, hmake]
  exact hpush

section Dropped

variable {s : SourceTargets} {problem : SourceProblem}
  (unusable : moduleIn options store s.source = .error problem)

include unusable

theorem addSourceIn_of_error (loaded : Loaded) :
    addSourceIn options store loaded s =
      (.ok { loaded with dropped := loaded.dropped ++ [s.source] },
        [.skipped s.source problem]) := by
  rw [addSourceIn, unusable]
  rfl

theorem retainedSpecs_cons_of_error (rest : List SourceTargets) :
    retainedSpecs options store (s :: rest) = retainedSpecs options store rest := by
  have hnone : specIn? options store s = none := by
    rw [specIn?, moduleIn?, unusable]
    rfl
  rw [retainedSpecs, List.filterMap_cons, hnone]
  rfl

theorem droppedSources_cons_of_error (rest : List SourceTargets) :
    droppedSources options store (s :: rest) = s.source :: droppedSources options store rest := by
  have hnone : moduleIn? options store s = none := by
    rw [moduleIn?, unusable]
    rfl
  rw [droppedSources, List.filter_cons_of_pos (by rw [hnone]; rfl)]
  rfl

theorem skippedEvents_cons_of_error (rest : List SourceTargets) :
    skippedEvents options store (s :: rest) =
      .skipped s.source problem :: skippedEvents options store rest := by
  have hsome : skippedIn? options store s = some (.skipped s.source problem) := by
    rw [skippedIn?, unusable]
  rw [skippedEvents, List.filterMap_cons, hsome]
  rfl

end Dropped

section Retained

variable {s : SourceTargets} {name : ModuleName}
  (declared : moduleIn options store s.source = .ok name)

include declared

theorem addSourceIn_of_ok {loaded : Loaded} (nonempty : s.targets ≠ [])
    (fresh : ∀ old ∈ loaded.config.specs, old.source.same s.source = false) :
    addSourceIn options store loaded s =
      (.ok { loaded with config := ⟨loaded.config.specs ++ [⟨s.source, name, s.targets⟩]⟩ },
        []) := by
  rw [addSourceIn, declared]
  simp only [collectOne, addModule_eq_ok name nonempty fresh]
  rfl

theorem retainedSpecs_cons_of_ok (rest : List SourceTargets) :
    retainedSpecs options store (s :: rest) =
      ⟨s.source, name, s.targets⟩ :: retainedSpecs options store rest := by
  have hsome : specIn? options store s = some ⟨s.source, name, s.targets⟩ := by
    rw [specIn?, moduleIn?, declared]
    rfl
  rw [retainedSpecs, List.filterMap_cons, hsome]
  rfl

theorem droppedSources_cons_of_ok (rest : List SourceTargets) :
    droppedSources options store (s :: rest) = droppedSources options store rest := by
  have hsome : moduleIn? options store s = some name := by
    rw [moduleIn?, declared]
    rfl
  rw [droppedSources, List.filter_cons_of_neg (by rw [hsome]; simp)]
  rfl

theorem skippedEvents_cons_of_ok (rest : List SourceTargets) :
    skippedEvents options store (s :: rest) = skippedEvents options store rest := by
  have hnone : skippedIn? options store s = none := by
    rw [skippedIn?, declared]
  rw [skippedEvents, List.filterMap_cons, hnone]
  rfl

end Retained

/-- All sources are taken or left out if those that are taken are different paths. -/
theorem addSourcesIn_eq (loaded : Loaded) {pending : List SourceTargets}
    (nonempty : ∀ s ∈ pending, s.targets ≠ [])
    (distinct : (loaded.config.specs ++ retainedSpecs options store pending).Pairwise
      fun a b => a.source.same b.source = false) :
    addSourcesIn options store loaded pending =
      (.ok ⟨⟨loaded.config.specs ++ retainedSpecs options store pending⟩,
        loaded.dropped ++ droppedSources options store pending⟩,
        skippedEvents options store pending) := by
  induction pending generalizing loaded with
  | nil => simp [addSourcesIn, retainedSpecs, droppedSources, skippedEvents]
  | cons s rest ih =>
    have hrest := fun r hr => nonempty r (List.mem_cons_of_mem s hr)
    rw [addSourcesIn]
    cases hmodule : moduleIn options store s.source with
    | error problem =>
      rw [retainedSpecs_cons_of_error hmodule] at distinct ⊢
      have hadd := ih { loaded with dropped := loaded.dropped ++ [s.source] } hrest
        distinct
      rw [addSourceIn_of_error hmodule, droppedSources_cons_of_error hmodule,
        skippedEvents_cons_of_error hmodule]
      simp [hadd]
    | ok name =>
      rw [retainedSpecs_cons_of_ok hmodule] at distinct ⊢
      have hfresh : ∀ old ∈ loaded.config.specs, old.source.same s.source = false := by
        intro old hold
        exact (List.pairwise_append.mp distinct).2.2 old hold ⟨s.source, name, s.targets⟩
          (List.mem_cons_self ..)
      have hadd := ih { loaded with
        config := ⟨loaded.config.specs ++ [⟨s.source, name, s.targets⟩]⟩ } hrest
        (by simpa using distinct)
      rw [addSourceIn_of_ok hmodule (nonempty s (List.mem_cons_self ..)) hfresh,
        droppedSources_cons_of_ok hmodule, skippedEvents_cons_of_ok hmodule]
      simp [hadd]

/-- Sources that are pending are well formed. -/
theorem wellFormed_of_pendingIn {source : RunSource} {pending : List SourceTargets}
    (h : pendingIn options store source = .ok pending) : ∀ s ∈ pending, s.WellFormed := by
  cases source with
  | file source output =>
    exact SourceTargets.wellFormed_of_ofFile (mapError_eq_ok_iff.mp h)
  | configFile path =>
    rw [pendingIn] at h
    cases htext : store.read (options.invocation.join path) with
    | error cause =>
      rw [htext] at h
      cases h
    | ok text =>
      rw [htext] at h
      obtain ⟨file, -, hsources⟩ := bind_eq_ok_iff.mp (mapError_eq_ok_iff.mp h)
      exact ConfigFile.wellFormed_of_sources hsources

theorem loadIn_eq {source : RunSource} {pending : List SourceTargets}
    (found : pendingIn options store source = .ok pending)
    (distinct : (retainedSpecs options store pending).Pairwise
      fun a b => a.source.same b.source = false) :
    loadIn options store source = (.ok ⟨⟨retainedSpecs options store pending⟩,
      droppedSources options store pending⟩,
      sourceEvent source :: skippedEvents options store pending) := by
  have hadd := addSourcesIn_eq ⟨.empty, []⟩
    (fun s hs => (wellFormed_of_pendingIn found s hs).nonempty) distinct
  rw [loadIn, found]
  simp only [hadd]
  rfl

theorem loadIn_eq_ok {source : RunSource} {pending : List SourceTargets}
    (found : pendingIn options store source = .ok pending)
    (distinct : (retainedSpecs options store pending).Pairwise
      fun a b => a.source.same b.source = false) :
    (loadIn options store source).1 = .ok ⟨⟨retainedSpecs options store pending⟩,
      droppedSources options store pending⟩ := by
  rw [loadIn_eq found distinct]

/-- A name found in a source is a parsed one. -/
theorem grammatical_of_ofSource {text : String} {name : ModuleName}
    (h : ModuleName.ofSource text = .ok name) : name.Grammatical := by
  unfold ModuleName.ofSource at h
  split at h
  · cases h
  split at h
  · cases h
  split at h
  · cases h
  · exact ModuleName.grammatical_of_parse h

theorem wellFormed_retained {source : RunSource} {pending : List SourceTargets}
    (found : pendingIn options store source = .ok pending)
    (distinct : (retainedSpecs options store pending).Pairwise
      fun a b => a.source.same b.source = false) :
    RenderConfiguration.WellFormed (fun d => ∃ raw, Destination.parse raw = .ok d)
      ⟨retainedSpecs options store pending⟩ := by
  refine ⟨?_, distinct⟩
  intro spec hspec
  obtain ⟨s, hs, hsome⟩ := List.mem_filterMap.mp hspec
  have hwell := wellFormed_of_pendingIn found s hs
  cases hmodule : moduleIn options store s.source with
  | error problem =>
    rw [specIn?, moduleIn?, hmodule] at hsome
    cases hsome
  | ok name =>
    rw [specIn?, moduleIn?, hmodule] at hsome
    cases hsome
    refine ⟨?_, hwell.nonempty, fun t ht => (hwell.targets t ht).entry,
      fun t ht => (hwell.targets t ht).destination⟩
    rw [moduleIn] at hmodule
    cases htext : store.read (options.invocation.join s.source) with
    | error cause =>
      rw [htext] at hmodule
      cases hmodule
    | ok text =>
      rw [htext] at hmodule
      exact grammatical_of_ofSource (mapError_eq_ok_iff.mp hmodule)

end ElmPrerender.Run
