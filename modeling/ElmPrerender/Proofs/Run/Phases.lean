import ElmPrerender.Proofs.Run.Surroundings

/-!
# The phases of a run

A run is cut where its sources are known, at its first write, and where the renderer is called.
-/

namespace ElmPrerender.Run

section Phases

variable {m : Type → Type} [Monad m] (host : RunHost m) (options : RunOptions)

/-- A run from its sources to the first write: what was loaded, and what the files are made from. -/
def loadFrom (pending : List SourceTargets) : Step m (Loaded × Scaffold) := do
  let loaded ← pending.foldlM (addSource host options) ⟨.empty, []⟩
  advance host .configLoaded
  let (manifest, name) ← loadManifest host options
  advance host .manifestPatched
  pure (loaded, ⟨loaded.config, options.format, manifest, name⟩)

/-- A run up to the first write. -/
def loadAll (source : RunSource) : Step m (Loaded × Scaffold) := do
  let loaded ← loadConfiguration host options source
  advance host .configLoaded
  let (manifest, name) ← loadManifest host options
  advance host .manifestPatched
  pure (loaded, ⟨loaded.config, options.format, manifest, name⟩)

/-- A run from the first write to the call of the renderer. -/
def generate (scaffold : Scaffold) : Step m BuildOutcome := do
  writeScaffold host options scaffold
  advance host .scaffoldWritten
  advance host .compiling
  let outcome ← build host options
  advance host .running
  pure outcome

/-- A run up to the call of the renderer: what was loaded, and how the compiler ended. -/
def prepare (source : RunSource) : Step m (Loaded × BuildOutcome) := do
  let (loaded, scaffold) ← loadAll host options source
  let outcome ← generate host options scaffold
  pure (loaded, outcome)

/-- A run from its first write on, up to the report. -/
def work (scaffold : Scaffold) : Step m (BuildOutcome × Delivered) := do
  let outcome ← generate host options scaffold
  let batch ← attempt .toolchain (host.render options.workspace)
  advance host .distributing
  let done ← distribute host options batch
  advance host .done
  pure (outcome, done)

/-- The report on what was loaded, built and handed out. -/
def reportOf (loaded : Loaded) (worked : BuildOutcome × Delivered) : RunReport :=
  ⟨loaded.dropped, worked.1, worked.2.filesWritten, worked.2.printed⟩

/-- The end of a run, told and reported. -/
def report (loaded : Loaded) (worked : BuildOutcome × Delivered) : Step m RunReport := do
  perform (host.log (.finished worked.2.filesWritten.length worked.2.printed
    loaded.dropped.length))
  pure (reportOf loaded worked)

/-- A run from its first write on. -/
def finish (ready : Loaded × Scaffold) : Step m RunReport := do
  let worked ← work host options ready.2
  report host ready.1 worked

/-- A run from the point at which the sources with their pages are known. -/
def executeFrom (pending : List SourceTargets) : Step m RunReport :=
  loadFrom host options pending >>= finish host options

variable [LawfulMonad m]

theorem loadAll_eq (source : RunSource) :
    loadAll host options source =
      pendingSources host options source >>= loadFrom host options := by
  simp only [loadAll, loadConfiguration, bind_assoc]
  rfl

theorem execute_eq (source : RunSource) :
    execute host options source = loadAll host options source >>= finish host options := by
  have hfinish : finish host options = fun ready => (do
      let worked ← work host options ready.2
      report host ready.1 worked) := rfl
  simp only [execute, loadAll, hfinish, work, generate, report, reportOf, bind_assoc, pure_bind]

theorem execute_eq_executeFrom (source : RunSource) :
    execute host options source =
      pendingSources host options source >>= executeFrom host options := by
  rw [execute_eq, loadAll_eq, bind_assoc]
  rfl

end Phases

/-- The batch that the renderer returns in a run from a stage on a bench. -/
def Returned (s : Surroundings) (options : RunOptions) (source : RunSource) (start : Stage)
    (b : Bench) (batch : Batch) : Prop :=
  ∃ ready stage₁ b₁, prepare s.host options source start b = ((.ok ready, stage₁), b₁) ∧
    s.render b₁ options.workspace = .ok batch

end ElmPrerender.Run
