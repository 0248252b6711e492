import ElmPrerender.Proofs.Results
import ElmPrerender.Proofs.Run.AbortSafety
import ElmPrerender.Proofs.Run.Inputs
import ElmPrerender.Proofs.Run.Willing

/-!
# A run that is repeated

If the compiler always ends in one way and the renderer looks at nothing but the generated program,
then a run that has succeeded and has not written over its own input can be repeated: the second run
reports and prints the same, and it leaves all files and directories as the first one left them.
-/

namespace ElmPrerender.Run

/-- Nothing fails, the compiler ends with `outcome`, and the pages depend on the program alone. -/
def programRules (outcome : BuildOutcome)
    (render : Option String → Except ToolchainError Batch) : BenchRules where
  unwritable := []
  uncreatable := []
  build _ _ := .ok outcome
  render w store := render (store.file? w.driver)
  outputLimit := none
  flushFails := false

theorem unlimited_programRules (outcome : BuildOutcome)
    (render : Option String → Except ToolchainError Batch) :
    (programRules outcome render).Unlimited :=
  ⟨rfl, rfl, rfl, rfl⟩

variable {options : RunOptions} {source : RunSource} {stage stage' : Stage} {b b' : Bench}

theorem execute_of_run_ok {s : Surroundings} {report : RunReport}
    (h : run s.host options source stage b = ((.ok report, stage'), b')) :
    execute s.host options source stage b = ((.ok report, stage'), b') := by
  rcases hexecute : execute s.host options source stage b with ⟨⟨e | report', stage₁⟩, b₁⟩
  · rw [run_of_error hexecute] at h
    cases h
  · rw [run_of_ok hexecute] at h
    exact h

/-- What is loaded does not depend on the stage. -/
theorem loadAllIn_of_ok {store : Store} {start : Stage} {ready : Loaded × Scaffold}
    (h : (loadAllIn options store source start).1.1 = .ok ready) (start' : Stage) :
    (loadAllIn options store source start').1 = (.ok ready, .manifestPatched) := by
  rw [loadAllIn] at h
  rcases hload : loadIn options store source with ⟨e | loaded, told⟩
  · rw [hload] at h
    cases h
  · rcases hmanifest : manifestIn options store with e | ⟨manifest, name⟩
    · rw [hload, hmanifest] at h
      cases h
    · rw [hload, hmanifest] at h
      cases h
      exact loadAllIn_eq_ok (congrArg Prod.fst hload) hmanifest start'

section Unlimited

variable {rules : BenchRules} {outcome : BuildOutcome} {loaded : Loaded} {scaffold : Scaffold}
  {batch : Batch}

/-- Every successful run hands out what the renderer makes of the generated files. -/
theorem handsOut_of_run_ok (unlimited : rules.Unlimited)
    (built : ∀ store, rules.build options.workspace store = .ok outcome) {report : RunReport}
    (h : Bench.run rules options source stage b = ((.ok report, stage'), b')) :
    ∃ loaded scaffold batch,
      (loadAllIn options b.store source stage).1.1 = .ok (loaded, scaffold) ∧
      rules.render options.workspace (generatedIn options b.store scaffold) = .ok batch ∧
      HandsOut options loaded scaffold outcome batch b report b' := by
  rw [Bench.run_eq] at h
  obtain ⟨moves, executed, -, follows, -⟩ :=
    (execute_leads options source).of_eq (execute_of_run_ok h)
  obtain ⟨loaded, scaffold, batch, b₁, hloads, hstore, hrender, hands, -⟩ :=
    handsOut_of_executed unlimited.willing (fun b => built b.store) executed follows
  refine ⟨loaded, scaffold, batch, hloads, ?_, hands⟩
  rw [← hstore]
  exact hrender

/-- All files and directories of a run, in one go. -/
theorem distributedIn_generatedIn (store : Store) :
    distributedIn options (generatedIn options store scaffold) batch =
      (store.createAll (options.workspace.native :: outputDirectories options batch)).writeAll
        (scaffold.files options.workspace ++ (filedPages batch).map (pageFile options)) := by
  rw [distributedIn, generatedIn, Store.createAll_writeAll, Store.writeAll_append]
  rfl

theorem distributedIn_generatedIn_again (store : Store) :
    distributedIn options (generatedIn options
        (distributedIn options (generatedIn options store scaffold) batch) scaffold) batch =
      distributedIn options (generatedIn options store scaffold) batch := by
  rw [distributedIn_generatedIn, distributedIn_generatedIn, Store.createAll_writeAll_again]

/-- What is not written keeps its text. -/
theorem HandsOut.agreeOn {report : RunReport} {paths : List Path}
    (h : HandsOut options loaded scaffold outcome batch b report b')
    (apart : ∀ p ∈ paths, ∀ q ∈ options.workspace.files ++ report.filesWritten,
      p.same q = false) : AgreeOn paths b.store b'.store := by
  intro p hp
  rw [h.store, distributedIn_generatedIn, Store.file?_writeAll_of_forall]
  · exact Store.file?_congr (Store.files_createAll _ _) p
  · intro f hf
    apply apart p hp
    rw [h.report, List.mem_append]
    rcases List.mem_append.mp hf with hscaffold | hfile
    · left
      rw [← Scaffold.map_fst_files scaffold]
      exact List.mem_map_of_mem hscaffold
    · right
      obtain ⟨page, hpage, rfl⟩ := List.mem_map.mp hfile
      exact List.mem_map_of_mem hpage

end Unlimited

/-- A successful run that has written over none of the files that it reads can be repeated from any
stage: the second run has the same report, prints the same bytes, and leaves the store as it is. -/
theorem rerun_eq (outcome : BuildOutcome) (render : Option String → Except ToolchainError Batch)
    (options : RunOptions) (source : RunSource) (start start' : Stage) (b : Bench)
    {report : RunReport} {b₁ : Bench}
    (first : Bench.run (programRules outcome render) options source start b =
      ((.ok report, stage), b₁))
    (apart : ∀ p ∈ inputPaths options b.store source,
      ∀ q ∈ options.workspace.files ++ report.filesWritten, p.same q = false) :
    ∃ b₂ bytes, Bench.run (programRules outcome render) options source start' b₁ =
        ((.ok report, .done), b₂) ∧
      b₂.store = b₁.store ∧
      b₁.output = b.output ++ bytes ∧ b₂.output = b₁.output ++ bytes := by
  have hunlimited := unlimited_programRules outcome render
  have hbuilt : ∀ store, (programRules outcome render).build options.workspace store =
      .ok outcome := fun _ => rfl
  obtain ⟨loaded, scaffold, batch, hloads, hrendered, hfirst⟩ :=
    handsOut_of_run_ok hunlimited hbuilt first
  have hloads' : (loadAllIn options b₁.store source start').1.1 = .ok (loaded, scaffold) := by
    rw [loadAllIn_congr (hfirst.agreeOn apart), loadAllIn_of_ok hloads start']
  -- The renderer finds the program that it found in the first run.
  have hrendered' : (programRules outcome render).render options.workspace
      (generatedIn options b₁.store scaffold) = .ok batch := by
    rw [← hrendered]
    simp only [programRules, generatedIn, file?_driver]
  obtain ⟨report', b₂, hrun, hsecond⟩ := run_of_rendered hunlimited.willing
    (fun b => hbuilt b.store) hloads' fun b generated =>
      (congrArg ((programRules outcome render).render options.workspace) generated).trans hrendered'
  refine ⟨b₂, printedBytes batch, ?_, ?_, hfirst.output, hsecond.output⟩
  · rw [Bench.run_eq, hrun, hsecond.report, hfirst.report]
  · rw [hsecond.store, hfirst.store, distributedIn_generatedIn_again]

/-- A list of two sources, of which the second is missing. -/
def albumStore : Store where
  files := [
    (⟨"/d/A.elm"⟩, "module A exposing (..)\n"),
    (⟨"/d/elm-package.json"⟩, r#"{"source-directories":["src"],"repository":"u/p"}"#),
    (⟨"/d/list.json"⟩, r#"{"files":{"A.elm":"a.html","C.elm":"c.html"}}"#)]
  directories := []

def albumOptions : RunOptions := ⟨⟨"/d"⟩, .resolve ⟨"/d"⟩ Workspace.defaultDirectory, .standard⟩

/-- The renderer shows the program, writes over the file that shows it, and prints a page. -/
def albumRules : BenchRules := programRules (.failed 1) fun text =>
  .ok [⟨"out/a.html", text.getD ""⟩, ⟨"out//a.html", "<p></p>"⟩,
    ⟨Destination.standardOutputKey, "<p></p>"⟩]

def albumReport : RunReport :=
  ⟨[⟨"C.elm"⟩], .failed 1, [⟨"/d/out/a.html"⟩, ⟨"/d/out//a.html"⟩], 1⟩

theorem ended_eq {x : (Except RunError RunReport × Stage) × Bench} {report : RunReport}
    (h : (x.1.1.toOption, x.1.2) = (some report, stage)) : x = ((.ok report, stage), x.2) := by
  obtain ⟨⟨e | report', stage'⟩, b⟩ := x
  · cases h
  · cases h
    rfl

theorem rerun_album :
    ∃ b₁ b₂, Bench.run albumRules albumOptions (.configFile ⟨"list.json"⟩) .init
        (.ofStore albumStore) = ((.ok albumReport, .done), b₁) ∧
      Bench.run albumRules albumOptions (.configFile ⟨"list.json"⟩) .done b₁ =
        ((.ok albumReport, .done), b₂) ∧
      b₂.store = b₁.store := by
  have hended : ((Bench.run albumRules albumOptions (.configFile ⟨"list.json"⟩) .init
      (.ofStore albumStore)).1.1.toOption, (Bench.run albumRules albumOptions
      (.configFile ⟨"list.json"⟩) .init (.ofStore albumStore)).1.2) =
        (some albumReport, .done) := by
    decide +kernel
  have hapart : ((inputPaths albumOptions albumStore (.configFile ⟨"list.json"⟩)).all fun p =>
      (albumOptions.workspace.files ++ albumReport.filesWritten).all fun q => !p.same q) = true := by
    decide +kernel
  have hfirst := ended_eq hended
  obtain ⟨b₂, bytes, hsecond, hstore, -, -⟩ := rerun_eq (.failed 1) _ albumOptions
    (.configFile ⟨"list.json"⟩) .init .done (.ofStore albumStore) hfirst (by
      intro p hp q hq
      have hpair := List.all_eq_true.mp (List.all_eq_true.mp hapart p hp) q hq
      exact Bool.eq_false_iff.mpr fun hsame => by simp [hsame] at hpair)
  exact ⟨_, b₂, hfirst, hsecond, hstore⟩

end ElmPrerender.Run
