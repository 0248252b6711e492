import ElmPrerender.Proofs.Run.AbortSafety

/-!
# The manifest of the project

A run writes its patched copy of the manifest into the scratch directory. The manifest of the
project stays as it is, unless the two directories have the same components: then the copy takes its
place.
-/

namespace ElmPrerender

/-- The scratch directory is the directory of the project, by components. -/
def Workspace.Inside (w : Workspace) (invocation : Path) : Prop := invocation.same w.root = true

namespace Run

variable {s : Surroundings} {options : RunOptions} {source : RunSource} {stage stage' : Stage}
  {b b' : Bench}

theorem same_manifestPath_iff (options : RunOptions) {file : Path}
    (hfile : file ∈ options.workspace.files) :
    (manifestPath options).same file = true ↔
      file = options.workspace.manifest ∧ options.workspace.Inside options.invocation :=
  options.workspace.same_file_iff options.invocation hfile

/-- Of the generated files only the copy can stand under the path of the manifest. -/
theorem file?_manifest_of_inside (scaffold : Scaffold) (store : Store)
    (inside : options.workspace.Inside options.invocation) :
    (store.writeAll (scaffold.files options.workspace)).file? (manifestPath options) =
      some scaffold.manifest.text := by
  have hmanifest : (manifestPath options).same options.workspace.manifest = true :=
    (same_manifestPath_iff options (by simp [Workspace.files])).mpr ⟨rfl, inside⟩
  have hdistinct := options.workspace.files_distinct
  simp only [Workspace.files, List.pairwise_cons] at hdistinct
  have hother : ∀ file ∈ [options.workspace.driver, options.workspace.shim,
      options.workspace.runner], (manifestPath options).same file = false := by
    intro file hfile
    rw [Path.same_congr hmanifest]
    exact hdistinct.1 file hfile
  have hdriver := hother options.workspace.driver (by simp)
  have hshim := hother options.workspace.shim (by simp)
  have hrunner := hother options.workspace.runner (by simp)
  simp [Store.file?_writeAll, Scaffold.files, Scaffold.filesWith, hmanifest, hdriver, hshim, hrunner]

/-- Once all files are generated, only the files of the batch can still change. -/
theorem execute_generated {r : Except RunError RunReport}
    (h : execute s.host options source stage b = ((r, stage'), b')) :
    ∃ told, b'.log = b.log ++ told ∧ (Stage.scaffoldWritten ∈ entered told →
      ∃ scaffold : Scaffold,
        manifestIn options b.store = .ok (scaffold.manifest, scaffold.projectName) ∧
        ∀ p, b'.store.file? p ≠
            (b.store.writeAll (scaffold.files options.workspace)).file? p →
          ∃ batch, Returned s options source stage b batch ∧ Addressed options batch p) := by
  obtain ⟨told, hlog, progress⟩ := execute_progress h
  refine ⟨told, hlog, fun hwritten => ?_⟩
  cases progress with
  | loading early store output calls => exact absurd (early hwritten) (by decide)
  | working scaffold written patched undelivered output manifest initial files complete =>
    rcases complete with rfl | hentered
    · exact ⟨scaffold, manifest, fun p hp => absurd (Store.file?_congr files p) hp⟩
    · rw [hentered] at hwritten
      exact absurd hwritten (by decide)
  | distributing scaffold batch patched begun manifest returned others =>
    exact ⟨scaffold, manifest, fun p hp => ⟨batch, returned, others p hp⟩⟩

/-- What becomes of the manifest of the project in a run. -/
structure ManifestFate (options : RunOptions) (b : Bench) (told : List Event) (b' : Bench) :
    Prop where
  outside : ¬ options.workspace.Inside options.invocation →
    b'.store.file? (manifestPath options) = b.store.file? (manifestPath options)
  inside : options.workspace.Inside options.invocation → Stage.scaffoldWritten ∈ entered told →
    ∃ patched name, manifestIn options b.store = .ok (patched, name) ∧
      b'.store.file? (manifestPath options) = some patched.text

theorem execute_manifestFate {r : Except RunError RunReport}
    (unnamed : ∀ batch, Returned s options source stage b batch →
      ¬ Addressed options batch (manifestPath options))
    (h : execute s.host options source stage b = ((r, stage'), b')) :
    ∃ told, b'.log = b.log ++ told ∧ ManifestFate options b told b' := by
  obtain ⟨told, hlog, hgenerated⟩ := execute_generated h
  obtain ⟨_, -, hsafe⟩ := execute_abortSafe h
  refine ⟨told, hlog, ?_, ?_⟩
  · intro outside
    by_cases hkept : b'.store.file? (manifestPath options) = b.store.file? (manifestPath options)
    · exact hkept
    · exfalso
      rcases hsafe.changed _ hkept with ⟨file, hfile, hsame⟩ | ⟨batch, returned, addressed⟩
      · exact outside ((same_manifestPath_iff options hfile).mp hsame).2
      · exact unnamed batch returned addressed
  · intro inside hwritten
    obtain ⟨scaffold, hmanifest, hothers⟩ := hgenerated hwritten
    refine ⟨scaffold.manifest, scaffold.projectName, hmanifest, ?_⟩
    rw [← file?_manifest_of_inside scaffold b.store inside]
    by_cases hkept : b'.store.file? (manifestPath options) =
        (b.store.writeAll (scaffold.files options.workspace)).file? (manifestPath options)
    · exact hkept
    · obtain ⟨batch, returned, addressed⟩ := hothers _ hkept
      exact absurd addressed (unnamed batch returned)

/-- A run none of whose pages goes to the manifest leaves it alone if the scratch directory is not
the directory of the project. If it is, the patched copy takes the place of the manifest. -/
theorem run_manifestFate (s : Surroundings) (options : RunOptions) (source : RunSource)
    (start : Stage) (b : Bench)
    (unnamed : ∀ batch, Returned s options source start b batch →
      ¬ Addressed options batch (manifestPath options)) :
    ∃ result b' told, run s.host options source start b = (result, b') ∧
      b'.log = b.log ++ told ∧ ManifestFate options b told b' := by
  rcases hexecute : execute s.host options source start b with ⟨⟨e | report, stage⟩, b'⟩
  · obtain ⟨told, hlog, hfate⟩ := execute_manifestFate unnamed hexecute
    refine ⟨_, _, told ++ [.aborted stage e], run_of_error hexecute, ?_, hfate.outside, ?_⟩
    · simp [hlog]
    · rw [entered_concat_aborted]
      exact hfate.inside
  · obtain ⟨told, hlog, hfate⟩ := execute_manifestFate unnamed hexecute
    exact ⟨_, _, told, run_of_ok hexecute, hlog, hfate⟩

/-- A project with one page. -/
def pageStore : Store where
  files := [
    (⟨"/project/Main.elm"⟩, "module Main exposing (..)\n"),
    (⟨"/project/elm-package.json"⟩,
      r#"{"repository":"u/p","source-directories":["src"]}"#)]
  directories := []

/-- Nothing fails, and the page goes to standard output. -/
def pageRules : BenchRules where
  unwritable := []
  uncreatable := []
  build w _ := .ok (.built w.artifact)
  render _ _ := .ok [⟨Destination.standardOutputKey, "<p></p>"⟩]
  outputLimit := none
  flushFails := false

/-- The project with a scratch directory, as it is configured. -/
def pageOptions (directory : Path) : RunOptions :=
  ⟨⟨"/project"⟩, .resolve ⟨"/project"⟩ directory, .standard⟩

theorem not_addressed_pageRules (directory : Path) (source : RunSource) (start : Stage) (b : Bench)
    (p : Path) : ∀ batch,
      Returned (Surroundings.ofRules pageRules) (pageOptions directory) source start b batch →
      ¬ Addressed (pageOptions directory) batch p := by
  rintro batch ⟨ready, stage₁, b₁, -, hrender⟩ ⟨page, hpage, hkey, -⟩
  cases hrender
  rw [List.mem_singleton.mp hpage] at hkey
  exact hkey rfl

/-- With the scratch directory that is used by default the manifest stays. -/
theorem run_manifestFate_default :
    ∃ result b', Bench.run pageRules (pageOptions Workspace.defaultDirectory)
        (.file ⟨"Main.elm"⟩ none) .init (.ofStore pageStore) = (result, b') ∧
      b'.store.file? ⟨"/project/elm-package.json"⟩ =
        pageStore.file? ⟨"/project/elm-package.json"⟩ := by
  obtain ⟨result, b', told, hrun, -, hfate⟩ := run_manifestFate (Surroundings.ofRules pageRules)
    (pageOptions Workspace.defaultDirectory) (.file ⟨"Main.elm"⟩ none) .init (.ofStore pageStore)
    (not_addressed_pageRules _ _ _ _ _)
  refine ⟨result, b', (Bench.run_eq ..).trans hrun, ?_⟩
  exact hfate.outside (by unfold Workspace.Inside; decide)

/-- A scratch directory that is configured as `.` is the directory of the project: a run in which no
page goes to the manifest replaces it. -/
theorem manifest_replaced_in_project :
    (∀ batch, Returned (Surroundings.ofRules pageRules) (pageOptions ⟨"."⟩)
        (.file ⟨"Main.elm"⟩ none) .init (.ofStore pageStore) batch →
      ¬ Addressed (pageOptions ⟨"."⟩) batch (manifestPath (pageOptions ⟨"."⟩))) ∧
    (Bench.run pageRules (pageOptions ⟨"."⟩) (.file ⟨"Main.elm"⟩ none) .init
        (.ofStore pageStore)).2.store.file? (manifestPath (pageOptions ⟨"."⟩)) ≠
      pageStore.file? (manifestPath (pageOptions ⟨"."⟩)) := by
  constructor
  · exact not_addressed_pageRules _ _ _ _ _
  · decide +kernel

end Run

end ElmPrerender
