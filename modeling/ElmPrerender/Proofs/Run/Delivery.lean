import ElmPrerender.Proofs.Elm.DriverReadBack
import ElmPrerender.Proofs.Path.Workspace
import ElmPrerender.Proofs.Run.Loaded
import ElmPrerender.Proofs.Run.Willing

/-!
# Every page is delivered

A renderer that reads the generated program from the store and renders its pages in order hands each
page to the destination that was configured for it, whatever the destinations are called.
-/

namespace ElmPrerender.Run

/-- The HTML of a view. -/
abbrev Rendering := ModuleName → EntryFunction → String

/-- The pages of the program in the scratch directory, rendered. -/
def pagesIn (h : Rendering) (w : Workspace) (store : Store) : Option Batch := do
  let text ← store.file? w.driver
  let driver ← Elm.DriverReader.read? text
  some (driver.bindings.map fun b => ⟨b.key, h b.moduleName b.entry⟩)

/-- Nothing fails, the compiler ends with `outcome`, and the renderer reads the program. -/
def readingRules (outcome : BuildOutcome) (h : Rendering) : BenchRules where
  unwritable := []
  uncreatable := []
  build _ _ := .ok outcome
  render w store := match pagesIn h w store with
    | some batch => .ok batch
    | none => .error (.exited w.artifact.text none "")
  outputLimit := none
  flushFails := false

/-- A page to be made, with the module that makes it. -/
abbrev Target := ModuleName × RenderTarget

/-- All targets, module by module. -/
def targetsOf (specs : List ModuleSpec) : List Target :=
  specs.flatMap fun spec => spec.targets.map fun t => (spec.moduleName, t)

def printedTargets (targets : List Target) : List Target :=
  targets.filter fun t => t.2.destination.key == Destination.standardOutputKey

def filedTargets (targets : List Target) : List Target :=
  targets.filter fun t => t.2.destination.key != Destination.standardOutputKey

/-- Where the page of a target goes. -/
def targetPath (options : RunOptions) (t : Target) : Path :=
  options.invocation.join ⟨t.2.destination.key⟩

def pageOf (h : Rendering) (t : Target) : RenderedPage := ⟨t.2.destination.key, h t.1 t.2.entry⟩

variable {h : Rendering} {options : RunOptions}

theorem printedPages_map (targets : List Target) :
    printedPages (targets.map (pageOf h)) = (printedTargets targets).map (pageOf h) := by
  rw [printedPages, printedTargets, List.filter_map]
  rfl

theorem filedPages_map (targets : List Target) :
    filedPages (targets.map (pageOf h)) = (filedTargets targets).map (pageOf h) := by
  rw [filedPages, filedTargets, List.filter_map]
  rfl

theorem pages_ofConfiguration (h : Rendering) (specs : List ModuleSpec) (format : Elm.Format) :
    (Elm.Driver.ofConfiguration ⟨specs⟩ format).bindings.map
        (fun b => (⟨b.key, h b.moduleName b.entry⟩ : RenderedPage)) =
      (targetsOf specs).map (pageOf h) := by
  simp only [Elm.Driver.ofConfiguration, targetsOf, List.map_flatMap, Elm.Driver.bindingsOf,
    List.map_map]
  rfl

theorem render_readingRules {outcome : BuildOutcome} {admits : Destination → Prop}
    {scaffold : Scaffold} {b : Bench} {store : Store}
    (generated : b.store = generatedIn options store scaffold)
    (wellFormed : scaffold.config.WellFormed admits) :
    (Surroundings.ofRules (readingRules outcome h)).render b options.workspace =
      .ok ((targetsOf scaffold.config.specs).map (pageOf h)) := by
  have hread := Elm.Driver.read?_render_ofConfiguration wellFormed scaffold.format
  have hpages : pagesIn h options.workspace b.store =
      some ((targetsOf scaffold.config.specs).map (pageOf h)) := by
    rw [pagesIn, generated, generatedIn, file?_driver]
    simp only [bind, Option.bind, hread]
    rw [pages_ofConfiguration]
  simp only [Surroundings.ofRules, readingRules, hpages]

theorem unlimited_readingRules (outcome : BuildOutcome) (h : Rendering) :
    (readingRules outcome h).Unlimited :=
  ⟨rfl, rfl, rfl, rfl⟩

/-- What a run hands out if its sources and its manifest are there. -/
structure DeliversAll (h : Rendering) (options : RunOptions) (targets : List Target)
    (b b' : Bench) : Prop where
  output : b'.output = b.output ++ (printedTargets targets).flatMap fun t =>
    Text.Utf8.ofString (h t.1 t.2.entry ++ "\n\n")
  /-- The last of several targets with one path counts. -/
  written : ∀ p t, (filedTargets targets).reverse.find? (fun t => p.same (targetPath options t)) =
    some t → b'.store.file? p = some (h t.1 t.2.entry ++ "\n")
  others : ∀ p, (∀ t ∈ filedTargets targets, p.same (targetPath options t) = false) →
    (∀ file ∈ options.workspace.files, p.same file = false) →
    b'.store.file? p = b.store.file? p

theorem HandsOut.deliversAll {loaded : Loaded} {scaffold : Scaffold} {outcome : BuildOutcome}
    {targets : List Target} {b b' : Bench} {report : RunReport}
    (hands : HandsOut options loaded scaffold outcome (targets.map (pageOf h)) b report b') :
    DeliversAll h options targets b b' := by
  have hfiles : (filedPages (targets.map (pageOf h))).map (pageFile options) =
      (filedTargets targets).map fun t => (targetPath options t, h t.1 t.2.entry ++ "\n") := by
    rw [filedPages_map, List.map_map]
    rfl
  have generated : (generatedIn options b.store scaffold).files =
      (b.store.writeAll (scaffold.files options.workspace)).files :=
    Store.files_writeAll_congr (Store.files_createDirectories _ _) _
  have files : (distributedIn options (generatedIn options b.store scaffold)
      (targets.map (pageOf h))).files = _ := files_distributedIn _ _
  rw [← hands.store, hfiles] at files
  refine ⟨?_, ?_, ?_⟩
  · rw [hands.output, printedBytes, printedPages_map, List.flatMap_map]
    rfl
  · intro p t hlast
    rw [Store.file?_congr files, Store.file?_writeAll, ← List.map_reverse, List.find?_map]
    have hfound : (filedTargets targets).reverse.find?
        ((fun f : Path × String => p.same f.1) ∘
          fun t => (targetPath options t, h t.1 t.2.entry ++ "\n")) = some t := hlast
    rw [hfound]
    rfl
  · intro p hothers hgenerated
    rw [Store.file?_congr files, Store.file?_writeAll_of_forall, Store.file?_congr generated,
      Store.file?_writeAll_of_forall]
    · intro f hf
      exact hgenerated f.1 (List.mem_map_of_mem (f := (·.1)) hf)
    · intro f hf
      obtain ⟨t, ht, rfl⟩ := List.mem_map.mp hf
      exact hothers t ht

/-- If the sources and the manifest can be loaded, no two of the sources that declare a module are
the same path, and nothing fails, then a run succeeds: it prints the pages for standard output and
writes the others to their files, all in the order of the configuration. -/
theorem run_delivers_all (h : Rendering) (outcome : BuildOutcome) (options : RunOptions)
    (source : RunSource) (start : Stage) (b : Bench) {pending : List SourceTargets}
    {manifest : Manifest} {name : ProjectName}
    (found : pendingIn options b.store source = .ok pending)
    (distinct : (retainedSpecs options b.store pending).Pairwise
      fun p q => p.source.same q.source = false)
    (patched : manifestIn options b.store = .ok (manifest, name)) :
    ∃ b', Bench.run (readingRules outcome h) options source start b =
        ((.ok
          { dropped := droppedSources options b.store pending
            build := outcome
            filesWritten := (filedTargets
              (targetsOf (retainedSpecs options b.store pending))).map (targetPath options)
            printed := (printedTargets
              (targetsOf (retainedSpecs options b.store pending))).length }, .done), b') ∧
      DeliversAll h options (targetsOf (retainedSpecs options b.store pending)) b b' := by
  have willing := (unlimited_readingRules outcome h).willing
  have hconfig := wellFormed_retained found distinct
  have hload := loadAllIn_eq_ok (loadIn_eq_ok found distinct) patched start
  obtain ⟨report, b', hrun, hands⟩ := run_of_rendered willing (fun _ => rfl)
    (congrArg Prod.fst hload) fun b₁ generated => render_readingRules generated hconfig
  refine ⟨b', ?_, hands.deliversAll⟩
  rw [Bench.run_eq, hrun, hands.report, filedPages_map, printedPages_map, List.map_map,
    List.length_map]
  rfl

/-- A list with two pages of a module, and a source that is missing. -/
def siteList : String :=
  r#"{"files":{"A.elm":[{"output":"::stdout","viewFunction":"view"},"# ++
    r#"{"output":"b\", c.html","viewFunction":"main"}],"C.elm":"d.html"}}"#

def siteStore : Store where
  files := [
    (⟨"/d/A.elm"⟩, "module A exposing (..)\n"),
    (⟨"/d/elm-package.json"⟩, r#"{"source-directories":["src"],"repository":"u/p"}"#),
    (⟨"/d/site.json"⟩, siteList)]
  directories := []

def siteOptions : RunOptions := ⟨⟨"/d"⟩, ⟨⟨"/w"⟩⟩, .standard⟩

def siteSources : List SourceTargets :=
  [⟨⟨"A.elm"⟩, [⟨.standardOutput, .view⟩, ⟨.file ⟨"b\", c.html"⟩, ⟨"main"⟩⟩]⟩,
    ⟨⟨"C.elm"⟩, [⟨.file ⟨"d.html"⟩, .view⟩]⟩]

/-- The compiler fails, one source is missing, and one output looks like the end of a literal. -/
theorem run_delivers_site :
    ∃ b', Bench.run (readingRules (.failed 1) fun name entry => name.text ++ "." ++ entry.name)
        siteOptions (.configFile ⟨"site.json"⟩) .init (.ofStore siteStore) =
        ((.ok ⟨[⟨"C.elm"⟩], .failed 1, [⟨"/d/b\", c.html"⟩], 1⟩, .done), b') ∧
      b'.output = Text.Utf8.ofString "A.view\n\n" ∧
      b'.store.file? ⟨"/d/b\", c.html"⟩ = some "A.main\n" := by
  have found : pendingIn siteOptions siteStore (.configFile ⟨"site.json"⟩) = .ok siteSources := by
    decide +kernel
  have retained : retainedSpecs siteOptions siteStore siteSources =
      [⟨⟨"A.elm"⟩, ⟨"A"⟩, [⟨.standardOutput, .view⟩, ⟨.file ⟨"b\", c.html"⟩, ⟨"main"⟩⟩]⟩] := by
    decide +kernel
  have distinct : (retainedSpecs siteOptions siteStore siteSources).Pairwise
      fun p q => p.source.same q.source = false := by
    rw [retained]
    exact List.pairwise_singleton _ _
  have loaded : (manifestIn siteOptions siteStore).toOption.isSome := by decide +kernel
  rcases patched : manifestIn siteOptions siteStore with e | ⟨manifest, name⟩
  · rw [patched] at loaded
    cases loaded
  · obtain ⟨b', hrun, hdelivers⟩ := run_delivers_all
      (fun name entry => name.text ++ "." ++ entry.name) (.failed 1) siteOptions
      (.configFile ⟨"site.json"⟩) .init (.ofStore siteStore) found distinct patched
    have hdropped : droppedSources siteOptions siteStore siteSources = [⟨"C.elm"⟩] := by
      decide +kernel
    have hstore : (Bench.ofStore siteStore).store = siteStore := rfl
    rw [hstore, retained, hdropped] at hrun
    rw [hstore, retained] at hdelivers
    exact ⟨b', hrun, hdelivers.output, hdelivers.written ⟨"/d/b\", c.html"⟩
      (⟨"A"⟩, ⟨.file ⟨"b\", c.html"⟩, ⟨"main"⟩⟩) rfl⟩

end ElmPrerender.Run
