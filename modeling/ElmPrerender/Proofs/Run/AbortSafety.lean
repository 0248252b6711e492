import ElmPrerender.Proofs.Path.Workspace
import ElmPrerender.Proofs.Run.Loading

/-!
# What an aborted run has changed

What comes before the call of the renderer writes nothing but the generated files, and what comes
after it changes nothing but the files named by the batch. How far a run has come is read from the
stages that it tells.
-/

namespace ElmPrerender

open Move

@[simp]
theorem Scaffold.map_fst_files (scaffold : Scaffold) (w : Workspace) :
    (scaffold.files w).map (·.1) = w.files := rfl

namespace Run

variable {s : Surroundings} {options : RunOptions} {source : RunSource} {stage stage' : Stage}
  {b b' : Bench} {moves : List Move}

theorem SourcesKnown.entries {r : Except RunError (List SourceTargets)}
    (h : SourcesKnown options source r moves) : entries moves = [] := by
  cases h <;> rfl

theorem AllAdded.entries {loaded : Loaded} {pending : List SourceTargets}
    {r : Except RunError Loaded} (h : AllAdded options loaded pending r moves) :
    entries moves = [] := by
  induction h with
  | nil => rfl
  | next step behind ih =>
    obtain ⟨answer, -⟩ := step
    rw [entries_append, ih, List.append_nil]
    exact entries_skips _
  | failed step =>
    obtain ⟨answer, -⟩ := step
    exact entries_skips _

/-- The stages that are entered while a run is loaded. -/
theorem LoadedAll.entries_of_ok {ready : Loaded × Scaffold}
    (h : LoadedAll options source (.ok ready) moves) :
    entries moves = [.configLoaded, .manifestPatched] := by
  cases h with
  | known known loads =>
    cases loads with
    | loaded added =>
      rw [entries_append, known.entries, entries_append, AllAdded.entries added]
      rfl

theorem LoadedAll.entries_of_error {e : RunError}
    (h : LoadedAll options source (.error e) moves) : entries moves ⊆ [.configLoaded] := by
  cases h with
  | unknown known => simp [known.entries]
  | known known loads =>
    rw [entries_append, known.entries]
    cases loads with
    | unadded added => simp [AllAdded.entries added]
    | unpatched added =>
      rw [entries_append, AllAdded.entries added]
      exact List.Subset.refl _

theorem manifestIn_of_loadAllIn {store : Store} {start : Stage} {loaded : Loaded}
    {scaffold : Scaffold} (h : (loadAllIn options store source start).1.1 = .ok (loaded, scaffold)) :
    manifestIn options store = .ok (scaffold.manifest, scaffold.projectName) := by
  rw [loadAllIn] at h
  split at h
  · cases h
  · split at h
    · cases h
    · rename_i hmanifest
      cases h
      exact hmanifest

/-- Generating writes the files in their order, and prints nothing. -/
theorem Generated.exists_written {scaffold : Scaffold} {r : Except RunError BuildOutcome}
    (h : Generated options scaffold r moves) :
    ∃ written, written <+: scaffold.files options.workspace ∧
      (∀ store, (storeAfter store moves).files = (store.writeAll written).files) ∧
      moves.any prints = false ∧ Stage.distributing ∉ Move.entries moves ∧
      (written = scaffold.files options.workspace ∨
        (Move.entries moves = [] ∧ r.isOk = false)) := by
  have hnative : ∀ (store : Store) written,
      ((store.createDirectories options.workspace.native).writeAll written).files =
        (store.writeAll written).files :=
    fun store => Store.files_writeAll_congr (Store.files_createDirectories store _)
  cases h with
  | unwritten scaffolded =>
    cases scaffolded with
    | unmade e => exact ⟨[], List.nil_prefix, fun store => rfl, rfl, by simp [Move.entries],
        Or.inr ⟨rfl, rfl⟩⟩
    | @unwritten written file e part =>
      refine ⟨written, (List.prefix_append written [file]).trans part, ?_, ?_, ?_, Or.inr ⟨?_, rfl⟩⟩
      · intro store
        simp [onStore, hnative]
      · simp [prints]
      · simp [Move.entries]
      · simp [Move.entries]
  | uncompiled scaffolded e =>
    cases scaffolded with
    | written =>
      refine ⟨_, List.prefix_rfl, ?_, ?_, ?_, Or.inl rfl⟩
      · intro store
        simp [onStore, hnative]
      · simp [prints]
      · simp [Move.entries]
  | compiled scaffolded outcome =>
    cases scaffolded with
    | written =>
      refine ⟨_, List.prefix_rfl, ?_, ?_, ?_, Or.inl rfl⟩
      · intro store
        cases outcome <;> simp [onStore, hnative, buildRemarks]
      · cases outcome <;> simp [prints, buildRemarks]
      · cases outcome <;> simp [Move.entries, buildRemarks]

/-- Paths that name the file of a page. -/
def Addressed (options : RunOptions) (batch : Batch) (p : Path) : Prop :=
  ∃ page ∈ batch, page.key ≠ Destination.standardOutputKey ∧
    p.same (outputPath options page) = true

theorem Handed.addressed {done : Delivered} {page : RenderedPage} {r : Except RunError Delivered}
    (h : Handed options done page r moves) {file : Path × String} (hfile : wrote file ∈ moves) :
    Addressed options [page] file.1 := by
  cases h with
  | unprinted | printed | unenclosed => simp at hfile
  | unwritten key e => simp [enclosing] at hfile
  | saved key =>
    have hpath : file.1 = outputPath options page := by
      simp [enclosing, pageFile] at hfile
      exact hfile.1
    exact ⟨page, List.mem_singleton_self page, key, hpath ▸ Path.same_refl _⟩

theorem HandedOut.addressed {done : Delivered} {batch : Batch} {r : Except RunError Delivered}
    (h : HandedOut options done batch r moves) {file : Path × String} (hfile : wrote file ∈ moves) :
    Addressed options batch file.1 := by
  induction h with
  | nil => cases hfile
  | next step behind ih =>
    rcases List.mem_append.mp hfile with hfirst | hothers
    · obtain ⟨page, hpage, haddress⟩ := step.addressed hfirst
      exact ⟨page, by simp [List.mem_singleton.mp hpage], haddress⟩
    · obtain ⟨page, hpage, haddress⟩ := ih hothers
      exact ⟨page, List.mem_cons_of_mem _ hpage, haddress⟩
  | failed step =>
    obtain ⟨page, hpage, haddress⟩ := step.addressed hfile
    exact ⟨page, by simp [List.mem_singleton.mp hpage], haddress⟩

theorem Distributed.addressed {batch : Batch} {r : Except RunError Delivered}
    (h : Distributed options batch r moves) {file : Path × String} (hfile : wrote file ∈ moves) :
    Addressed options batch file.1 := by
  cases h with
  | failed handed => exact HandedOut.addressed handed hfile
  | unflushed handed e => exact HandedOut.addressed handed (by simpa using hfile)
  | flushed handed => exact HandedOut.addressed handed (by simpa using hfile)

/-- How far a run has come, by the stages that it tells, and what it has changed by then. -/
inductive Progress (s : Surroundings) (options : RunOptions) (source : RunSource) (start : Stage)
    (b : Bench) (told : List Event) (b' : Bench) : Prop
  | loading (early : entered told ⊆ [.configLoaded]) (store : b'.store = b.store)
      (output : b'.output = b.output) (calls : b'.calls = b.calls)
  | working (scaffold : Scaffold) (written : List (Path × String))
      (patched : Stage.manifestPatched ∈ entered told)
      (undelivered : Stage.distributing ∉ entered told) (output : b'.output = b.output)
      (manifest : manifestIn options b.store = .ok (scaffold.manifest, scaffold.projectName))
      (initial : written <+: scaffold.files options.workspace)
      (files : b'.store.files = (b.store.writeAll written).files)
      (complete : written = scaffold.files options.workspace ∨
        entered told = [.configLoaded, .manifestPatched])
  | distributing (scaffold : Scaffold) (batch : Batch)
      (patched : Stage.manifestPatched ∈ entered told)
      (begun : Stage.distributing ∈ entered told)
      (manifest : manifestIn options b.store = .ok (scaffold.manifest, scaffold.projectName))
      (returned : Returned s options source start b batch)
      (others : ∀ p,
        b'.store.file? p ≠ (b.store.writeAll (scaffold.files options.workspace)).file? p →
          Addressed options batch p)

section Phases

variable {loaded : Loaded} {scaffold : Scaffold} {first generation last : List Move}
  (loads : LoadedAll options source (.ok (loaded, scaffold)) first)

include loads

/-- A run that has not come to a batch: the files have been generated, or some of them. -/
theorem Progress.of_generated {r : Except RunError BuildOutcome}
    (generated : Generated options scaffold r generation)
    (quiet : last = [] ∨ r.isOk = true ∧ ∃ answer, last = [.call (.render options.workspace answer)])
    (follows : Follows s.host stage (first ++ (generation ++ last)) b b') :
    Progress s options source stage b (told stage (first ++ (generation ++ last))) b' := by
  obtain ⟨b₁, hfirst, hrest⟩ := Follows.append_iff.mp follows
  obtain ⟨written, initial, files, unprinted, undelivered, complete⟩ := generated.exists_written
  have hentered := loads.entries_of_ok
  have hlast : Move.entries last = [] ∧ last.any prints = false ∧
      ∀ store, storeAfter store last = store := by
    rcases quiet with rfl | ⟨-, answer, rfl⟩ <;> exact ⟨rfl, rfl, fun _ => rfl⟩
  obtain ⟨hentries, hprints, hstore⟩ := hlast
  have hmanifest := manifestIn_of_loadAllIn (congrArg (·.1.1) (loads.eq_loadAllIn hfirst))
  refine .working scaffold written ?_ ?_ ?_ hmanifest initial ?_ ?_
  · simp [hentered]
  · simp [hentered, hentries, undelivered]
  · rw [hrest.effect.output (by simp [unprinted, hprints])]
    simp [hfirst.eq_tell loads.looks]
  · simp [hrest.effect.store, hstore, files, hfirst.eq_tell loads.looks]
  · refine complete.imp_right ?_
    rintro ⟨hgeneration, herror⟩
    have hnone : last = [] := quiet.resolve_right fun h => by rw [herror] at h; cases h.1
    simp [hentered, hgeneration, hnone]

/-- A run that has come to a batch. -/
theorem Progress.of_distributed
    (makesLoading : Makes (fun _ host => loadAll host options source) (.ok (loaded, scaffold)) first)
    {outcome : BuildOutcome} (generated : Generated options scaffold (.ok outcome) generation)
    (makesGenerating : Makes (fun _ host => generate host options scaffold) (.ok outcome) generation)
    {batch : Batch} {r : Except RunError Delivered} {distribution : List Move}
    (distributed : Distributed options batch r distribution) (looks : last.all Move.looks = true)
    (follows : Follows s.host stage (first ++ (generation ++
      .call (.render options.workspace (.ok batch)) :: .enter .distributing ::
        (distribution ++ last))) b b') :
    Progress s options source stage b (told stage (first ++ (generation ++
      .call (.render options.workspace (.ok batch)) :: .enter .distributing ::
        (distribution ++ last)))) b' := by
  obtain ⟨b₁, hfirst, hrest⟩ := Follows.append_iff.mp follows
  obtain ⟨b₂, hgeneration, hrest⟩ := Follows.append_iff.mp hrest
  obtain ⟨b₃, hrender, hrest⟩ := Follows.cons_iff.mp hrest
  obtain ⟨hbatch, rfl⟩ := answers_render.mp (allows_call.mp hrender)
  obtain ⟨written, -, files, -, -, complete⟩ := generated.exists_written
  obtain rfl : written = scaffold.files options.workspace :=
    complete.resolve_right fun h => by cases h.2
  have hmanifest := manifestIn_of_loadAllIn (congrArg (·.1.1) (loads.eq_loadAllIn hfirst))
  have hentered := loads.entries_of_ok
  have hprepare := prepare_of_makes options makesLoading makesGenerating hfirst hgeneration
  refine .distributing scaffold batch ?_ ?_ hmanifest ⟨_, _, _, hprepare, hbatch.symm⟩ ?_
  · simp [hentered]
  · simp [Move.entries]
  · -- What has changed since the files were generated has been written for a page.
    intro p hp
    have hgenerated : b₂.store.file? p =
        (b.store.writeAll (scaffold.files options.workspace)).file? p := by
      refine Store.file?_congr ?_ p
      rw [hgeneration.effect.store, files, hfirst.eq_tell loads.looks, Bench.tell_store]
    rw [hrest.effect.store, called_store, ← hgenerated] at hp
    obtain ⟨file, hfile, hsame⟩ := exists_wrote hp
    rcases List.mem_append.mp (List.mem_of_ne_of_mem (by simp) hfile) with hfile | hlast
    · obtain ⟨page, hpage, key, haddress⟩ := distributed.addressed hfile
      rw [← Path.same_congr hsame] at haddress
      exact ⟨page, hpage, key, haddress⟩
    · exact absurd (List.all_eq_true.mp looks _ hlast) (by simp [Move.looks])

end Phases

theorem execute_progress {r : Except RunError RunReport}
    (h : execute s.host options source stage b = ((r, stage'), b')) :
    ∃ told, b'.log = b.log ++ told ∧ Progress s options source stage b told b' := by
  obtain ⟨moves, ended, -, follows, -⟩ := (execute_leads_makes options source).of_eq h
  refine ⟨told stage moves, follows.effect.log, ?_⟩
  cases ended with
  | unloaded loads =>
    have hbench := follows.eq_tell loads.1.looks
    have hearly : entered (told stage moves) ⊆ [.configLoaded] := by
      rw [entered_told]
      exact loads.1.entries_of_error
    rw [hbench]
    exact .loading hearly rfl rfl rfl
  | failed loads worked =>
    cases worked with
    | ungenerated generated =>
      rw [← List.append_nil (_ ++ _), List.append_assoc] at follows ⊢
      exact .of_generated loads.1 generated.1 (Or.inl rfl) follows
    | unrendered generated e =>
      exact .of_generated loads.1 generated.1 (Or.inr ⟨rfl, _, rfl⟩) follows
    | @undelivered outcome batch e generation more generated distributed =>
      rw [← List.append_nil more] at follows ⊢
      exact .of_distributed loads.1 loads.2 generated.1 generated.2 distributed rfl follows
  | done loads worked =>
    cases worked with
    | delivered generated distributed =>
      simp only [List.append_assoc, List.cons_append] at follows ⊢
      exact .of_distributed loads.1 loads.2 generated.1 generated.2 distributed rfl follows

/-- What the events of a run say about the bench that it leaves. -/
structure AbortSafe (s : Surroundings) (options : RunOptions) (source : RunSource) (start : Stage)
    (b : Bench) (failed : Prop) (told : List Event) (b' : Bench) : Prop where
  /-- While the configuration or the manifest is loaded. -/
  loading : failed → Stage.manifestPatched ∉ entered told →
    b'.store = b.store ∧ b'.output = b.output ∧ b'.calls = b.calls
  /-- While the files are written, compiled or run. -/
  working : failed → Stage.manifestPatched ∈ entered told → Stage.distributing ∉ entered told →
    b'.output = b.output ∧ ∃ written : List (Path × String),
      written.map (·.1) <+: options.workspace.files ∧
      b'.store.files = (b.store.writeAll written).files ∧
      (Stage.compiling ∈ entered told → written.map (·.1) = options.workspace.files)
  /-- Always. -/
  changed : ∀ p, b'.store.file? p ≠ b.store.file? p →
    (∃ file ∈ options.workspace.files, p.same file = true) ∨
      ∃ batch, Returned s options source start b batch ∧ Addressed options batch p

/-- A file that differs after some writes is one of those written. -/
theorem same_of_written {files : List Path} {written : List (Path × String)} {store store' : Store}
    (hinitial : written.map (·.1) <+: files)
    (hstore : store'.files = (store.writeAll written).files) {p : Path}
    (hp : store'.file? p ≠ store.file? p) : ∃ file ∈ files, p.same file = true := by
  rw [Store.file?_congr hstore] at hp
  by_cases h : ∃ f ∈ written, p.same f.1 = true
  · obtain ⟨f, hf, hsame⟩ := h
    exact ⟨f.1, hinitial.subset (List.mem_map_of_mem hf), hsame⟩
  · refine absurd (Store.file?_writeAll_of_forall store ?_) hp
    intro f hf
    exact Bool.eq_false_iff.mpr fun hsame => h ⟨f, hf, hsame⟩

theorem execute_abortSafe {r : Except RunError RunReport}
    (h : execute s.host options source stage b = ((r, stage'), b')) :
    ∃ told, b'.log = b.log ++ told ∧
      AbortSafe s options source stage b (∃ e, r = .error e) told b' := by
  obtain ⟨told, hlog, progress⟩ := execute_progress h
  refine ⟨told, hlog, ?_⟩
  cases progress with
  | loading early store output calls =>
    have unpatched : Stage.manifestPatched ∉ entered told :=
      fun hin => absurd (early hin) (by decide)
    refine ⟨fun _ _ => ⟨store, output, calls⟩, fun _ h => absurd h unpatched, ?_⟩
    intro p hp
    exact absurd (by rw [store]) hp
  | working scaffold written patched undelivered output manifest initial files complete =>
    have hpaths : written.map (·.1) <+: options.workspace.files := by
      rw [← Scaffold.map_fst_files scaffold]
      exact initial.map _
    refine ⟨fun _ h => absurd patched h, fun _ _ _ => ⟨output, written, hpaths, files, ?_⟩, ?_⟩
    · intro hcompiling
      rcases complete with rfl | hentered
      · rfl
      · rw [hentered] at hcompiling
        exact absurd hcompiling (by decide)
    · intro p hp
      exact Or.inl (same_of_written hpaths files hp)
  | distributing scaffold batch patched begun manifest returned others =>
    have hpaths := Scaffold.map_fst_files scaffold options.workspace
    refine ⟨fun _ h => absurd patched h, fun _ _ h => absurd begun h, ?_⟩
    intro p hp
    by_cases hkept : b'.store.file? p =
        (b.store.writeAll (scaffold.files options.workspace)).file? p
    · rw [hkept] at hp
      exact Or.inl (same_of_written (hpaths ▸ List.prefix_refl _) rfl hp)
    · exact Or.inr ⟨batch, returned, others p hkept⟩

/-- Whatever fails in a run and whatever the tools answer: a run that fails while loading has done
nothing but told of it; one that fails before the pages are handed out has printed nothing and has
written a leading part of the generated files, all of them once it compiles; and every run leaves
alone all files but the generated ones and those that the returned batch names. -/
theorem run_abortSafe (s : Surroundings) (options : RunOptions) (source : RunSource)
    (start : Stage) (b : Bench) :
    ∃ result stage b' told, run s.host options source start b = ((result, stage), b') ∧
      b'.log = b.log ++ told ∧
      AbortSafe s options source start b (∃ e, result = .error e) told b' := by
  rcases hexecute : execute s.host options source start b with ⟨⟨e | report, stage⟩, b'⟩
  · obtain ⟨told, hlog, hsafe⟩ := execute_abortSafe hexecute
    have hfailed : ∃ e', (.error e : Except RunError RunReport) = .error e' := ⟨e, rfl⟩
    refine ⟨_, _, _, told ++ [.aborted stage e], run_of_error hexecute, ?_, ?_, ?_, hsafe.changed⟩
    · simp [hlog]
    · rw [entered_concat_aborted]
      exact fun _ => hsafe.loading hfailed
    · rw [entered_concat_aborted]
      exact fun _ => hsafe.working hfailed
  · obtain ⟨told, hlog, hsafe⟩ := execute_abortSafe hexecute
    exact ⟨_, _, _, told, run_of_ok hexecute, hlog, hsafe⟩

end Run

end ElmPrerender
