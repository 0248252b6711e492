import Mathlib.Data.List.Basic
import ElmPrerender.Proofs.Run.Dropping
import ElmPrerender.Proofs.Run.Rerun

/-!
# Two runs, with and without the members that are left out

The second run is on a bench on which the list of pages lacks those members. It ends in the same
way, and it does the same acts but for telling what the first run leaves out.
-/

namespace ElmPrerender.Run

open Move

variable {s : Surroundings} {options : RunOptions} {source : RunSource} {start stage stage' : Stage}
  {b b' : Bench}

/-- How a run ends whose files were loaded, and what it tells last. -/
def ending (loaded : Loaded) (stage : Stage) :
    Except RunError (BuildOutcome × Delivered) → (Except RunError RunReport × Stage) × Event
  | .error e => ((.error e, .aborted), .aborted stage e)
  | .ok worked => ((.ok (reportOf loaded worked), stage),
      .finished worked.2.filesWritten.length worked.2.printed loaded.dropped.length)

theorem after_run (b : Bench) (told : List Event) (acts : List Act) (last : Event) :
    b.after (told.map .told ++ (acts ++ [.told last])) =
      ((b.tell told).after acts).tell [last] := by
  rw [Bench.after_append, Bench.after_told, Bench.after_append]
  rfl

theorem run_of_unloaded {e : RunError} {told : List Event}
    (h : loadAllIn options b.store source start = ((.error e, stage), told)) :
    run s.host options source start b =
      ((.error e, .aborted), b.after (told.map .told ++ [.told (.aborted stage e)])) := by
  have hload := loadAll_apply s options source start b
  rw [h] at hload
  have hexecute : execute s.host options source start b = ((.error e, stage), b.tell told) := by
    rw [execute_eq]
    exact bind_of_error hload
  rw [run_of_error hexecute]
  exact congrArg (Prod.mk _) (after_run b told [] _).symm

theorem run_of_loaded {loaded : Loaded} {scaffold : Scaffold} {told : List Event}
    {r : Except RunError (BuildOutcome × Delivered)} {acts : List Act}
    (h : loadAllIn options b.store source start = ((.ok (loaded, scaffold), stage), told))
    (worked : work s.host options scaffold stage (b.tell told) =
      ((r, stage'), (b.tell told).after acts)) :
    run s.host options source start b = ((ending loaded stage' r).1,
      b.after (told.map .told ++ (acts ++ [.told (ending loaded stage' r).2]))) := by
  have hload := loadAll_apply s options source start b
  rw [h] at hload
  rw [after_run]
  cases r with
  | error e =>
    have hexecute : execute s.host options source start b =
        ((.error e, stage'), (b.tell told).after acts) := by
      rw [execute_eq, bind_of_ok hload]
      exact bind_of_error worked
    exact run_of_error hexecute
  | ok done =>
    have hexecute : execute s.host options source start b =
        ((.ok (reportOf loaded done), stage'), ((b.tell told).after acts).tell
          [(ending loaded stage' (.ok done)).2]) := by
      rw [execute_eq, bind_of_ok hload, finish, bind_of_ok worked]
      exact bind_of_ok (log_apply s _ _ _)
    exact run_of_ok hexecute

theorem returned_iff_of_loaded {loaded : Loaded} {scaffold : Scaffold} {told : List Event}
    (h : loadAllIn options b.store source start = ((.ok (loaded, scaffold), stage), told))
    (batch : Batch) :
    Returned s options source start b batch ↔
      ∃ outcome stage₁ b₁, generate s.host options scaffold stage (b.tell told) =
        ((.ok outcome, stage₁), b₁) ∧ s.render b₁ options.workspace = .ok batch := by
  have hload := loadAll_apply s options source start b
  rw [h] at hload
  constructor
  · rintro ⟨ready, stage₁, b₁, hprepare, hrender⟩
    rw [prepare, bind_of_ok hload] at hprepare
    dsimp only at hprepare
    obtain ⟨r, hgenerate, hr⟩ := bind_pure_cases hprepare
    cases r with
    | error e => cases hr
    | ok outcome => exact ⟨outcome, stage₁, b₁, hgenerate, hrender⟩
  · rintro ⟨outcome, stage₁, b₁, hgenerate, hrender⟩
    refine ⟨(loaded, outcome), stage₁, b₁, ?_, hrender⟩
    rw [prepare, bind_of_ok hload]
    dsimp only
    rw [bind_of_ok hgenerate, pure_apply]

theorem not_returned_of_unloaded {e : RunError} {told : List Event}
    (h : loadAllIn options b.store source start = ((.error e, stage), told)) (batch : Batch) :
    ¬ Returned s options source start b batch := by
  rintro ⟨ready, stage₁, b₁, hprepare, -⟩
  have hload := loadAll_apply s options source start b
  rw [h] at hload
  rw [prepare, bind_of_error hload] at hprepare
  cases hprepare

/-- Runs that make the same files are handed the same batches. -/
theorem returned_of_alike {hidden : Path} (overlooks : s.Overlooks options hidden)
    (alike : AlikeBut hidden [] b b') {scaffold : Scaffold} {batch : Batch} {outcome : BuildOutcome}
    {b₁ : Bench} (generated : generate s.host options scaffold stage b = ((.ok outcome, stage'), b₁))
    (rendered : s.render b₁ options.workspace = .ok batch) :
    ∃ b₁', generate s.host options scaffold stage b' = ((.ok outcome, stage'), b₁') ∧
      s.render b₁' options.workspace = .ok batch := by
  obtain ⟨moves, hmoves, makes, follows, rfl⟩ := (generate_leads options scaffold).of_eq generated
  obtain ⟨acts, -, rfl, follows', alike⟩ := follows.alike overlooks alike hmoves.overlooked
  have written := alike.mono hmoves.writes_of_ok
  exact ⟨b'.after acts, makes follows', (overlooks.renders written).trans rendered⟩

theorem returned_iff_of_alike {hidden : Path} (overlooks : s.Overlooks options hidden)
    (alike : AlikeBut hidden [] b b') {loaded loaded' : Loaded} {scaffold : Scaffold}
    {told told' : List Event}
    (loads : loadAllIn options b.store source start = ((.ok (loaded, scaffold), stage), told))
    (loads' : loadAllIn options b'.store source start = ((.ok (loaded', scaffold), stage), told'))
    (batch : Batch) :
    Returned s options source start b' batch ↔ Returned s options source start b batch := by
  rw [returned_iff_of_loaded loads, returned_iff_of_loaded loads']
  constructor
  · rintro ⟨outcome, stage₁, b₁, hgenerate, hrender⟩
    have halike := (alike.tell told told').symm
    exact ⟨outcome, stage₁, returned_of_alike overlooks halike hgenerate hrender⟩
  · rintro ⟨outcome, stage₁, b₁, hgenerate, hrender⟩
    have halike := alike.tell told told'
    exact ⟨outcome, stage₁, returned_of_alike overlooks halike hgenerate hrender⟩

section Lists

variable {path : Path} {text text' : String} {c c' : ConfigFile}
  (stored : b.store.file? (options.invocation.join path) = some text)
  (stored' : b'.store.file? (options.invocation.join path) = some text')
  (parsed : ConfigFile.parse text = .ok c) (parsed' : ConfigFile.parse text' = .ok c')
  (alike : AlikeBut (options.invocation.join path) [] b b')

include stored parsed

theorem pendingIn_of_parse {pending : List SourceTargets} (normal : c.sources = .ok pending) :
    pendingIn options b.store (.configFile path) = .ok pending := by
  rw [pendingIn, Store.read, stored]
  simp only [listRead, parsed, Except.bind, normal]
  rfl

include alike

/-- The list itself declares no module, and all other files are the same. -/
theorem sameModules_of_alike (pending : List SourceTargets) :
    SameModules options b.store b'.store pending := by
  intro source _ name h
  by_cases hlist : (options.invocation.join source.source).same (options.invocation.join path) = true
  · exfalso
    rw [moduleIn, Store.read, Store.file?_of_same _ hlist, stored] at h
    simp only [moduleRead, ConfigFile.ofSource_of_parse parsed] at h
    cases h
  · have htext := alike.texts (options.invocation.join source.source)
      (Or.inl (Bool.eq_false_iff.mpr hlist))
    rw [moduleIn, Store.read, htext]
    exact h

include stored' parsed'

/-- The manifest is another file, or it is the list, which is no manifest with or without the
members. -/
theorem manifestIn_of_alike (bracket : ConfigFile.opening text' = ConfigFile.opening text) :
    manifestIn options b'.store = manifestIn options b.store := by
  by_cases hlist : (manifestPath options).same (options.invocation.join path) = true
  · have hpatched : patchedManifest options text' = patchedManifest options text := by
      have hbrackets : some (Json.byte '{') ≠ some (Json.byte '[') := by decide
      rw [patchedManifest, patchedManifest]
      rcases ConfigFile.manifest_of_parse parsed with ⟨hopening, hmanifest⟩ | ⟨hopening, hmanifest⟩
      · rcases ConfigFile.manifest_of_parse parsed' with
          ⟨hopening', hmanifest'⟩ | ⟨hopening', hmanifest'⟩
        · rw [hmanifest, hmanifest']
          rfl
        · rw [hopening, hopening'] at bracket
          exact absurd bracket.symm hbrackets
      · rcases ConfigFile.manifest_of_parse parsed' with
          ⟨hopening', hmanifest'⟩ | ⟨hopening', hmanifest'⟩
        · rw [hopening, hopening'] at bracket
          exact absurd bracket hbrackets
        · rw [hmanifest, hmanifest']
    rw [manifestIn, manifestIn, Store.read, Store.read, Store.file?_of_same _ hlist,
      Store.file?_of_same _ hlist, stored, stored']
    simp only [manifestRead, hpatched]
  · have htext := alike.texts (manifestPath options) (Or.inl (Bool.eq_false_iff.mpr hlist))
    rw [manifestIn, manifestIn, Store.read, Store.read, htext]

end Lists

section Told

variable (options : RunOptions) (store : Store) (path : Path) (pending : List SourceTargets)

/-- All acts of a run that leaves some sources out. -/
def actsFrom (later : List Act) : List Act :=
  (.usingConfig path :: skippedEvents options store pending : List Event).map .told ++ later

theorem withoutDropped_actsFrom (later : List Act) :
    (actsFrom options store path pending later).filterMap Act.withoutDropped =
      .told (.usingConfig path) :: later.filterMap Act.withoutDropped := by
  have hfirst : Act.withoutDropped (.told (.usingConfig path)) =
      some (.told (.usingConfig path)) := rfl
  rw [actsFrom, List.map_cons, List.cons_append, List.filterMap_cons_some hfirst,
    List.filterMap_append, filterMap_skippedEvents, List.nil_append]

theorem skipped?_actsFrom (later : List Act) :
    (actsFrom options store path pending later).filterMap Act.skipped? =
      droppedSources options store pending ++ later.filterMap Act.skipped? := by
  have hfirst : Act.skipped? (.told (.usingConfig path)) = none := rfl
  rw [actsFrom, List.map_cons, List.cons_append, List.filterMap_cons_none hfirst,
    List.filterMap_append, skipped?_skippedEvents]

end Told

theorem plain_transitions (before after last : Stage) :
    ∀ a ∈ [.transition before after, .transition after last].map Act.told, a.Plain := by
  rintro a ha
  simp only [List.map_cons, List.map_nil, List.mem_cons, List.not_mem_nil, or_false] at ha
  rcases ha with rfl | rfl <;> rfl

theorem ending_dropped (config : RenderConfiguration) (dropped : List Path) (stage : Stage)
    (r : Except RunError (BuildOutcome × Delivered)) :
    (ending ⟨config, dropped⟩ stage r).1 =
        ((ending ⟨config, []⟩ stage r).1.1.map fun report => { report with dropped := dropped },
          (ending ⟨config, []⟩ stage r).1.2) ∧
      Act.withoutDropped (.told (ending ⟨config, dropped⟩ stage r).2) =
        some (.told (ending ⟨config, []⟩ stage r).2) ∧
      Act.skipped? (.told (ending ⟨config, dropped⟩ stage r).2) = none := by
  cases r with
  | error e => exact ⟨rfl, rfl, rfl⟩
  | ok worked => exact ⟨rfl, rfl, rfl⟩

/-- Two runs that do the same, but for the sources that only the first one leaves out. -/
def AlikeRuns (s : Surroundings) (options : RunOptions) (path : Path) (start : Stage) (b b' : Bench)
    (dropped : List Path) : Prop :=
  ∃ (result : Except RunError RunReport) (stage : Stage) (acts : List Act),
    run s.host options (.configFile path) start b =
      ((result.map fun report => { report with dropped := dropped }, stage), b.after acts) ∧
    acts.filterMap Act.skipped? = dropped ∧
    run s.host options (.configFile path) start b' =
      ((result.map fun report => { report with dropped := [] }, stage),
        b'.after (acts.filterMap Act.withoutDropped))

/-- The two runs if both end while the manifest is loaded. -/
theorem run_unloaded_pair {path : Path} {pending : List SourceTargets} {e : RunError}
    (loads : loadAllIn options b.store (.configFile path) start = ((.error e, .configLoaded),
      (.usingConfig path :: skippedEvents options b.store pending) ++
        [.transition start .configLoaded]))
    (loads' : loadAllIn options b'.store (.configFile path) start = ((.error e, .configLoaded),
      [.usingConfig path, .transition start .configLoaded])) :
    AlikeRuns s options path start b b' (droppedSources options b.store pending) := by
  refine ⟨.error e, .aborted, actsFrom options b.store path pending
    ([.transition start .configLoaded, .aborted .configLoaded e].map .told), ?_, ?_, ?_⟩
  · rw [run_of_unloaded loads, List.map_append, List.append_assoc]
    rfl
  · rw [skipped?_actsFrom]
    exact List.append_nil _
  · rw [run_of_unloaded loads', withoutDropped_actsFrom]
    rfl

/-- The two runs from the first write on. -/
theorem run_loaded_pair {path : Path} {pending : List SourceTargets} {config : RenderConfiguration}
    {scaffold : Scaffold} {hidden : Path} (overlooks : s.Overlooks options hidden)
    (alike : AlikeBut hidden [] b b')
    (loads : loadAllIn options b.store (.configFile path) start =
      ((.ok (⟨config, droppedSources options b.store pending⟩, scaffold), .manifestPatched),
        (.usingConfig path :: skippedEvents options b.store pending) ++
          [.transition start .configLoaded, .transition .configLoaded .manifestPatched]))
    (loads' : loadAllIn options b'.store (.configFile path) start =
      ((.ok (⟨config, []⟩, scaffold), .manifestPatched), [.usingConfig path,
        .transition start .configLoaded, .transition .configLoaded .manifestPatched])) :
    AlikeRuns s options path start b b' (droppedSources options b.store pending) := by
  obtain ⟨r, moves, b₁, worked, makes, follows⟩ :=
    work_leads options (generate_leads options scaffold) Bench s.host .manifestPatched
      (b.tell ((.usingConfig path :: skippedEvents options b.store pending) ++
        [.transition start .configLoaded, .transition .configLoaded .manifestPatched]))
  obtain ⟨acts, plain, rfl, follows', -⟩ :=
    follows.alike overlooks (alike.tell _ _) worked.overlooked
  have hrun := run_of_loaded loads (makes follows)
  have hrun' := run_of_loaded loads' (makes follows')
  generalize stageAfter .manifestPatched moves = stage' at hrun hrun'
  obtain ⟨hending, hlast, hquiet⟩ :=
    ending_dropped config (droppedSources options b.store pending) stage' r
  have hplain := plain_transitions start .configLoaded .manifestPatched
  refine ⟨(ending ⟨config, []⟩ stage' r).1.1, (ending ⟨config, []⟩ stage' r).1.2,
    actsFrom options b.store path pending
      ([.transition start .configLoaded, .transition .configLoaded .manifestPatched].map .told ++
        (acts ++ [.told (ending ⟨config, droppedSources options b.store pending⟩ stage' r).2])),
    ?_, ?_, ?_⟩
  · rw [hrun, hending, List.map_append, List.append_assoc]
    rfl
  · rw [skipped?_actsFrom, List.filterMap_append, filterMap_skipped?_of_plain hplain,
      List.filterMap_append, filterMap_skipped?_of_plain plain,
      List.filterMap_cons_none hquiet]
    exact List.append_nil _
  · rw [hrun', withoutDropped_actsFrom, List.filterMap_append, filterMap_withoutDropped hplain,
      List.filterMap_append, filterMap_withoutDropped plain, List.filterMap_cons_some hlast]
    cases r with
    | error e => rfl
    | ok worked => rfl

/-- A list all of whose entries are accepted, and whose retained sources are different paths, is
loaded: each source that is missing or declares no usable module is left out and told once, all
others are modules, in the order of the list. A run does the same as on a bench that is alike but
has the list without the members that are left out: it reports and tells what it leaves out, and
that is all. -/
theorem run_without_dropped (s : Surroundings) (options : RunOptions) (path : Path) (start : Stage)
    (b b' : Bench) {text text' : String} {c : ConfigFile} {pending : List SourceTargets}
    (stored : b.store.file? (options.invocation.join path) = some text)
    (parsed : ConfigFile.parse text = .ok c)
    (normal : c.sources = .ok pending)
    (distinct : (retainedSpecs options b.store pending).Pairwise
      fun p q => p.source.same q.source = false)
    (alike : AlikeBut (options.invocation.join path) [] b b')
    (stored' : b'.store.file? (options.invocation.join path) = some text')
    (parsed' : ConfigFile.parse text' = .ok (c.retained options b.store))
    (bracket : ConfigFile.opening text' = ConfigFile.opening text)
    (overlooks : s.Overlooks options (options.invocation.join path)) :
    loadIn options b.store (.configFile path) =
        (.ok ⟨⟨retainedSpecs options b.store pending⟩, droppedSources options b.store pending⟩,
          .usingConfig path :: skippedEvents options b.store pending) ∧
      (∀ batch, Returned s options (.configFile path) start b' batch ↔
        Returned s options (.configFile path) start b batch) ∧
      ∃ (result : Except RunError RunReport) (stage : Stage) (acts : List Act),
        run s.host options (.configFile path) start b =
          ((result.map fun report =>
            { report with dropped := droppedSources options b.store pending }, stage),
            b.after acts) ∧
        acts.filterMap Act.skipped? = droppedSources options b.store pending ∧
        run s.host options (.configFile path) start b' =
          ((result.map fun report => { report with dropped := [] }, stage),
            b'.after (acts.filterMap Act.withoutDropped)) := by
  have hsources : (c.retained options b.store).sources =
      .ok (retainedSources options b.store pending) :=
    ConfigFile.sources_filter normal fun source => (moduleIn options b.store source).toOption.isSome
  have hload := loadIn_eq (pendingIn_of_parse stored parsed normal) distinct
  have hload' := loadIn_retainedSources (pendingIn_of_parse stored' parsed' hsources) distinct
    (sameModules_of_alike stored parsed alike pending)
  have hmanifest := manifestIn_of_alike stored stored' parsed parsed' alike bracket
  refine ⟨hload, ?_⟩
  rcases hfound : manifestIn options b.store with e | ⟨manifest, name⟩
  · -- Both runs end while the manifest is loaded.
    rw [hfound] at hmanifest
    have loads : loadAllIn options b.store (.configFile path) start =
        ((.error e, .configLoaded),
          (.usingConfig path :: skippedEvents options b.store pending) ++
            [.transition start .configLoaded]) := by
      rw [loadAllIn, hload, hfound]
      rfl
    have loads' : loadAllIn options b'.store (.configFile path) start =
        ((.error e, .configLoaded), [.usingConfig path, .transition start .configLoaded]) := by
      rw [loadAllIn, hload', hmanifest]
      rfl
    refine ⟨?_, run_unloaded_pair loads loads'⟩
    intro batch
    exact iff_of_false (not_returned_of_unloaded loads' batch)
      (not_returned_of_unloaded loads batch)
  · -- Both runs make the same files, and go on in the same way.
    rw [hfound] at hmanifest
    have loads : loadAllIn options b.store (.configFile path) start =
        ((.ok (⟨⟨retainedSpecs options b.store pending⟩, droppedSources options b.store pending⟩,
          ⟨⟨retainedSpecs options b.store pending⟩, options.format, manifest, name⟩),
          .manifestPatched),
          (.usingConfig path :: skippedEvents options b.store pending) ++
            [.transition start .configLoaded, .transition .configLoaded .manifestPatched]) := by
      rw [loadAllIn, hload, hfound]
      rfl
    have loads' : loadAllIn options b'.store (.configFile path) start =
        ((.ok (⟨⟨retainedSpecs options b.store pending⟩, []⟩,
          ⟨⟨retainedSpecs options b.store pending⟩, options.format, manifest, name⟩),
          .manifestPatched),
          [.usingConfig path, .transition start .configLoaded,
            .transition .configLoaded .manifestPatched]) := by
      rw [loadAllIn, hload', hmanifest]
      rfl
    exact ⟨returned_iff_of_alike overlooks alike loads loads',
      run_loaded_pair overlooks alike loads loads'⟩

theorem alikeBut_write {hidden : Path} {text : String}
    (there : (b.store.write hidden text).paths = b.store.paths) :
    AlikeBut hidden [] b { b with store := b.store.write hidden text } := by
  refine ⟨there, ?_, rfl, rfl, rfl⟩
  rintro p (hp | ⟨q, hq, -⟩)
  · rw [Store.file?_write, if_neg (by simp [hp])]
  · cases hq

theorem overlooks_programRules (outcome : BuildOutcome)
    (render : Option String → Except ToolchainError Batch) (options : RunOptions) (hidden : Path) :
    (Surroundings.ofRules (programRules outcome render)).Overlooks options hidden := by
  refine ⟨fun _ => rfl, fun _ => rfl, fun _ => rfl, fun _ => rfl, fun _ => rfl, ?_⟩
  intro b b' alike
  have hdriver := alike.texts options.workspace.driver
    (Or.inr ⟨options.workspace.driver, by simp [Workspace.files], Path.same_refl _⟩)
  simp only [Surroundings.ofRules, programRules, hdriver]

/-- The list of the album without its missing source. -/
def shorterList : String := r#"{"files":{"A.elm":"a.html"}}"#

def shorterStore : Store := albumStore.write ⟨"/d/list.json"⟩ shorterList

theorem album_without_dropped :
    ∃ (result : Except RunError RunReport) (stage : Stage) (acts : List Act),
      run (Surroundings.ofRules albumRules).host albumOptions (.configFile ⟨"list.json"⟩) .init
          (.ofStore albumStore) =
        ((result.map fun report => { report with dropped := [⟨"C.elm"⟩] }, stage),
          (Bench.ofStore albumStore).after acts) ∧
      run (Surroundings.ofRules albumRules).host albumOptions (.configFile ⟨"list.json"⟩) .init
          (.ofStore shorterStore) =
        ((result.map fun report => { report with dropped := [] }, stage),
          (Bench.ofStore shorterStore).after (acts.filterMap Act.withoutDropped)) := by
  have hstored : albumStore.file? (albumOptions.invocation.join ⟨"list.json"⟩) = some
      r#"{"files":{"A.elm":"a.html","C.elm":"c.html"}}"# := by
    decide +kernel
  have hparsed : ConfigFile.parse
      r#"{"files":{"A.elm":"a.html","C.elm":"c.html"}}"# =
        .ok ⟨[("A.elm", .string "a.html"), ("C.elm", .string "c.html")]⟩ := by
    decide +kernel
  have hnormal : ConfigFile.sources ⟨[("A.elm", .string "a.html"), ("C.elm", .string "c.html")]⟩ =
      .ok [⟨⟨"A.elm"⟩, [⟨.file ⟨"a.html"⟩, .view⟩]⟩, ⟨⟨"C.elm"⟩, [⟨.file ⟨"c.html"⟩, .view⟩]⟩] := by
    decide +kernel
  have hretained : retainedSpecs albumOptions albumStore
      [⟨⟨"A.elm"⟩, [⟨.file ⟨"a.html"⟩, .view⟩]⟩, ⟨⟨"C.elm"⟩, [⟨.file ⟨"c.html"⟩, .view⟩]⟩] =
        [⟨⟨"A.elm"⟩, ⟨"A"⟩, [⟨.file ⟨"a.html"⟩, .view⟩]⟩] := by
    decide +kernel
  have hdropped : droppedSources albumOptions albumStore
      [⟨⟨"A.elm"⟩, [⟨.file ⟨"a.html"⟩, .view⟩]⟩, ⟨⟨"C.elm"⟩, [⟨.file ⟨"c.html"⟩, .view⟩]⟩] =
        [⟨"C.elm"⟩] := by
    decide +kernel
  have hparsed' : ConfigFile.parse shorterList = .ok (ConfigFile.retained albumOptions albumStore
      ⟨[("A.elm", .string "a.html"), ("C.elm", .string "c.html")]⟩) := by
    decide +kernel
  obtain ⟨-, -, result, stage, acts, hrun, -, hrun'⟩ := run_without_dropped
    (Surroundings.ofRules albumRules) albumOptions ⟨"list.json"⟩ .init (.ofStore albumStore)
    (.ofStore shorterStore) hstored hparsed hnormal
    (by
      have hstore : (Bench.ofStore albumStore).store = albumStore := rfl
      rw [hstore, hretained]
      exact List.pairwise_singleton _ _)
    (alikeBut_write (by decide +kernel)) (by decide +kernel) hparsed' (by decide +kernel)
    (overlooks_programRules _ _ _ _)
  have hstore : (Bench.ofStore albumStore).store = albumStore := rfl
  rw [hstore, hdropped] at hrun
  exact ⟨result, stage, acts, hrun, hrun'⟩

end ElmPrerender.Run
