import ElmPrerender.Proofs.Results
import ElmPrerender.Proofs.Run.Moves
import ElmPrerender.Proofs.Run.Phases

/-!
# The course of a run

Each part of a run is described by all the ways in which it can end, with its moves. What holds of a
run, on whatever it is made, is read off these descriptions.
-/

namespace ElmPrerender

/-- The generated files with their texts. -/
def Scaffold.files (s : Scaffold) (w : Workspace) : List (Path × String) :=
  s.filesWith w s.manifest.text

namespace Move

/-- A file is written. -/
abbrev wrote (file : Path × String) : Move := .call (.write file.1 file.2 (.ok ()))

/-- A directory is made. -/
abbrev made (directory : Path) : Move := .call (.createDirectories directory (.ok ()))

end Move

namespace Run

open Move

variable {α β : Type} (options : RunOptions)

/-- What is told before any source is opened. -/
def sourceEvent : RunSource → Event
  | .file source output => .loadingFile source output
  | .configFile path => .usingConfig path

/-- The sources that are found in the text of a list. -/
def listRead (path : Path) : Except IoError String → Except RunError (List SourceTargets)
  | .error cause => .error (.configUnreadable path cause)
  | .ok text => ((ConfigFile.parse text).bind ConfigFile.sources).mapError .config

/-- The sources are known, or it is known why they are not. -/
inductive SourcesKnown : RunSource → Ends (List SourceTargets)
  | file {source : Path} {output : Option String} {r : Except RunError (List SourceTargets)}
      (accepted : (SourceTargets.ofFile source output).mapError .config = r) :
      SourcesKnown (.file source output) r [.remark (.loadingFile source output) rfl]
  | configFile {path : Path} {r : Except RunError (List SourceTargets)}
      (answer : Except IoError String) (accepted : listRead path answer = r) :
      SourcesKnown (.configFile path) r
        [.remark (.usingConfig path) rfl, .call (.read (options.invocation.join path) answer)]

theorem pendingSources_leads (source : RunSource) :
    Leads (fun _ host => pendingSources host options source) (SourcesKnown options source) := by
  cases source with
  | file source output =>
    unfold pendingSources
    refine Leads.remark _ rfl (Leads.mono (Leads.decided _ _) ?_)
    rintro r moves ⟨rfl, rfl⟩
    exact .file rfl
  | configFile path =>
    unfold pendingSources
    refine Leads.remark _ rfl (Leads.bind
      (Leads.attempt _ (.read (options.invocation.join path)) fun _ _ _ _ _ => Iff.rfl) ?_ ?_)
    · rintro e moves ⟨e⟩
      exact .configFile (.error _) rfl
    · rintro text moves ⟨text⟩
      refine Leads.mono (Leads.decided _ _) ?_
      rintro r moves ⟨rfl, rfl⟩
      exact .configFile (.ok text) rfl

/-- The module that is found in what was read. -/
def moduleRead : Except IoError String → Except SourceProblem ModuleName
  | .error cause => .error (.unreadable cause)
  | .ok text => (ModuleName.ofSource text).mapError .header

/-- A source with what was found when it was opened. -/
abbrev Opened := SourceTargets × Except SourceProblem ModuleName

/-- The sources without a usable module, with what is wrong with them. -/
def problems (opened : List Opened) : List (Path × SourceProblem) :=
  opened.filterMap fun
    | (_, .ok _) => none
    | (t, .error problem) => some (t.source, problem)

/-- What is told of the sources without a usable module. -/
def skips (opened : List Opened) : List Move :=
  (problems opened).map fun p => .remark (.skipped p.1 p.2) rfl

@[simp]
theorem milestones_skips (opened : List Opened) : milestones (skips opened) = skips opened := by
  refine List.filter_eq_self.mpr ?_
  intro move hmove
  obtain ⟨p, -, rfl⟩ := List.mem_map.mp hmove
  rfl

@[simp]
theorem entries_skips (opened : List Opened) : entries (skips opened) = [] := by
  simp [skips, entries]

@[simp]
theorem tools_skips (opened : List Opened) : tools (skips opened) = [] := by
  simp [skips, tools]

/-- An opened source is added or left out. -/
def collectOne (loaded : Loaded) (o : Opened) : Except RunError Loaded :=
  match o.2 with
  | .ok name => ((addModule loaded.config o.1 name).map fun config =>
      { loaded with config := config }).mapError .domain
  | .error _ => .ok { loaded with dropped := loaded.dropped ++ [o.1.source] }

/-- One source is opened, and added or left out. -/
inductive Added (loaded : Loaded) (t : SourceTargets) : Ends Loaded
  | opened {r : Except RunError Loaded} (answer : Except IoError String)
      (collected : collectOne loaded (t, moduleRead answer) = r) :
      Added loaded t r
        (.call (.read (options.invocation.join t.source) answer) :: skips [(t, moduleRead answer)])

theorem moduleOf_eq {m : Type → Type} [Monad m] [LawfulMonad m] (host : RunHost m) (source : Path) :
    moduleOf host options source = moduleRead <$> host.read (options.invocation.join source) := by
  rw [moduleOf, map_eq_pure_bind]
  refine congrArg _ (funext ?_)
  rintro (cause | text) <;> rfl

theorem addSource_leads (loaded : Loaded) (t : SourceTargets) :
    Leads (fun _ host => addSource host options loaded t) (Added options loaded t) := by
  unfold addSource
  simp only [moduleOf_eq]
  refine Leads.bind (Leads.ask (.read (options.invocation.join t.source)) moduleRead
    fun _ _ _ _ _ => Iff.rfl) (fun e moves h => by cases h) ?_
  rintro found moves ⟨answer⟩
  have hopened := fun r => @Added.opened options loaded t r answer
  cases hfound : moduleRead answer with
  | ok name =>
    have hadd : collectOne loaded (t, .ok name) =
        ((addModule loaded.config t name).map fun config =>
          { loaded with config := config }).mapError .domain := rfl
    rw [hfound, hadd] at hopened
    refine Leads.bind (Leads.decided _ _) ?_ ?_
    · rintro e moves ⟨he, rfl⟩
      refine hopened _ ?_
      cases hconfig : addModule loaded.config t name <;> rw [hconfig] at he <;> cases he
      rfl
    · rintro config moves ⟨hconfig, rfl⟩
      refine Leads.pure (hopened _ ?_)
      rw [mapError_eq_ok_iff.mp hconfig.symm]
      rfl
  | error problem =>
    rw [hfound] at hopened
    exact Leads.remark _ rfl (Leads.pure (hopened _ rfl))

/-- All sources are opened, up to the first that cannot be added. -/
abbrev AllAdded : Loaded → List SourceTargets → Ends Loaded := Leads.Folded (Added options)

/-- The manifest that is found in a text, patched, and the name of the project. -/
def manifestRead : Except IoError String → Except RunError (Manifest × ProjectName)
  | .error e => .error (.missingManifest (manifestPath options) (.unreadable e))
  | .ok text => (patchedManifest options text).mapError fun e =>
      .missingManifest (manifestPath options) (.invalid e)

/-- The manifest is only refused over itself. -/
theorem missingManifest_of_manifestRead {answer : Except IoError String} {e : RunError}
    (h : manifestRead options answer = .error e) :
    ∃ problem, e = .missingManifest (manifestPath options) problem := by
  cases answer with
  | error cause =>
    cases h
    exact ⟨_, rfl⟩
  | ok text =>
    rw [manifestRead] at h
    cases hpatched : patchedManifest options text with
    | ok patched =>
      rw [hpatched] at h
      cases h
    | error cause =>
      rw [hpatched] at h
      cases h
      exact ⟨_, rfl⟩

inductive ManifestLoaded : Ends (Manifest × ProjectName)
  | read {r : Except RunError (Manifest × ProjectName)} (answer : Except IoError String)
      (found : manifestRead options answer = r) :
      ManifestLoaded r [.call (.read (manifestPath options) answer)]

theorem loadManifest_leads :
    Leads (fun _ host => loadManifest host options) (ManifestLoaded options) := by
  unfold loadManifest
  refine Leads.bind (Leads.attempt _ (.read (manifestPath options)) fun _ _ _ _ _ => Iff.rfl) ?_ ?_
  · rintro e moves ⟨e⟩
    exact .read (.error _) rfl
  · rintro text moves ⟨text⟩
    refine Leads.mono (Leads.decided _ _) ?_
    rintro r moves ⟨rfl, rfl⟩
    exact .read (.ok text) rfl

/-- What is loaded when the sources are known. -/
inductive LoadedFrom (pending : List SourceTargets) : Ends (Loaded × Scaffold)
  | unadded {e : RunError} {moves : List Move}
      (added : AllAdded options ⟨.empty, []⟩ pending (.error e) moves) :
      LoadedFrom pending (.error e) moves
  | unpatched {loaded : Loaded} {moves : List Move} {answer : Except IoError String} {e : RunError}
      (added : AllAdded options ⟨.empty, []⟩ pending (.ok loaded) moves)
      (refused : manifestRead options answer = .error e) :
      LoadedFrom pending (.error e)
        (moves ++ [.enter .configLoaded, .call (.read (manifestPath options) answer)])
  | loaded {loaded : Loaded} {moves : List Move} {answer : Except IoError String}
      {manifest : Manifest} {name : ProjectName}
      (added : AllAdded options ⟨.empty, []⟩ pending (.ok loaded) moves)
      (accepted : manifestRead options answer = .ok (manifest, name)) :
      LoadedFrom pending (.ok (loaded, ⟨loaded.config, options.format, manifest, name⟩))
        (moves ++ [.enter .configLoaded, .call (.read (manifestPath options) answer),
          .enter .manifestPatched])

theorem loadFrom_leads (pending : List SourceTargets) :
    Leads (fun _ host => loadFrom host options pending) (LoadedFrom options pending) := by
  unfold loadFrom
  refine Leads.bind (Leads.foldlM (addSource_leads options) pending ⟨.empty, []⟩) ?_ ?_
  · exact fun e moves added => .unadded added
  intro loaded moves added
  refine Leads.advance _ (Leads.bind (loadManifest_leads options) ?_ ?_)
  · rintro e read ⟨answer, refused⟩
    exact .unpatched added refused
  · rintro ⟨manifest, name⟩ read ⟨answer, accepted⟩
    exact Leads.advance _ (Leads.pure (.loaded added accepted))

/-- What is loaded from a list of pages or a single file. -/
inductive LoadedAll (source : RunSource) : Ends (Loaded × Scaffold)
  | unknown {e : RunError} {moves : List Move}
      (known : SourcesKnown options source (.error e) moves) : LoadedAll source (.error e) moves
  | known {pending : List SourceTargets} {r : Except RunError (Loaded × Scaffold)}
      {moves more : List Move} (known : SourcesKnown options source (.ok pending) moves)
      (loads : LoadedFrom options pending r more) : LoadedAll source r (moves ++ more)

theorem loadAll_leads (source : RunSource) :
    Leads (fun _ host => loadAll host options source) (LoadedAll options source) := by
  simp only [loadAll_eq]
  refine Leads.bind (pendingSources_leads options source) ?_ ?_
  · exact fun e moves known => .unknown known
  · intro pending moves known
    exact Leads.mono (loadFrom_leads options pending) fun r more loads => .known known loads

/-- The directory of the native module is made, and the generated files are written. -/
inductive ScaffoldWritten (scaffold : Scaffold) : Ends Unit
  | unmade (e : IoError) : ScaffoldWritten scaffold (.error (.io e))
      [.call (.createDirectories options.workspace.native (.error e))]
  | unwritten {written : List (Path × String)} {file : Path × String} (e : IoError)
      (part : written ++ [file] <+: scaffold.files options.workspace) :
      ScaffoldWritten scaffold (.error (.io e)) (made options.workspace.native ::
        (written.map wrote ++ [.call (.write file.1 file.2 (.error e))]))
  | written : ScaffoldWritten scaffold (.ok ()) (made options.workspace.native ::
      ((scaffold.files options.workspace).map wrote ++
        [.remark (.wroteScaffold options.workspace.root scaffold.config.size
          scaffold.config.targetCount) rfl]))

@[simp]
theorem milestones_wrote (files : List (Path × String)) : milestones (files.map wrote) = [] := by
  induction files with
  | nil => rfl
  | cons file rest ih => exact ih

/-- Nothing but the file system gets in the way of the generated files. -/
theorem ScaffoldWritten.passing {scaffold : Scaffold} {r : Except RunError Unit} {moves : List Move}
    (h : ScaffoldWritten options scaffold r moves) :
    milestones moves = [] ∧ ∀ e, r = .error e → ∃ cause, e = .io cause := by
  cases h with
  | unmade e =>
    refine ⟨rfl, ?_⟩
    rintro _ ⟨⟩
    exact ⟨e, rfl⟩
  | unwritten e part =>
    refine ⟨by simp [isMilestone], ?_⟩
    rintro _ ⟨⟩
    exact ⟨e, rfl⟩
  | written =>
    refine ⟨by simp [isMilestone], ?_⟩
    rintro _ ⟨⟩

/-- Files are written in order, up to the first that cannot be written. -/
inductive FilesWritten (files : List (Path × String)) : Ends Unit
  | failed {written : List (Path × String)} {file : Path × String} (e : IoError)
      (part : written ++ [file] <+: files) :
      FilesWritten files (.error (.io e))
        (written.map wrote ++ [.call (.write file.1 file.2 (.error e))])
  | done : FilesWritten files (.ok ()) (files.map wrote)

theorem writeFile_leads (file : Path × String) :
    Leads (fun _ host => writeFile host file) (Leads.Tried .io (.write file.1 file.2)) :=
  Leads.attempt .io (.write file.1 file.2) fun _ _ _ _ _ => Iff.rfl

theorem writeFiles_leads (files : List (Path × String)) :
    Leads (fun _ host => files.forM (writeFile host)) (FilesWritten files) := by
  induction files with
  | nil => exact Leads.pure .done
  | cons file rest ih =>
    refine Leads.bind (writeFile_leads file) ?_ ?_
    · rintro e moves ⟨e⟩
      exact @FilesWritten.failed _ [] file e (List.prefix_append [file] rest)
    · rintro ⟨⟩ moves ⟨⟨⟩⟩
      refine Leads.mono ih ?_
      rintro r moves (@⟨written, next, e, part⟩ | ⟨⟩)
      · exact @FilesWritten.failed _ (file :: written) next e
          (List.cons_prefix_cons.mpr ⟨rfl, part⟩)
      · exact .done

theorem writeScaffold_leads (scaffold : Scaffold) :
    Leads (fun _ host => writeScaffold host options scaffold)
      (ScaffoldWritten options scaffold) := by
  have hencode : scaffold.manifest.encode = .ok scaffold.manifest.text := rfl
  unfold writeScaffold
  simp only [hencode, decided, pure_bind]
  refine Leads.bind (Leads.attempt .io (.createDirectories options.workspace.native)
    fun _ _ _ _ _ => Iff.rfl) ?_ ?_
  · rintro e moves ⟨e⟩
    exact .unmade e
  rintro ⟨⟩ moves ⟨⟨⟩⟩
  refine Leads.bind (writeFiles_leads _) ?_ ?_
  · rintro e moves ⟨e, part⟩
    exact .unwritten e part
  · rintro ⟨⟩ moves ⟨⟩
    refine Leads.mono (Leads.told _ rfl) ?_
    rintro r moves ⟨rfl, rfl⟩
    exact .written

/-- What is told of a compiler that has ended. -/
def buildRemarks : BuildOutcome → List Move
  | .failed code => [.remark (.buildFailed code) rfl]
  | .built _ => []

@[simp]
theorem milestones_buildRemarks (outcome : BuildOutcome) :
    milestones (buildRemarks outcome) = [] := by
  cases outcome <;> rfl

/-- The compiler is called. -/
inductive Built : Ends BuildOutcome
  | failed (e : ToolchainError) :
      Built (.error (.toolchain e)) [.call (.build options.workspace (.error e))]
  | ended (outcome : BuildOutcome) : Built (.ok outcome)
      (.call (.build options.workspace (.ok outcome)) :: buildRemarks outcome)

theorem build_leads : Leads (fun _ host => build host options) (Built options) := by
  unfold build
  refine Leads.bind (Leads.attempt .toolchain (.build options.workspace)
    fun _ _ _ _ _ => Iff.rfl) ?_ ?_
  · rintro e moves ⟨e⟩
    exact .failed e
  rintro outcome moves ⟨outcome⟩
  cases outcome with
  | built artifact => exact Leads.pure (.ended (.built artifact))
  | failed code => exact Leads.remark _ rfl (Leads.pure (.ended (.failed code)))

/-- The files are generated, and the compiler is called. -/
inductive Generated (scaffold : Scaffold) : Ends BuildOutcome
  | unwritten {e : RunError} {moves : List Move}
      (scaffolded : ScaffoldWritten options scaffold (.error e) moves) :
      Generated scaffold (.error e) moves
  | uncompiled {moves : List Move} (scaffolded : ScaffoldWritten options scaffold (.ok ()) moves)
      (e : ToolchainError) : Generated scaffold (.error (.toolchain e))
        (moves ++ [.enter .scaffoldWritten, .enter .compiling,
          .call (.build options.workspace (.error e))])
  | compiled {moves : List Move} (scaffolded : ScaffoldWritten options scaffold (.ok ()) moves)
      (outcome : BuildOutcome) : Generated scaffold (.ok outcome)
        (moves ++ .enter .scaffoldWritten :: .enter .compiling ::
          .call (.build options.workspace (.ok outcome)) ::
          (buildRemarks outcome ++ [.enter .running]))

theorem generate_leads (scaffold : Scaffold) :
    Leads (fun _ host => generate host options scaffold) (Generated options scaffold) := by
  unfold generate
  refine Leads.bind (writeScaffold_leads options scaffold) ?_ ?_
  · exact fun e moves scaffolded => .unwritten scaffolded
  rintro ⟨⟩ moves scaffolded
  refine Leads.advance _ (Leads.advance _ (Leads.bind (build_leads options) ?_ ?_))
  · rintro e more ⟨e⟩
    exact .uncompiled scaffolded e
  · rintro outcome more ⟨outcome⟩
    exact Leads.advance _ (Leads.pure (.compiled scaffolded outcome))

/-- Where a page goes that does not go to standard output. -/
def outputPath (page : RenderedPage) : Path := options.invocation.join ⟨page.key⟩

/-- What standard output gets for a page. -/
def printedText (page : RenderedPage) : String := page.html ++ "\n\n"

/-- The file of a page with its text. -/
def pageFile (page : RenderedPage) : Path × String := (outputPath options page, page.html ++ "\n")

/-- The directory that a file needs is made. -/
def enclosing (path : Path) : List Move := (enclosing? path).toList.map made

@[simp]
theorem milestones_enclosing (path : Path) : milestones (enclosing path) = [] := by
  rw [enclosing]
  cases enclosing? path <;> rfl

/-- The ways in which the delivery of one page can end. -/
inductive Handed (done : Delivered) (page : RenderedPage) : Ends Delivered
  | unprinted (key : page.key = Destination.standardOutputKey) (e : IoError) :
      Handed done page (.error (.io e)) [.call (.print (printedText page) (.error e))]
  | printed (key : page.key = Destination.standardOutputKey) :
      Handed done page (.ok { done with printed := done.printed + 1 })
        [.call (.print (printedText page) (.ok ()))]
  | unenclosed (key : page.key ≠ Destination.standardOutputKey) {directory : Path}
      (needed : enclosing? (outputPath options page) = some directory) (e : IoError) :
      Handed done page (.error (.io e)) [.call (.createDirectories directory (.error e))]
  | unwritten (key : page.key ≠ Destination.standardOutputKey) (e : IoError) :
      Handed done page (.error (.io e)) (enclosing (outputPath options page) ++
        [.call (.write (outputPath options page) (page.html ++ "\n") (.error e))])
  | saved (key : page.key ≠ Destination.standardOutputKey) :
      Handed done page
        (.ok { done with filesWritten := done.filesWritten ++ [outputPath options page] })
        (enclosing (outputPath options page) ++
          [wrote (pageFile options page), .remark (.saved (outputPath options page)) rfl])

theorem save_leads (done : Delivered) {page : RenderedPage}
    (key : page.key ≠ Destination.standardOutputKey) :
    Leads (fun _ host => writeFile host (pageFile options page) >>= fun _ =>
        perform (host.log (.saved (outputPath options page))) >>= fun _ =>
        pure { done with filesWritten := done.filesWritten ++ [outputPath options page] })
      fun r moves => Handed options done page r (enclosing (outputPath options page) ++ moves) := by
  refine Leads.bind (writeFile_leads _) ?_ ?_
  · rintro e moves ⟨e⟩
    exact .unwritten key e
  · rintro ⟨⟩ moves ⟨⟨⟩⟩
    exact Leads.remark _ rfl (Leads.pure (.saved key))

theorem deliver_leads (done : Delivered) (page : RenderedPage) :
    Leads (fun _ host => deliver host options done page) (Handed options done page) := by
  unfold deliver
  by_cases key : page.key = Destination.standardOutputKey
  · have hkey : Destination.ofKey page.key = .standardOutput := by
      rw [Destination.ofKey, if_pos key]
    rw [hkey]
    refine Leads.bind (Leads.attempt .io (.print (printedText page)) fun _ _ _ _ _ => Iff.rfl) ?_ ?_
    · rintro e moves ⟨e⟩
      exact .unprinted key e
    · rintro ⟨⟩ moves ⟨⟨⟩⟩
      exact Leads.pure (.printed key)
  · have hkey : Destination.ofKey page.key = .file ⟨page.key⟩ := by
      rw [Destination.ofKey, if_neg key]
    have hsave := save_leads options done key
    rw [hkey]
    dsimp only
    cases hdirectory : enclosing? (options.invocation.join ⟨page.key⟩) with
    | none =>
      have hnone : enclosing (outputPath options page) = [] := by
        rw [enclosing, outputPath, hdirectory]
        rfl
      rw [hnone] at hsave
      exact hsave
    | some directory =>
      have hsome : enclosing (outputPath options page) = [made directory] := by
        rw [enclosing, outputPath, hdirectory]
        rfl
      rw [hsome] at hsave
      refine Leads.bind (Leads.attempt .io (.createDirectories directory)
        fun _ _ _ _ _ => Iff.rfl) ?_ ?_
      · rintro e moves ⟨e⟩
        exact .unenclosed key hdirectory e
      · rintro ⟨⟩ moves ⟨⟨⟩⟩
        exact hsave

/-- Nothing but the file system and standard output gets in the way of a page. -/
theorem Handed.passing {done : Delivered} {page : RenderedPage} {r : Except RunError Delivered}
    {moves : List Move} (h : Handed options done page r moves) :
    milestones moves = [] ∧ ∀ e, r = .error e → ∃ cause, e = .io cause := by
  cases h with
  | unprinted key e | unenclosed key needed e | unwritten key e =>
    refine ⟨by simp [isMilestone], ?_⟩
    rintro _ ⟨⟩
    exact ⟨e, rfl⟩
  | printed key | saved key =>
    refine ⟨by simp [isMilestone], ?_⟩
    rintro _ ⟨⟩

/-- A batch is handed out, up to the first page that cannot be. -/
abbrev HandedOut : Delivered → Batch → Ends Delivered := Leads.Folded (Handed options)

/-- A batch is handed out, and standard output is flushed. -/
inductive Distributed (batch : Batch) : Ends Delivered
  | failed {e : RunError} {moves : List Move}
      (handed : HandedOut options ⟨[], 0⟩ batch (.error e) moves) :
      Distributed batch (.error e) moves
  | unflushed {done : Delivered} {moves : List Move}
      (handed : HandedOut options ⟨[], 0⟩ batch (.ok done) moves) (e : IoError) :
      Distributed batch (.error (.io e)) (moves ++ [.call (.flush (.error e))])
  | flushed {done : Delivered} {moves : List Move}
      (handed : HandedOut options ⟨[], 0⟩ batch (.ok done) moves) :
      Distributed batch (.ok done) (moves ++ [.call (.flush (.ok ()))])

/-- Nothing but the file system and standard output gets in the way of a batch. -/
theorem Distributed.passing {batch : Batch} {r : Except RunError Delivered} {moves : List Move}
    (h : Distributed options batch r moves) :
    milestones moves = [] ∧ ∀ e, r = .error e → ∃ cause, e = .io cause := by
  have hpages : ∀ {r : Except RunError Delivered} {moves : List Move},
      HandedOut options ⟨[], 0⟩ batch r moves → milestones moves = [] :=
    fun handed => milestones_eq_nil_iff.mpr
      (handed.forall_mem fun page => milestones_eq_nil_iff.mp (page.passing options).1)
  cases h with
  | failed handed =>
    refine ⟨hpages handed, ?_⟩
    rintro _ ⟨⟩
    obtain ⟨_, _, _, _, _, _, -, -, -, fails⟩ := handed.exists_of_error
    exact (fails.passing options).2 _ rfl
  | unflushed handed e =>
    refine ⟨by rw [milestones_append, hpages handed]; rfl, ?_⟩
    rintro _ ⟨⟩
    exact ⟨e, rfl⟩
  | flushed handed =>
    refine ⟨by rw [milestones_append, hpages handed]; rfl, ?_⟩
    rintro _ ⟨⟩

theorem distribute_leads (batch : Batch) :
    Leads (fun _ host => distribute host options batch) (Distributed options batch) := by
  unfold distribute
  refine Leads.bind (Leads.foldlM (deliver_leads options) batch ⟨[], 0⟩) ?_ ?_
  · exact fun e moves handed => .failed handed
  intro done moves handed
  refine Leads.bind (Leads.attempt .io .flush fun _ _ _ _ _ => Iff.rfl) ?_ ?_
  · rintro e more ⟨e⟩
    exact .unflushed handed e
  · rintro ⟨⟩ more ⟨⟨⟩⟩
    exact Leads.pure (.flushed handed)

/-- The files are generated in one of the ways, and run, and the pages are handed out. -/
inductive Worked (generating : Ends BuildOutcome) : Ends (BuildOutcome × Delivered)
  | ungenerated {e : RunError} {moves : List Move} (generated : generating (.error e) moves) :
      Worked generating (.error e) moves
  | unrendered {outcome : BuildOutcome} {moves : List Move}
      (generated : generating (.ok outcome) moves) (e : ToolchainError) :
      Worked generating (.error (.toolchain e))
        (moves ++ [.call (.render options.workspace (.error e))])
  | undelivered {outcome : BuildOutcome} {batch : Batch} {e : RunError} {moves more : List Move}
      (generated : generating (.ok outcome) moves)
      (distributed : Distributed options batch (.error e) more) :
      Worked generating (.error e)
        (moves ++ .call (.render options.workspace (.ok batch)) :: .enter .distributing :: more)
  | delivered {outcome : BuildOutcome} {batch : Batch} {done : Delivered} {moves more : List Move}
      (generated : generating (.ok outcome) moves)
      (distributed : Distributed options batch (.ok done) more) :
      Worked generating (.ok (outcome, done))
        (moves ++ .call (.render options.workspace (.ok batch)) :: .enter .distributing ::
          (more ++ [.enter .done]))

theorem work_leads {scaffold : Scaffold} {generating : Ends BuildOutcome}
    (h : Leads (fun _ host => generate host options scaffold) generating) :
    Leads (fun _ host => work host options scaffold) (Worked options generating) := by
  unfold work
  refine Leads.bind h (fun e moves generated => .ungenerated generated) ?_
  intro outcome moves generated
  refine Leads.bind (Leads.attempt .toolchain (.render options.workspace)
    fun _ _ _ _ _ => Iff.rfl) ?_ ?_
  · rintro e more ⟨e⟩
    exact .unrendered generated e
  rintro batch more ⟨batch⟩
  refine Leads.advance _ (Leads.bind (distribute_leads options batch) ?_ ?_)
  · intro e more distributed
    exact .undelivered generated distributed
  · intro done more distributed
    exact Leads.advance _ (Leads.pure (.delivered generated distributed))

/-- A run that is loaded in one of the ways, and whose files are generated in one of the ways. -/
inductive Executed (loading : Ends (Loaded × Scaffold)) (generating : Scaffold → Ends BuildOutcome) :
    Ends RunReport
  | unloaded {e : RunError} {moves : List Move} (loads : loading (.error e) moves) :
      Executed loading generating (.error e) moves
  | failed {loaded : Loaded} {scaffold : Scaffold} {e : RunError} {moves more : List Move}
      (loads : loading (.ok (loaded, scaffold)) moves)
      (worked : Worked options (generating scaffold) (.error e) more) :
      Executed loading generating (.error e) (moves ++ more)
  | done {loaded : Loaded} {scaffold : Scaffold} {outcome : BuildOutcome} {done : Delivered}
      {moves more : List Move} (loads : loading (.ok (loaded, scaffold)) moves)
      (worked : Worked options (generating scaffold) (.ok (outcome, done)) more) :
      Executed loading generating
        (.ok ⟨loaded.dropped, outcome, done.filesWritten, done.printed⟩)
        (moves ++ (more ++ [.remark (.finished done.filesWritten.length done.printed
          loaded.dropped.length) rfl]))

theorem finish_leads {x : Part (Loaded × Scaffold)} {loading : Ends (Loaded × Scaffold)}
    {generating : Scaffold → Ends BuildOutcome} (h : Leads x loading)
    (g : ∀ scaffold, Leads (fun _ host => generate host options scaffold) (generating scaffold)) :
    Leads (fun σ host => x σ host >>= fun ready => finish host options ready)
      (Executed options loading generating) := by
  refine Leads.bind h (fun e moves loads => .unloaded loads) ?_
  rintro ⟨loaded, scaffold⟩ moves loads
  unfold finish report
  refine Leads.bind (work_leads options (g scaffold)) ?_ ?_
  · exact fun e more worked => .failed loads worked
  rintro ⟨outcome, done⟩ more worked
  exact Leads.remark _ rfl (Leads.pure (.done loads worked))

theorem executeFrom_leads (pending : List SourceTargets) :
    Leads (fun _ host => executeFrom host options pending)
      (Executed options (LoadedFrom options pending) (Generated options)) :=
  finish_leads options (loadFrom_leads options pending) (generate_leads options)

theorem execute_leads (source : RunSource) :
    Leads (fun _ host => execute host options source)
      (Executed options (LoadedAll options source) (Generated options)) := by
  simp only [execute_eq]
  exact finish_leads options (loadAll_leads options source) (generate_leads options)

/-- The first two phases can be made by themselves. -/
theorem execute_leads_makes (source : RunSource) :
    Leads (fun _ host => execute host options source)
      (Executed options
        (fun r moves => LoadedAll options source r moves ∧
          Makes (fun _ host => loadAll host options source) r moves)
        fun scaffold r moves => Generated options scaffold r moves ∧
          Makes (fun _ host => generate host options scaffold) r moves) := by
  simp only [execute_eq]
  exact finish_leads options (loadAll_leads options source).makes
    fun scaffold => (generate_leads options scaffold).makes

/-- A run comes to its renderer by the moves of its first two phases. -/
theorem prepare_of_makes {source : RunSource} {loaded : Loaded} {scaffold : Scaffold}
    {outcome : BuildOutcome} {first generation : List Move}
    (loads : Makes (fun _ host => loadAll host options source) (.ok (loaded, scaffold)) first)
    (generates : Makes (fun _ host => generate host options scaffold) (.ok outcome) generation)
    {σ : Type} {host : RunHost (StateM σ)} {stage : Stage} {s s₁ s' : σ}
    (follows : Follows host stage first s s₁)
    (goesOn : Follows host (stageAfter stage first) generation s₁ s') :
    prepare host options source stage s =
      ((.ok (loaded, outcome), stageAfter (stageAfter stage first) generation), s') := by
  rw [prepare, bind_of_ok (loads follows)]
  exact bind_of_ok (generates goesOn)

end Run

end ElmPrerender
