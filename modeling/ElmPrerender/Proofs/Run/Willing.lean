import ElmPrerender.Proofs.Path.Workspace
import ElmPrerender.Proofs.Run.Loading
import ElmPrerender.Proofs.Store.Directories
import ElmPrerender.Proofs.Store.Rewriting

/-!
# Surroundings in which nothing fails

If every write succeeds and standard output takes everything, a run succeeds once its sources, its
manifest and its batch are there, and what it leaves is determined.
-/

namespace ElmPrerender

open Move

structure Surroundings.Willing (s : Surroundings) : Prop where
  write : ∀ b path text, s.writeFault? b path text = none
  directory : ∀ b path, s.directoryFault? b path = none
  print : ∀ b text, s.print b text = (.ok (), Text.Utf8.ofString text)
  flush : ∀ b, s.flush b = (.ok (), [])

/-- Rules without any limit. -/
structure BenchRules.Unlimited (rules : BenchRules) : Prop where
  unwritable : rules.unwritable = []
  uncreatable : rules.uncreatable = []
  output : rules.outputLimit = none
  flush : rules.flushFails = false

theorem BenchRules.Unlimited.willing {rules : BenchRules} (h : rules.Unlimited) :
    (Surroundings.ofRules rules).Willing := by
  have hprinted : ∀ b text, Surroundings.printed rules b text = Text.Utf8.ofString text := by
    intro b text
    rw [Surroundings.printed, h.output]
  refine ⟨?_, ?_, ?_, ?_⟩
  · intro b path text
    simp [Surroundings.ofRules, h.unwritable]
  · intro b path
    simp [Surroundings.ofRules, h.uncreatable]
  · intro b text
    simp [Surroundings.ofRules, hprinted]
  · intro b
    simp [Surroundings.ofRules, h.flush]

/-- Whether a move fails that writes, makes a directory or prints. -/
def Move.refused : Move → Bool
  | .call (.write _ _ (.error _)) | .call (.createDirectories _ (.error _))
  | .call (.print _ (.error _)) | .call (.flush (.error _)) => true
  | _ => false

section Granted

variable {s : Surroundings} (willing : s.Willing) {stage : Stage} {b b' : Bench}

include willing

theorem not_refused_of_allows {move : Move} (h : s.host.Allows stage b move b') :
    move.refused = false := by
  cases move with
  | enter | remark => rfl
  | call call =>
    rw [allows_call] at h
    cases call with
    | read | build | render => rfl
    | write path text answer =>
      simp only [answers_write, willing.write] at h
      simp_all [refused]
    | createDirectories path answer =>
      simp only [answers_createDirectories, willing.directory] at h
      simp_all [refused]
    | print text answer =>
      simp only [answers_print, willing.print] at h
      simp [h.1, refused]
    | flush answer =>
      simp only [answers_flush, willing.flush] at h
      simp [h.1, refused]

theorem Follows.not_refused {moves : List Move} (h : Follows s.host stage moves b b') :
    ∀ move ∈ moves, move.refused = false := by
  induction h with
  | nil => exact fun move hmove => absurd hmove List.not_mem_nil
  | cons first _ ih => exact List.forall_mem_cons.mpr ⟨not_refused_of_allows willing first, ih⟩

end Granted

namespace Run

variable {s : Surroundings} {options : RunOptions} {source : RunSource} {stage stage' : Stage}
  {b b' : Bench} {moves : List Move} {scaffold : Scaffold} {outcome : BuildOutcome}

/-- The generated files fail over a call that is refused. -/
theorem ScaffoldWritten.exists_refused {e : RunError}
    (h : ScaffoldWritten options scaffold (.error e) moves) :
    ∃ move ∈ moves, move.refused = true := by
  cases h with
  | unmade e => exact ⟨_, List.mem_singleton_self _, rfl⟩
  | @unwritten _ file e _ => exact ⟨.call (.write file.1 file.2 (.error e)), by simp, rfl⟩

/-- A page fails over a call that is refused. -/
theorem Handed.exists_refused {done : Delivered} {page : RenderedPage} {e : RunError}
    (h : Handed options done page (.error e) moves) : ∃ move ∈ moves, move.refused = true := by
  cases h with
  | unprinted key e | unenclosed key needed e => exact ⟨_, List.mem_singleton_self _, rfl⟩
  | unwritten key e => exact ⟨_, List.mem_append_right _ (List.mem_singleton_self _), rfl⟩

/-- A batch fails over a call that is refused. -/
theorem Distributed.exists_refused {batch : Batch} {e : RunError}
    (h : Distributed options batch (.error e) moves) : ∃ move ∈ moves, move.refused = true := by
  cases h with
  | failed handed =>
    obtain ⟨_, _, _, _, first, last, -, rfl, -, fails⟩ := handed.exists_of_error
    obtain ⟨move, hmove, refused⟩ := fails.exists_refused
    exact ⟨move, List.mem_append_right first hmove, refused⟩
  | unflushed handed e => exact ⟨_, List.mem_append_right _ (List.mem_singleton_self _), rfl⟩

/-- The pages for standard output. -/
def printedPages (batch : Batch) : Batch :=
  batch.filter fun page => page.key == Destination.standardOutputKey

/-- The pages for files. -/
def filedPages (batch : Batch) : Batch :=
  batch.filter fun page => page.key != Destination.standardOutputKey

def printedBytes (batch : Batch) : List UInt8 :=
  (printedPages batch).flatMap fun page => Text.Utf8.ofString (printedText page)

section Cons

variable {page : RenderedPage}

theorem printedPages_cons_printed (key : page.key = Destination.standardOutputKey)
    (rest : Batch) : printedPages (page :: rest) = page :: printedPages rest := by
  simp [printedPages, key]

theorem filedPages_cons_printed (key : page.key = Destination.standardOutputKey) (rest : Batch) :
    filedPages (page :: rest) = filedPages rest := by
  simp [filedPages, key]

theorem printedPages_cons_filed (key : page.key ≠ Destination.standardOutputKey) (rest : Batch) :
    printedPages (page :: rest) = printedPages rest := by
  simp [printedPages, key]

theorem filedPages_cons_filed (key : page.key ≠ Destination.standardOutputKey) (rest : Batch) :
    filedPages (page :: rest) = page :: filedPages rest := by
  simp [filedPages, key]

end Cons

/-- The directories that the files of a batch need. -/
def outputDirectories (options : RunOptions) (batch : Batch) : List Path :=
  (filedPages batch).filterMap fun page => enclosing? (outputPath options page)

/-- The store that holds the pages of a batch in their files. -/
def distributedIn (options : RunOptions) (store : Store) (batch : Batch) : Store :=
  (store.createAll (outputDirectories options batch)).writeAll
    ((filedPages batch).map (pageFile options))

/-- The store that holds a page in its file. -/
def savedIn (options : RunOptions) (store : Store) (page : RenderedPage) : Store :=
  (enclosed store (outputPath options page)).write (outputPath options page) (page.html ++ "\n")

theorem distributedIn_cons_printed {page : RenderedPage}
    (key : page.key = Destination.standardOutputKey) (store : Store) (rest : Batch) :
    distributedIn options store (page :: rest) = distributedIn options store rest := by
  simp only [distributedIn, outputDirectories, filedPages_cons_printed key]

theorem distributedIn_cons_filed {page : RenderedPage}
    (key : page.key ≠ Destination.standardOutputKey) (store : Store) (rest : Batch) :
    distributedIn options store (page :: rest) =
      distributedIn options (savedIn options store page) rest := by
  have henclosed : ∀ directories : List Path,
      (enclosed store (outputPath options page)).createAll directories =
        store.createAll ((enclosing? (outputPath options page)).toList ++ directories) := by
    intro directories
    rw [enclosed]
    cases enclosing? (outputPath options page) <;> rfl
  have hwrite := Store.createAll_writeAll (s := enclosed store (outputPath options page))
    [pageFile options page] (outputDirectories options rest)
  have hdirectories : outputDirectories options (page :: rest) =
      (enclosing? (outputPath options page)).toList ++ outputDirectories options rest := by
    rw [outputDirectories, filedPages_cons_filed key, List.filterMap_cons]
    cases enclosing? (outputPath options page) <;> rfl
  rw [distributedIn, hdirectories, ← henclosed, filedPages_cons_filed key, List.map_cons,
    Store.writeAll_cons]
  exact (congrArg (Store.writeAll · ((filedPages rest).map (pageFile options))) hwrite).symm

theorem files_distributedIn (store : Store) (batch : Batch) :
    (distributedIn options store batch).files =
      (store.writeAll ((filedPages batch).map (pageFile options))).files :=
  Store.files_writeAll_congr (Store.files_createAll store _) _

/-- The bench after every page of a batch has taken effect. -/
def distributedOn (options : RunOptions) (batch : Batch) (b : Bench) : Bench where
  store := distributedIn options b.store batch
  output := b.output ++ printedBytes batch
  log := b.log ++ (filedPages batch).map fun page => .saved (outputPath options page)
  calls := b.calls

theorem distributedOn_nil (options : RunOptions) (b : Bench) :
    distributedOn options [] b = b := by
  simp [distributedOn, distributedIn, outputDirectories, filedPages, printedBytes, printedPages,
    Store.createAll, Store.writeAll]

/-- A batch that is handed out in full: what is counted, and the bench that it leaves. -/
theorem HandedOut.eq_of_ok {done last : Delivered} {batch : Batch}
    (whole : ∀ b text, (s.print b text).1 = .ok () → (s.print b text).2 = Text.Utf8.ofString text)
    (h : HandedOut options done batch (.ok last) moves) (follows : Follows s.host stage moves b b') :
    last = ⟨done.filesWritten ++ (filedPages batch).map (outputPath options),
        done.printed + (printedPages batch).length⟩ ∧
      b' = distributedOn options batch b := by
  generalize hr : Except.ok last = r at h
  induction h generalizing stage b with
  | nil done =>
    cases hr
    rw [Follows.nil_iff.mp follows]
    exact ⟨by simp [printedPages, filedPages], (distributedOn_nil options b).symm⟩
  | failed step => cases hr
  | @next done next page rest r first others step behind ih =>
    obtain ⟨b₁, hfirst, hothers⟩ := Follows.append_iff.mp follows
    obtain ⟨hlast, rfl⟩ := ih hothers hr
    cases step with
    | printed key =>
      obtain ⟨taken, rfl⟩ := answers_print.mp (Follows.singleton_iff.mp hfirst)
      rw [whole _ _ taken.symm, distributedOn, distributedOn, printedPages_cons_printed key,
        filedPages_cons_printed key, printedBytes, printedBytes, printedPages_cons_printed key,
        distributedIn_cons_printed key, List.flatMap_cons, List.append_assoc]
      refine ⟨?_, rfl⟩
      rw [hlast, List.length_cons, Nat.add_assoc, Nat.add_comm 1]
    | saved key =>
      obtain ⟨b₂, hdirectory, hsaved⟩ := Follows.append_iff.mp hfirst
      simp only [hdirectory.eq_enclosed, Follows.cons_iff, Follows.nil_iff, allows_call,
        allows_remark, answers_write] at hsaved
      obtain ⟨_, ⟨e, -, hwritten, -⟩ | ⟨-, -, rfl⟩, _, rfl, rfl⟩ := hsaved
      · cases hwritten
      rw [distributedOn, distributedOn, printedPages_cons_filed key, filedPages_cons_filed key,
        printedBytes, printedBytes, printedPages_cons_filed key, distributedIn_cons_filed key,
        Bench.tell, List.map_cons, List.append_assoc, List.singleton_append]
      refine ⟨?_, rfl⟩
      rw [hlast, List.append_assoc, List.singleton_append]

/-- No later file is written over the program. -/
theorem file?_driver (store : Store) (scaffold : Scaffold) (w : Workspace) :
    (store.writeAll (scaffold.files w)).file? w.driver =
      some (Elm.Driver.ofConfiguration scaffold.config scaffold.format).render := by
  have hdistinct := w.files_distinct
  simp only [Workspace.files, List.pairwise_cons] at hdistinct
  have hshim : w.driver.same w.shim = false := hdistinct.2.1 _ (by simp)
  have hrunner : w.driver.same w.runner = false := hdistinct.2.1 _ (by simp)
  simp [Store.file?_writeAll, Scaffold.files, Scaffold.filesWith, hshim, hrunner]

/-- The store with the generated files. -/
def generatedIn (options : RunOptions) (store : Store) (scaffold : Scaffold) : Store :=
  (store.createDirectories options.workspace.native).writeAll (scaffold.files options.workspace)

/-- The bench on which the renderer is called. -/
theorem Generated.eq_of_ok (h : Generated options scaffold (.ok outcome) moves)
    (follows : Follows s.host stage moves b b') :
    b'.store = generatedIn options b.store scaffold ∧ b'.output = b.output ∧
      ∃ b₁, s.build b₁ options.workspace = .ok outcome := by
  rw [follows.effect.store]
  cases h with
  | compiled scaffolded =>
    cases scaffolded with
    | written =>
      refine ⟨?_, follows.effect.output ?_, ?_⟩
      · cases outcome <;> simp [onStore, buildRemarks, generatedIn]
      · cases outcome <;> simp [prints, buildRemarks]
      · simp only [Follows.append_iff, Follows.cons_iff, allows_call, answers_build] at follows
        obtain ⟨_, -, _, -, _, -, b₁, ⟨hbuild, -⟩, -⟩ := follows
        exact ⟨_, hbuild.symm⟩

/-- What a run reports and leaves that makes `scaffold` and hands out `batch`. -/
structure HandsOut (options : RunOptions) (loaded : Loaded) (scaffold : Scaffold)
    (outcome : BuildOutcome) (batch : Batch) (b : Bench) (report : RunReport) (b' : Bench) :
    Prop where
  report : report = ⟨loaded.dropped, outcome, (filedPages batch).map (outputPath options),
    (printedPages batch).length⟩
  output : b'.output = b.output ++ printedBytes batch
  store : b'.store = distributedIn options (generatedIn options b.store scaffold) batch

section Willing

variable {loaded : Loaded} (willing : s.Willing)
  (built : ∀ b, s.build b options.workspace = .ok outcome)

include willing built

/-- A run that succeeds hands out a batch. -/
theorem handsOut_of_executed {report : RunReport}
    (h : Executed options (LoadedAll options source) (Generated options) (.ok report) moves)
    (follows : Follows s.host stage moves b b') :
    ∃ loaded scaffold batch b₁,
      (loadAllIn options b.store source stage).1.1 = .ok (loaded, scaffold) ∧
      b₁.store = generatedIn options b.store scaffold ∧
      s.render b₁ options.workspace = .ok batch ∧
      HandsOut options loaded scaffold outcome batch b report b' ∧
      stageAfter stage moves = .done := by
  cases h with
  | @done loaded scaffold outcome' _ first more loads worked =>
    obtain ⟨b₁, hfirst, hrest⟩ := Follows.append_iff.mp follows
    obtain ⟨b₂, hworked, hlast⟩ := Follows.append_iff.mp hrest
    have hloads := congrArg (·.1.1) (loads.eq_loadAllIn hfirst)
    obtain rfl := hfirst.eq_tell loads.looks
    obtain rfl := hlast.eq_tell rfl
    cases worked with
    | @delivered _ batch _ generation _ generated distributed =>
      obtain ⟨b₃, hgeneration, hdelivery⟩ := Follows.append_iff.mp hworked
      obtain ⟨hstore, houtput, b₀, hbuild⟩ := generated.eq_of_ok hgeneration
      obtain rfl : outcome' = outcome := by
        rw [built] at hbuild
        exact (Except.ok.inj hbuild).symm
      simp only [Follows.cons_iff, Follows.append_iff, Follows.nil_iff, allows_call, allows_enter,
        answers_render] at hdelivery
      obtain ⟨_, ⟨hrender, rfl⟩, _, rfl, b₄, hdistribution, _, rfl, rfl⟩ := hdelivery
      cases distributed with
      | flushed handed =>
        obtain ⟨b₅, hhanded, hflush⟩ := Follows.append_iff.mp hdistribution
        obtain ⟨-, rfl⟩ := answers_flush.mp (Follows.singleton_iff.mp hflush)
        obtain ⟨rfl, rfl⟩ := HandedOut.eq_of_ok (fun b text _ => by rw [willing.print]) handed hhanded
        refine ⟨loaded, scaffold, batch, b₃, hloads, hstore, hrender.symm, ⟨?_, ?_, ?_⟩, ?_⟩
        · simp
        · simp [distributedOn, willing.flush, houtput]
        · simp [distributedOn, hstore]
        · simp

/-- A run whose sources, manifest and batch are there does not fail. -/
theorem not_executed_error {batch : Batch} {e : RunError}
    (loads : (loadAllIn options b.store source stage).1.1 = .ok (loaded, scaffold))
    (rendered : ∀ b₁, b₁.store = generatedIn options b.store scaffold →
      s.render b₁ options.workspace = .ok batch)
    (h : Executed options (LoadedAll options source) (Generated options) (.error e) moves)
    (follows : Follows s.host stage moves b b') : False := by
  have granted := follows.not_refused willing
  cases h with
  | unloaded unloaded =>
    rw [unloaded.eq_loadAllIn follows] at loads
    cases loads
  | failed loads' worked =>
    obtain ⟨b₁, hfirst, hworked⟩ := Follows.append_iff.mp follows
    rw [loads'.eq_loadAllIn hfirst] at loads
    obtain ⟨rfl, rfl⟩ := Prod.ext_iff.mp (Except.ok.inj loads)
    obtain rfl := hfirst.eq_tell loads'.looks
    cases worked with
    | ungenerated generated =>
      cases generated with
      | unwritten scaffolded =>
        obtain ⟨move, hmove, refused⟩ := scaffolded.exists_refused
        exact absurd refused (by simp [granted move (by simp [hmove])])
      | uncompiled scaffolded e =>
        simp only [Follows.append_iff, Follows.cons_iff, allows_call, answers_build] at hworked
        obtain ⟨_, -, _, -, _, -, _, ⟨hbuild, -⟩, -⟩ := hworked
        rw [built] at hbuild
        cases hbuild
    | unrendered generated e =>
      obtain ⟨b₂, hgeneration, hrender⟩ := Follows.append_iff.mp hworked
      obtain ⟨hrender, -⟩ := answers_render.mp (Follows.singleton_iff.mp hrender)
      rw [rendered b₂ (generated.eq_of_ok hgeneration).1] at hrender
      cases hrender
    | undelivered generated distributed =>
      obtain ⟨move, hmove, refused⟩ := distributed.exists_refused
      exact absurd refused (by simp [granted move (by simp [hmove])])

theorem run_of_rendered {batch : Batch}
    (loads : (loadAllIn options b.store source stage).1.1 = .ok (loaded, scaffold))
    (rendered : ∀ b₁, b₁.store = generatedIn options b.store scaffold →
      s.render b₁ options.workspace = .ok batch) :
    ∃ report b', run s.host options source stage b = ((.ok report, .done), b') ∧
      HandsOut options loaded scaffold outcome batch b report b' := by
  obtain ⟨r, moves, b', executed, makes, follows⟩ :=
    execute_leads options source Bench s.host stage b
  cases r with
  | error e => exact (not_executed_error willing built loads rendered executed follows).elim
  | ok report =>
    obtain ⟨loaded', scaffold', batch', b₁, hloads, hstore, hrender, hands, hstage⟩ :=
      handsOut_of_executed willing built executed follows
    rw [loads] at hloads
    cases hloads
    rw [rendered b₁ hstore] at hrender
    cases hrender
    exact ⟨report, b', by rw [run_of_ok (makes follows), hstage], hands⟩

end Willing

end Run

end ElmPrerender
