import ElmPrerender.Proofs.Path.Workspace
import ElmPrerender.Proofs.Run.Loading
import ElmPrerender.Proofs.Store.Directories

/-!
# Files are written into directories that are there

A run is recorded: each action is noted as it begins, with the store at that moment. Recording does
not change what a run does. Whenever a file is to be written, its directory and all that enclose it
are in the store, and directories stay.
-/

namespace ElmPrerender

namespace Store

/-- The directories that enclose a file are there; the empty path is none. -/
def Houses (s : Store) (path : Path) : Prop :=
  ∀ directory, path.parent? = some directory →
    ∀ p ∈ directory.ancestors, p.text ≠ "" → s.hasDirectory p = true

/-- No directory is lost from one store to the other. -/
def Keeps (s t : Store) : Prop := ∀ p, s.hasDirectory p = true → t.hasDirectory p = true

theorem Keeps.refl (s : Store) : s.Keeps s := fun _ h => h

theorem Keeps.trans {s t u : Store} (first : s.Keeps t) (second : t.Keeps u) : s.Keeps u :=
  fun p h => second p (first p h)

theorem Houses.mono {s t : Store} {path : Path} (h : s.Houses path) (keeps : s.Keeps t) :
    t.Houses path :=
  fun directory hparent p hp htext => keeps p (h directory hparent p hp htext)

theorem keeps_write (s : Store) (path : Path) (text : String) : s.Keeps (s.write path text) :=
  fun _ h => h

theorem keeps_createDirectories (s : Store) (path : Path) : s.Keeps (s.createDirectories path) :=
  fun q h => (hasDirectory_createDirectories path q).mpr (Or.inr h)

/-- A directory that begins with the parent of a file houses it, however it is spelled. -/
theorem houses_createDirectories (s : Store) {path directory : Path}
    (h : path.components.dropLast <+: directory.components) :
    (s.createDirectories directory).Houses path := by
  intro parent hparent p hp htext
  have hnonempty : p.components ≠ [] := mt Path.components_eq_nil_iff.mp htext
  have hbeginning := (Path.exists_mem_ancestors_iff parent hnonempty).mp ⟨p, hp, rfl⟩
  rw [Path.components_of_parent? hparent] at hbeginning
  exact (hasDirectory_createDirectories directory p).mpr
    (Or.inl ⟨hnonempty, hbeginning.trans h⟩)

theorem houses_enclosing? (s : Store) {path directory : Path}
    (h : Run.enclosing? path = some directory) : (s.createDirectories directory).Houses path := by
  have hparent := (Option.filter_eq_some_iff.mp h).1
  exact s.houses_createDirectories (Path.components_of_parent? hparent ▸ List.prefix_rfl)

theorem houses_of_not_enclosing? (s : Store) {path : Path} (h : Run.enclosing? path = none) :
    s.Houses path := by
  intro parent hparent p hp htext
  rw [Run.enclosing?, hparent, Option.filter_some] at h
  have hempty : parent.components = [] := by
    rw [Path.components_eq_nil_iff]
    by_cases hnamed : parent.text = ""
    · exact hnamed
    · simp [hnamed] at h
  have hbeginning := Path.components_of_mem_chain hp
  rw [hempty, List.prefix_nil, Path.components_eq_nil_iff] at hbeginning
  exact absurd hbeginning htext

end Store

/-- One directory houses all generated files. -/
theorem Workspace.houses_files (w : Workspace) (s : Store) {file : Path} (h : file ∈ w.files) :
    (s.createDirectories w.native).Houses file := by
  have hnative : ∀ place ∈ places, place.map Path.Component.normal ≠ [] ∧
      (place.map Path.Component.normal).dropLast <+: [.normal nativeDirectory] := by decide
  rw [files_eq, List.mem_map] at h
  obtain ⟨place, hplace, rfl⟩ := h
  obtain ⟨hnonempty, hbeginning⟩ := hnative place hplace
  refine s.houses_createDirectories ?_
  rw [w.components_place hplace, w.components_native, List.dropLast_append_of_ne_nil hnonempty]
  exact (List.prefix_append_right_inj _).mpr hbeginning

/-- An action as it begins. -/
structure Moment where
  store : Store
  /-- The file that is to be written, if this is what is done. -/
  file? : Option Path

/-- A bench, with all actions that have begun. -/
structure Diary where
  bench : Bench
  moments : List Moment

namespace Diary

variable {α : Type}

/-- Notes an action, and does it. -/
def keep (file? : Option Path) (action : StateM Bench α) : StateM Diary α := fun d =>
  ((action d.bench).1, ⟨(action d.bench).2, d.moments ++ [⟨d.bench.store, file?⟩]⟩)

theorem keep_of_eq {d : Diary} {file? : Option Path} {action : StateM Bench α} {a : α} {b : Bench}
    (h : action d.bench = (a, b)) :
    keep file? action d = (a, ⟨b, d.moments ++ [⟨d.bench.store, file?⟩]⟩) := by
  rw [keep, h]

/-- The stores of all moments, and the one at the end. -/
def stores (d : Diary) : List Store := d.moments.map (·.store) ++ [d.bench.store]

/-- Files are written into directories that are there, and directories stay. -/
structure InOrder (d : Diary) : Prop where
  housed : ∀ m ∈ d.moments, ∀ path, m.file? = some path → m.store.Houses path
  stay : d.stores.Pairwise Store.Keeps

theorem inOrder_nil (b : Bench) : InOrder ⟨b, []⟩ := by
  refine ⟨fun m hm => absurd hm List.not_mem_nil, ?_⟩
  exact List.pairwise_singleton ..

/-- One more action that keeps the directories, and writes only where there are some. -/
theorem InOrder.append {d : Diary} (h : d.InOrder) {file? : Option Path} {b : Bench}
    (housed : ∀ path, file? = some path → d.bench.store.Houses path)
    (keeps : d.bench.store.Keeps b.store) :
    InOrder ⟨b, d.moments ++ [⟨d.bench.store, file?⟩]⟩ := by
  refine ⟨?_, ?_⟩
  · intro m hm path hpath
    rcases List.mem_append.mp hm with hm | hm
    · exact h.housed m hm path hpath
    · rw [List.mem_singleton.mp hm] at hpath ⊢
      exact housed path hpath
  · have hstores : stores ⟨b, d.moments ++ [⟨d.bench.store, file?⟩]⟩ = d.stores ++ [b.store] := by
      simp [stores]
    rw [hstores, List.pairwise_append]
    refine ⟨h.stay, List.pairwise_singleton .., ?_⟩
    intro s hs t ht
    rw [List.mem_singleton.mp ht]
    rcases List.mem_append.mp hs with hearlier | hlast
    · have hstay := (List.pairwise_append.mp h.stay).2.2 s hearlier _ (List.mem_singleton_self _)
      exact hstay.trans keeps
    · rw [List.mem_singleton.mp hlast]
      exact keeps

end Diary

/-- Surroundings that keep a record. -/
def Surroundings.recorded (s : Surroundings) : RunHost (StateM Diary) where
  read path := Diary.keep none (s.host.read path)
  write path text := Diary.keep (some path) (s.host.write path text)
  createDirectories path := Diary.keep none (s.host.createDirectories path)
  build w := Diary.keep none (s.host.build w)
  render w := Diary.keep none (s.host.render w)
  print text := Diary.keep none (s.host.print text)
  flush := Diary.keep none s.host.flush
  log event := Diary.keep none (s.host.log event)

/-- All directories of a path are in the store. -/
def Store.Holds (s : Store) (directory : Path) : Prop :=
  ∃ earlier : Store, (earlier.createDirectories directory).Keeps s

theorem Store.Holds.mono {s t : Store} {directory : Path} (h : s.Holds directory)
    (keeps : s.Keeps t) : t.Holds directory := by
  obtain ⟨earlier, hkeeps⟩ := h
  exact ⟨earlier, hkeeps.trans keeps⟩

namespace Move

/-- The file that is to be written. -/
def file? : Move → Option Path
  | .call (.write path _ _) => some path
  | _ => none

/-- The directories that are made. -/
def makes : Move → List Path
  | .call (.createDirectories directory (.ok _)) => [directory]
  | _ => []

/-- A file is only written where the directories that were made are enough for it. -/
def Sheltered (directories : List Path) (move : Move) : Prop :=
  ∀ path, move.file? = some path →
    ∀ store : Store, (∀ directory ∈ directories, store.Holds directory) → store.Houses path

theorem keeps_onStore (store : Store) (move : Move) : store.Keeps (onStore store move) := by
  unfold onStore
  split
  · exact store.keeps_write _ _
  · exact store.keeps_createDirectories _
  · exact .refl store

theorem holds_onStore (store : Store) {move : Move} {directory : Path}
    (h : directory ∈ move.makes) : (onStore store move).Holds directory := by
  unfold makes at h
  split at h
  · rw [List.mem_singleton.mp h]
    exact ⟨store, .refl _⟩
  · cases h

end Move

section Recorded

variable {s : Surroundings} {stage : Stage} {d : Diary} {b b' : Bench}

/-- A move that is recorded. -/
theorem recorded_of_allows {move : Move} (h : s.host.Allows stage d.bench move b) :
    s.recorded.Allows stage d move ⟨b, d.moments ++ [⟨d.bench.store, move.file?⟩]⟩ := by
  cases move with
  | enter | remark => exact Diary.keep_of_eq h
  | call call => cases call <;> exact Diary.keep_of_eq h

/-- Moves that are recorded one after the other: the record stays in order. -/
theorem Follows.recorded {moves : List Move} {directories : List Path}
    (h : Follows s.host stage moves b b')
    (sheltered : Move.Throughout Move.makes Move.Sheltered directories moves) (hd : d.bench = b)
    (inOrder : d.InOrder) (holds : ∀ directory ∈ directories, b.store.Holds directory) :
    ∃ d', Follows s.recorded stage moves d d' ∧ d'.bench = b' ∧ d'.InOrder := by
  induction h generalizing d directories with
  | nil => exact ⟨d, .nil, hd, inOrder⟩
  | @cons stage move rest b b₁ b' first others ih =>
    subst hd
    obtain ⟨hmove, hrest⟩ := Move.throughout_cons.mp sheltered
    have hstore : b₁.store = Move.onStore d.bench.store move := (effect_of_allows first).store
    have keeps : d.bench.store.Keeps b₁.store := hstore ▸ Move.keeps_onStore d.bench.store move
    have inOrder' := inOrder.append (fun path hpath => hmove path hpath _ holds) keeps
    have holds' : ∀ directory ∈ directories ++ move.makes, b₁.store.Holds directory := by
      intro directory hdirectory
      rcases List.mem_append.mp hdirectory with hbefore | hnow
      · exact (holds directory hbefore).mono keeps
      · rw [hstore]
        exact Move.holds_onStore _ hnow
    obtain ⟨d', follows, hbench, hd'⟩ := ih hrest rfl inOrder' holds'
    exact ⟨d', .cons (recorded_of_allows first) follows, hbench, hd'⟩

end Recorded

namespace Run

open Move

variable {s : Surroundings} {options : RunOptions} {moves : List Move} {scaffold : Scaffold}

/-- Moves that only look around and tell write no file. -/
theorem sheltered_of_looks (h : moves.all looks = true) (directories : List Path) :
    Throughout makes Sheltered directories moves := by
  refine throughout_of_forall ?_
  intro move hmove more path hpath
  have hlooks := List.all_eq_true.mp h move hmove
  unfold file? at hpath
  split at hpath
  · cases hlooks
  · cases hpath

/-- The directory of the native module is enough for all generated files. -/
theorem sheltered_generated {directories : List Path} (h : options.workspace.native ∈ directories)
    {file : Path × String} (hfile : file ∈ scaffold.files options.workspace)
    (answer : Except IoError Unit) :
    Sheltered directories (.call (.write file.1 file.2 answer)) := by
  rintro _ ⟨⟩ store holds
  obtain ⟨earlier, keeps⟩ := holds _ h
  exact (options.workspace.houses_files earlier (List.mem_map_of_mem hfile)).mono keeps

theorem ScaffoldWritten.sheltered {r : Except RunError Unit}
    (h : ScaffoldWritten options scaffold r moves) (directories : List Path) :
    Throughout makes Sheltered directories moves := by
  cases h with
  | unmade e => simp [Sheltered, file?]
  | @unwritten written file e part =>
    refine ⟨by simp [Sheltered, file?], throughout_of_forall ?_⟩
    simp only [List.forall_mem_append, List.forall_mem_map, List.forall_mem_singleton]
    refine ⟨fun file hfile more => ?_, fun more => ?_⟩
    · exact sheltered_generated (by simp [makes]) (part.subset (by simp [hfile])) _
    · exact sheltered_generated (by simp [makes]) (part.subset (by simp)) _
  | written =>
    refine ⟨by simp [Sheltered, file?], throughout_of_forall ?_⟩
    simp only [List.forall_mem_append, List.forall_mem_map, List.forall_mem_singleton]
    refine ⟨fun file hfile more => ?_, by simp [Sheltered, file?]⟩
    exact sheltered_generated (by simp [makes]) hfile _

theorem Generated.sheltered {r : Except RunError BuildOutcome}
    (h : Generated options scaffold r moves) (directories : List Path) :
    Throughout makes Sheltered directories moves := by
  cases h with
  | unwritten scaffolded => exact scaffolded.sheltered directories
  | uncompiled scaffolded e => simp [scaffolded.sheltered, Sheltered, file?]
  | compiled scaffolded outcome =>
    cases outcome <;> simp [scaffolded.sheltered, Sheltered, file?, buildRemarks]

/-- The directory of a page is made before the page is written. -/
theorem sheltered_enclosed (path : Path) (text : String) (answer : Except IoError Unit)
    (directories : List Path) :
    Sheltered (directories ++ (enclosing path).flatMap makes) (.call (.write path text answer)) := by
  rintro _ ⟨⟩ store holds
  cases hneeded : enclosing? path with
  | none => exact store.houses_of_not_enclosing? hneeded
  | some directory =>
    obtain ⟨earlier, keeps⟩ := holds directory (by simp [enclosing, hneeded, makes])
    exact (earlier.houses_enclosing? hneeded).mono keeps

theorem Handed.sheltered {done : Delivered} {page : RenderedPage} {r : Except RunError Delivered}
    (h : Handed options done page r moves) (directories : List Path) :
    Throughout makes Sheltered directories moves := by
  have hdirectory : ∀ path, Throughout makes Sheltered directories (enclosing path) := by
    refine fun path => throughout_of_forall ?_
    rw [enclosing]
    simp [Sheltered, file?]
  cases h with
  | unprinted | printed | unenclosed => simp [Sheltered, file?]
  | unwritten key e =>
    exact throughout_append.mpr ⟨hdirectory _, sheltered_enclosed _ _ _ _, trivial⟩
  | saved key =>
    refine throughout_append.mpr ⟨hdirectory _, sheltered_enclosed _ _ _ _, ?_⟩
    simp [Sheltered, file?]

theorem Distributed.sheltered {batch : Batch} {r : Except RunError Delivered}
    (h : Distributed options batch r moves) (directories : List Path) :
    Throughout makes Sheltered directories moves := by
  cases h with
  | failed handed => exact handed.throughout Handed.sheltered directories
  | unflushed handed | flushed handed =>
    simp [handed.throughout Handed.sheltered directories, Sheltered, file?]

theorem Worked.sheltered {r : Except RunError (BuildOutcome × Delivered)}
    (h : Worked options (Generated options scaffold) r moves) (directories : List Path) :
    Throughout makes Sheltered directories moves := by
  cases h with
  | ungenerated generated => exact generated.sheltered directories
  | unrendered generated e => simp [generated.sheltered, Sheltered, file?]
  | undelivered generated distributed | delivered generated distributed =>
    simp [generated.sheltered, distributed.sheltered, Sheltered, file?]

theorem Executed.sheltered {source : RunSource} {r : Except RunError RunReport}
    (h : Executed options (LoadedAll options source) (Generated options) r moves) :
    Throughout makes Sheltered [] moves := by
  cases h with
  | unloaded loads => exact sheltered_of_looks loads.looks []
  | failed loads worked | done loads worked =>
    simp [sheltered_of_looks loads.looks, worked.sheltered, Sheltered, file?]

/-- Recording does not change a run. Whenever a file is to be written, its directory and all that
enclose it are in the store, and no directory is ever lost. The one directory of the native module
is enough for all generated files. -/
theorem files_written_into_directories (s : Surroundings) (options : RunOptions)
    (source : RunSource) (start : Stage) (b : Bench) :
    (∃ ending d, run s.recorded options source start ⟨b, []⟩ = (ending, d) ∧
      run s.host options source start b = (ending, d.bench) ∧
      (∀ m ∈ d.moments, ∀ path, m.file? = some path → m.store.Houses path) ∧
      (d.moments.map (·.store) ++ [d.bench.store]).Pairwise Store.Keeps) ∧
    ∀ (w : Workspace) (store : Store), ∀ file ∈ w.files,
      (store.createDirectories w.native).Houses file := by
  refine ⟨?_, fun w store file hfile => w.houses_files store hfile⟩
  obtain ⟨r, moves, b', executed, makes, follows⟩ :=
    execute_leads options source Bench s.host start b
  obtain ⟨d, recorded, rfl, hd⟩ := follows.recorded executed.sheltered rfl (Diary.inOrder_nil b)
    (by simp)
  have hrecorded : execute s.recorded options source start ⟨b, []⟩ = _ := makes recorded
  have hplain : execute s.host options source start b = _ := makes follows
  rw [run_apply, run_apply, hrecorded, hplain]
  cases r with
  | ok report => exact ⟨_, d, rfl, rfl, hd.housed, hd.stay⟩
  | error e =>
    have hlast : Diary.InOrder ⟨d.bench.tell [.aborted (stageAfter start moves) e],
        d.moments ++ [⟨d.bench.store, none⟩]⟩ :=
      hd.append (fun path hpath => by cases hpath) (.refl _)
    exact ⟨_, _, rfl, rfl, hlast.housed, hlast.stay⟩

/-- Pages for the directory of the invocation itself, for one beside it, and for one far away. -/
def scatteredRules : BenchRules where
  unwritable := []
  uncreatable := []
  build _ _ := .ok (.failed 1)
  render _ _ := .ok [⟨"", ""⟩, ⟨"..//b/c", ""⟩, ⟨"/x//y/", ""⟩]
  outputLimit := none
  flushFails := false

def scatteredStore : Store where
  files := [
    (⟨"p/A.elm"⟩, "module A exposing (..)\n"),
    (⟨"p/elm-package.json"⟩, r#"{"source-directories":["src"],"repository":"u/p"}"#)]
  directories := []

def scatteredOptions : RunOptions := ⟨⟨"p//./"⟩, .resolve ⟨"p//./"⟩ ⟨"./w//"⟩, .standard⟩

theorem files_written_scattered :
    let options := scatteredOptions
    ∃ ending d, run (Surroundings.ofRules scatteredRules).recorded options (.file ⟨"A.elm"⟩ none)
        .init ⟨.ofStore scatteredStore, []⟩ = (ending, d) ∧
      d.moments.filterMap (·.file?) = [⟨"p//././w//elm-package.json"⟩,
        ⟨"p//././w//PrivateMain.elm"⟩, ⟨"p//././w//Native/Jsonify.js"⟩, ⟨"p//././w//runner.js"⟩,
        ⟨"p//./"⟩, ⟨"p//./..//b/c"⟩, ⟨"/x//y/"⟩] ∧
      (∃ m ∈ d.moments, m.file? = some ⟨"p//./..//b/c"⟩ ∧ m.store.Houses ⟨"p//./..//b/c"⟩) ∧
      (scatteredStore.createDirectories options.workspace.native).Houses
        options.workspace.shim := by
  intro options
  have hfiles : (run (Surroundings.ofRules scatteredRules).recorded options (.file ⟨"A.elm"⟩ none)
      .init ⟨.ofStore scatteredStore, []⟩).2.moments.filterMap (·.file?) =
        [⟨"p//././w//elm-package.json"⟩, ⟨"p//././w//PrivateMain.elm"⟩,
          ⟨"p//././w//Native/Jsonify.js"⟩, ⟨"p//././w//runner.js"⟩, ⟨"p//./"⟩, ⟨"p//./..//b/c"⟩,
          ⟨"/x//y/"⟩] := by decide +kernel
  obtain ⟨⟨ending, d, hrun, -, hhoused, -⟩, hnative⟩ := files_written_into_directories
    (.ofRules scatteredRules) options (.file ⟨"A.elm"⟩ none) .init (.ofStore scatteredStore)
  rw [hrun] at hfiles
  refine ⟨ending, d, hrun, hfiles, ?_, hnative options.workspace scatteredStore _ ?_⟩
  · have hpage : (⟨"p//./..//b/c"⟩ : Path) ∈ d.moments.filterMap (·.file?) := by
      rw [hfiles]
      decide
    obtain ⟨m, hm, hpath⟩ := List.mem_filterMap.mp hpage
    exact ⟨m, hm, hpath, hhoused m hm _ hpath⟩
  · simp [Workspace.files]

end Run

end ElmPrerender
