import ElmPrerender.Proofs.Run.Effects

/-!
# What loading does

Loading reads the store and tells what it leaves out; it changes nothing. What it finds depends on
the store alone.
-/

namespace ElmPrerender.Run

open Move

section Pure

variable (options : RunOptions) (store : Store)

/-- The module that a stored source declares. -/
def moduleIn (source : Path) : Except SourceProblem ModuleName :=
  moduleRead (store.read (options.invocation.join source))

/-- The sources with their pages, as the store holds them. -/
def pendingIn : RunSource → Except RunError (List SourceTargets)
  | .file source output => (SourceTargets.ofFile source output).mapError .config
  | .configFile path => listRead path (store.read (options.invocation.join path))

/-- One source added or left out, and what is told of it. -/
def addSourceIn (loaded : Loaded) (s : SourceTargets) : Except RunError Loaded × List Event :=
  (collectOne loaded (s, moduleIn options store s.source),
    (problems [(s, moduleIn options store s.source)]).map fun p => .skipped p.1 p.2)

/-- The sources one after the other, up to the first that does not fit. -/
def addSourcesIn : Loaded → List SourceTargets → Except RunError Loaded × List Event
  | loaded, [] => (.ok loaded, [])
  | loaded, s :: rest =>
    match addSourceIn options store loaded s with
    | (.ok next, told) => ((addSourcesIn next rest).1, told ++ (addSourcesIn next rest).2)
    | (.error e, told) => (.error e, told)

def loadIn (source : RunSource) : Except RunError Loaded × List Event :=
  match pendingIn options store source with
  | .error e => (.error e, [sourceEvent source])
  | .ok pending =>
    ((addSourcesIn options store ⟨.empty, []⟩ pending).1,
      sourceEvent source :: (addSourcesIn options store ⟨.empty, []⟩ pending).2)

/-- The patched manifest and the name of the project, from the stored manifest. -/
def manifestIn : Except RunError (Manifest × ProjectName) :=
  manifestRead options (store.read (manifestPath options))

/-- A run up to the first write, as the store has it: how it ends, the stage that it leaves, and
what it tells. -/
def loadAllIn (source : RunSource) (start : Stage) :
    (Except RunError (Loaded × Scaffold) × Stage) × List Event :=
  match loadIn options store source with
  | (.error e, told) => ((.error e, start), told)
  | (.ok loaded, told) =>
    match manifestIn options store with
    | .error e => ((.error e, .configLoaded), told ++ [.transition start .configLoaded])
    | .ok (manifest, name) =>
      ((.ok (loaded, ⟨loaded.config, options.format, manifest, name⟩), .manifestPatched),
        told ++ [.transition start .configLoaded, .transition .configLoaded .manifestPatched])

end Pure

variable {s : Surroundings} {options : RunOptions} {source : RunSource} {stage : Stage}
  {b b' : Bench} {moves : List Move}

theorem looks_skips (opened : List Opened) : (skips opened).all Move.looks = true := by
  simp [skips, Move.looks]

theorem SourcesKnown.looks {r : Except RunError (List SourceTargets)}
    (h : SourcesKnown options source r moves) : moves.all Move.looks = true := by
  cases h <;> rfl

theorem Added.looks {loaded : Loaded} {t : SourceTargets} {r : Except RunError Loaded}
    (h : Added options loaded t r moves) : moves.all Move.looks = true := by
  obtain ⟨answer, -⟩ := h
  exact looks_skips _

theorem AllAdded.looks {loaded : Loaded} {pending : List SourceTargets} {r : Except RunError Loaded}
    (h : AllAdded options loaded pending r moves) : moves.all Move.looks = true := by
  induction h with
  | nil => rfl
  | next step behind ih => rw [List.all_append, step.looks, ih, Bool.and_self]
  | failed step => exact step.looks

theorem LoadedAll.looks {r : Except RunError (Loaded × Scaffold)}
    (h : LoadedAll options source r moves) : moves.all Move.looks = true := by
  cases h with
  | unknown known => exact known.looks
  | known known loads =>
    rw [List.all_append, known.looks, Bool.true_and]
    cases loads with
    | unadded added => exact AllAdded.looks added
    | unpatched added | loaded added =>
      rw [List.all_append, AllAdded.looks added]
      rfl

/-- The sources that a bench knows. -/
theorem SourcesKnown.eq_pendingIn {r : Except RunError (List SourceTargets)}
    (h : SourcesKnown options source r moves) (follows : Follows s.host stage moves b b') :
    pendingIn options b.store source = r ∧ told stage moves = [sourceEvent source] ∧
      stageAfter stage moves = stage := by
  cases h with
  | file accepted => exact ⟨accepted, rfl, rfl⟩
  | @configFile path r answer accepted =>
    simp only [Follows.cons_iff, allows_remark, allows_call, answers_read] at follows
    obtain ⟨_, rfl, _, ⟨rfl, -⟩, -⟩ := follows
    exact ⟨accepted, rfl, rfl⟩

theorem Added.eq_addSourceIn {loaded : Loaded} {t : SourceTargets} {r : Except RunError Loaded}
    (h : Added options loaded t r moves) (follows : Follows s.host stage moves b b') :
    addSourceIn options b.store loaded t = (r, told stage moves) ∧
      stageAfter stage moves = stage := by
  obtain ⟨answer, rfl⟩ := h
  obtain ⟨_, hread, -⟩ := Follows.cons_iff.mp follows
  obtain ⟨rfl, -⟩ := answers_read.mp hread
  rw [addSourceIn, moduleIn]
  cases moduleRead (b.store.read (options.invocation.join t.source)) <;> exact ⟨rfl, rfl⟩

theorem AllAdded.eq_addSourcesIn {loaded : Loaded} {pending : List SourceTargets}
    {r : Except RunError Loaded} (h : AllAdded options loaded pending r moves)
    (follows : Follows s.host stage moves b b') :
    addSourcesIn options b.store loaded pending = (r, told stage moves) ∧
      stageAfter stage moves = stage := by
  induction h generalizing stage b with
  | nil => exact ⟨rfl, rfl⟩
  | @next loaded next t rest r first others step behind ih =>
    obtain ⟨b₁, hfirst, hothers⟩ := Follows.append_iff.mp follows
    obtain ⟨hadd, hstage⟩ := step.eq_addSourceIn hfirst
    have hstore : b₁.store = b.store := by simp [hfirst.eq_tell step.looks]
    rw [hstage] at hothers
    obtain ⟨hrest, hstage'⟩ := ih hothers
    rw [hstore] at hrest
    rw [addSourcesIn, hadd, told_append, stageAfter_append, hstage]
    simp only [hrest]
    exact ⟨trivial, hstage'⟩
  | failed step =>
    obtain ⟨hadd, hstage⟩ := step.eq_addSourceIn follows
    rw [addSourcesIn, hadd]
    exact ⟨rfl, hstage⟩

/-- What is loaded once the sources are known. -/
theorem LoadedFrom.eq_loadAllIn {pending : List SourceTargets} {told₀ : List Event}
    {r : Except RunError (Loaded × Scaffold)} (h : LoadedFrom options pending r moves)
    (follows : Follows s.host stage moves b b')
    (hload : loadIn options b.store source = ((addSourcesIn options b.store ⟨.empty, []⟩ pending).1,
      told₀ ++ (addSourcesIn options b.store ⟨.empty, []⟩ pending).2)) :
    loadAllIn options b.store source stage =
      ((r, stageAfter stage moves), told₀ ++ told stage moves) := by
  cases h with
  | unadded added =>
    obtain ⟨hadd, hstage⟩ := AllAdded.eq_addSourcesIn added follows
    rw [loadAllIn, hload, hadd, hstage]
  | @unpatched loaded moves answer e added refused =>
    simp only [Follows.append_iff, Follows.cons_iff, allows_enter, allows_call, answers_read]
      at follows
    obtain ⟨b₁, hadded, _, rfl, _, ⟨rfl, -⟩, -⟩ := follows
    obtain ⟨hadd, hstage⟩ := AllAdded.eq_addSourcesIn added hadded
    rw [hadded.eq_tell (AllAdded.looks added)] at refused
    have hmanifest : manifestIn options b.store = .error e := refused
    rw [loadAllIn, hload, hadd, told_append, stageAfter_append, hstage]
    simp only [hmanifest, List.append_assoc]
    rfl
  | @loaded loaded moves answer manifest name added accepted =>
    simp only [Follows.append_iff, Follows.cons_iff, allows_enter, allows_call, answers_read]
      at follows
    obtain ⟨b₁, hadded, _, rfl, _, ⟨rfl, -⟩, -⟩ := follows
    obtain ⟨hadd, hstage⟩ := AllAdded.eq_addSourcesIn added hadded
    rw [hadded.eq_tell (AllAdded.looks added)] at accepted
    have hmanifest : manifestIn options b.store = .ok (manifest, name) := accepted
    rw [loadAllIn, hload, hadd, told_append, stageAfter_append, hstage]
    simp only [hmanifest, List.append_assoc]
    rfl

theorem loadAllIn_eq_ok {store : Store} {loaded : Loaded} {manifest : Manifest} {name : ProjectName}
    (hload : (loadIn options store source).1 = .ok loaded)
    (hmanifest : manifestIn options store = .ok (manifest, name)) (start : Stage) :
    (loadAllIn options store source start).1 =
      (.ok (loaded, ⟨loaded.config, options.format, manifest, name⟩), .manifestPatched) := by
  rcases hfound : loadIn options store source with ⟨r, told⟩
  rw [hfound] at hload
  subst hload
  rw [loadAllIn, hfound, hmanifest]

/-- What is loaded depends on the store alone. -/
theorem LoadedAll.eq_loadAllIn {r : Except RunError (Loaded × Scaffold)}
    (h : LoadedAll options source r moves) (follows : Follows s.host stage moves b b') :
    loadAllIn options b.store source stage = ((r, stageAfter stage moves), told stage moves) := by
  cases h with
  | unknown known =>
    obtain ⟨hpending, htold, hstage⟩ := known.eq_pendingIn follows
    rw [loadAllIn, loadIn, hpending, htold, hstage]
  | @known pending r first more known loads =>
    obtain ⟨b₁, hfirst, hmore⟩ := Follows.append_iff.mp follows
    obtain ⟨hpending, htold, hstage⟩ := known.eq_pendingIn hfirst
    have hstore : b₁.store = b.store := by simp [hfirst.eq_tell known.looks]
    have hload : loadIn options b₁.store source =
        ((addSourcesIn options b₁.store ⟨.empty, []⟩ pending).1,
          [sourceEvent source] ++ (addSourcesIn options b₁.store ⟨.empty, []⟩ pending).2) := by
      rw [hstore, loadIn, hpending]
      rfl
    rw [hstage] at hmore
    rw [told_append, stageAfter_append, hstage, htold, ← hstore]
    exact loads.eq_loadAllIn hmore hload

theorem loadAll_apply (s : Surroundings) (options : RunOptions) (source : RunSource)
    (stage : Stage) (b : Bench) :
    loadAll s.host options source stage b =
      ((loadAllIn options b.store source stage).1,
        b.tell (loadAllIn options b.store source stage).2) := by
  obtain ⟨r, moves, b', loads, makes, follows⟩ :=
    loadAll_leads options source Bench s.host stage b
  rw [loads.eq_loadAllIn follows, ← follows.eq_tell loads.looks]
  exact makes follows

end ElmPrerender.Run
