import ElmPrerender.Proofs.Path.Workspace
import ElmPrerender.Proofs.Run.Effects

/-!
# What a run does, act by act

A part of a run tells, writes, makes directories, prints and calls tools, one act after the other.
If the surroundings do not look at one file of the store, the same acts are done whatever that file
holds.
-/

namespace ElmPrerender

inductive Act where
  | told (event : Event)
  | wrote (path : Path) (text : String)
  | made (directory : Path)
  | printed (bytes : List UInt8)
  | called (tool : Tool)

namespace Bench

def act (b : Bench) : Act → Bench
  | .told event => b.tell [event]
  | .wrote path text => { b with store := b.store.write path text }
  | .made directory => { b with store := b.store.createDirectories directory }
  | .printed bytes => { b with output := b.output ++ bytes }
  | .called tool => Run.called b tool

/-- The bench after some acts. -/
def after (b : Bench) (acts : List Act) : Bench := acts.foldl act b

@[simp]
theorem after_nil (b : Bench) : b.after [] = b := rfl

@[simp]
theorem after_append (b : Bench) (first second : List Act) :
    b.after (first ++ second) = (b.after first).after second :=
  List.foldl_append

theorem after_told (b : Bench) (events : List Event) :
    b.after (events.map .told) = b.tell events := by
  induction events generalizing b with
  | nil => exact (tell_nil b).symm
  | cons event rest ih =>
    have hfirst := ih (b.tell [event])
    rw [tell_tell] at hfirst
    exact hfirst

end Bench

/-- The act in a run that leaves nothing out. -/
def Act.withoutDropped : Act → Option Act
  | .told (.skipped _ _) => none
  | .told (.finished files count _) => some (.told (.finished files count 0))
  | a => some a

/-- An act that has nothing to do with what is left out. -/
abbrev Act.Plain (a : Act) : Prop := a.withoutDropped = some a

/-- The benches differ in nothing but what was told and the text of one file, and not in that text
either if it has been written since. -/
structure AlikeBut (hidden : Path) (written : List Path) (b b' : Bench) : Prop where
  paths : b'.store.paths = b.store.paths
  texts : ∀ p, (p.same hidden = false ∨ ∃ q ∈ written, p.same q = true) →
    b'.store.file? p = b.store.file? p
  directories : b'.store.directories = b.store.directories
  output : b'.output = b.output
  calls : b'.calls = b.calls

theorem Store.paths_insertFile {files files' : List (Path × String)}
    (h : files'.map (·.1) = files.map (·.1)) (path : Path) (text : String) :
    (insertFile path text files').map (·.1) = (insertFile path text files).map (·.1) := by
  induction files generalizing files' with
  | nil =>
    rw [List.map_eq_nil_iff.mp h]
  | cons f rest ih =>
    cases files' with
    | nil => cases h
    | cons f' rest' =>
      rw [List.map_cons, List.map_cons, List.cons.injEq] at h
      obtain ⟨hpath, hrest⟩ := h
      rw [insertFile, insertFile, hpath]
      split
      · simp only [List.map_cons, hrest]
      · split
        · simp only [List.map_cons, hrest]
        · rw [List.map_cons, List.map_cons, ih hrest]

namespace Store

variable {s s' : Store}

theorem directories_insertDirectory (h : s'.directories = s.directories) (p : Path) :
    (s'.insertDirectory p).directories = (s.insertDirectory p).directories := by
  have hthere : s'.hasDirectory p = s.hasDirectory p := by
    rw [hasDirectory, hasDirectory, h]
  rw [insertDirectory, insertDirectory, hthere]
  split
  · exact h
  · exact congrArg (· ++ [p.components]) h

theorem directories_foldl_insertDirectory (h : s'.directories = s.directories)
    (chain : List Path) :
    (chain.foldl insertDirectory s').directories =
      (chain.foldl insertDirectory s).directories := by
  induction chain generalizing s s' with
  | nil => exact h
  | cons p rest ih => exact ih (directories_insertDirectory h p)

/-- Which directories are made depends on the directories only. -/
theorem directories_createDirectories (h : s'.directories = s.directories) (path : Path) :
    (s'.createDirectories path).directories = (s.createDirectories path).directories :=
  directories_foldl_insertDirectory h (directoryChain path)

end Store

namespace AlikeBut

variable {hidden : Path} {written fewer : List Path} {b b' : Bench}

theorem symm (h : AlikeBut hidden written b b') : AlikeBut hidden written b' b :=
  ⟨h.paths.symm, fun p hp => (h.texts p hp).symm, h.directories.symm, h.output.symm, h.calls.symm⟩

theorem mono (h : AlikeBut hidden written b b') (sub : fewer ⊆ written) :
    AlikeBut hidden fewer b b' := by
  refine ⟨h.paths, ?_, h.directories, h.output, h.calls⟩
  rintro p (hp | ⟨q, hq, hsame⟩)
  · exact h.texts p (Or.inl hp)
  · exact h.texts p (Or.inr ⟨q, sub hq, hsame⟩)

theorem tell (h : AlikeBut hidden written b b') (events events' : List Event) :
    AlikeBut hidden written (b.tell events) (b'.tell events') :=
  ⟨h.paths, h.texts, h.directories, h.output, h.calls⟩

theorem wrote (h : AlikeBut hidden written b b') (path : Path) (text : String) :
    AlikeBut hidden (path :: written) (b.act (.wrote path text)) (b'.act (.wrote path text)) := by
  refine ⟨Store.paths_insertFile h.paths path text, ?_, h.directories, h.output, h.calls⟩
  intro p hp
  have hfile : ∀ b : Bench, (b.act (.wrote path text)).store.file? p =
      if p.same path then some text else b.store.file? p :=
    fun b => b.store.file?_write path text p
  rw [hfile, hfile]
  by_cases hsame : p.same path = true
  · rw [if_pos hsame, if_pos hsame]
  · rw [if_neg hsame, if_neg hsame]
    rcases hp with hp | ⟨q, hq, hpq⟩
    · exact h.texts p (Or.inl hp)
    · rcases List.mem_cons.mp hq with rfl | hq
      · exact absurd hpq hsame
      · exact h.texts p (Or.inr ⟨q, hq, hpq⟩)

/-- What is done on both benches keeps them alike. -/
theorem act (h : AlikeBut hidden written b b') (a : Act) :
    AlikeBut hidden written (b.act a) (b'.act a) := by
  cases a with
  | told event => exact h.tell [event] [event]
  | wrote path text => exact (h.wrote path text).mono (List.subset_cons_self _ _)
  | made directory =>
    have hfiles : ∀ b : Bench, (b.act (.made directory)).store.files = b.store.files :=
      fun b => b.store.files_createDirectories directory
    refine ⟨?_, ?_, Store.directories_createDirectories h.directories directory, h.output, h.calls⟩
    · rw [Store.paths, Store.paths, hfiles, hfiles]
      exact h.paths
    · intro p hp
      rw [Store.file?_congr (hfiles b'), Store.file?_congr (hfiles b)]
      exact h.texts p hp
  | printed bytes =>
    exact ⟨h.paths, h.texts, h.directories, congrArg (· ++ bytes) h.output, h.calls⟩
  | called tool => exact ⟨h.paths, h.texts, h.directories, h.output, congrArg (· ++ [tool]) h.calls⟩

theorem after (h : AlikeBut hidden written b b') (acts : List Act) :
    AlikeBut hidden written (b.after acts) (b'.after acts) := by
  induction acts generalizing b b' with
  | nil => exact h
  | cons a rest ih => exact ih (h.act a)

end AlikeBut

/-- The surroundings do not look at a file, unless it is one of the generated files. -/
structure Surroundings.Overlooks (s : Surroundings) (options : RunOptions) (hidden : Path) :
    Prop where
  writes : ∀ {b b'}, AlikeBut hidden [] b b' → s.writeFault? b' = s.writeFault? b
  directories : ∀ {b b'}, AlikeBut hidden [] b b' → s.directoryFault? b' = s.directoryFault? b
  prints : ∀ {b b'}, AlikeBut hidden [] b b' → s.print b' = s.print b
  flushes : ∀ {b b'}, AlikeBut hidden [] b b' → s.flush b' = s.flush b
  builds : ∀ {b b'}, AlikeBut hidden options.workspace.files b b' →
    s.build b' options.workspace = s.build b options.workspace
  renders : ∀ {b b'}, AlikeBut hidden options.workspace.files b b' →
    s.render b' options.workspace = s.render b options.workspace

namespace Move

/-- The paths that are written. -/
def writes : Move → List Path
  | .call (.write path _ (.ok _)) => [path]
  | _ => []

/-- A move in which a hidden file is overlooked: no file is read, and the tools are only called once
all generated files have been written. -/
def Overlooked (options : RunOptions) (written : List Path) : Move → Prop
  | .enter _ => True
  | .remark event _ => (Act.told event).Plain
  | .call (.read _ _) => False
  | .call (.build w _) | .call (.render w _) =>
    w = options.workspace ∧ options.workspace.files ⊆ written
  | .call (.write _ _ _) | .call (.createDirectories _ _) | .call (.print _ _) | .call (.flush _) =>
    True

end Move

section Overlooks

variable {s : Surroundings} {options : RunOptions} {hidden : Path} {written : List Path}
  {stage : Stage} {b b' b₁ : Bench}

/-- A move that is made on one bench is made on each bench that is alike. It does the same there,
and the benches stay alike, and more so once a file has been written. -/
theorem alike_of_allows (overlooks : s.Overlooks options hidden)
    (alike : AlikeBut hidden written b b') {move : Move} (overlooked : move.Overlooked options written)
    (h : s.host.Allows stage b move b₁) :
    ∃ acts : List Act, (∀ a ∈ acts, a.Plain) ∧ b₁ = b.after acts ∧
      s.host.Allows stage b' move (b'.after acts) ∧
      AlikeBut hidden (written ++ move.writes) (b.after acts) (b'.after acts) := by
  have less : AlikeBut hidden [] b b' := alike.mono (List.nil_subset _)
  have same : ∀ acts : List Act, AlikeBut hidden (written ++ []) (b.after acts) (b'.after acts) :=
    fun acts => (List.append_nil written).symm ▸ alike.after acts
  cases move with
  | enter next =>
    exact ⟨[.told (.transition stage next)], by simp [Act.Plain, Act.withoutDropped],
      allows_enter.mp h, rfl, same _⟩
  | remark event plain =>
    exact ⟨[.told event], List.forall_mem_singleton.mpr overlooked, allows_remark.mp h, rfl, same _⟩
  | call call =>
    simp only [allows_call] at h ⊢
    cases call with
    | read path answer => exact overlooked.elim
    | write path text answer =>
      rcases answers_write.mp h with ⟨e, fault, rfl, rfl⟩ | ⟨fault, rfl, rfl⟩
      · rw [← overlooks.writes less] at fault
        exact ⟨[], by simp, rfl, answers_write.mpr (Or.inl ⟨e, fault, rfl, rfl⟩), same []⟩
      · rw [← overlooks.writes less] at fault
        exact ⟨[.wrote path text], by simp [Act.Plain, Act.withoutDropped], rfl,
          answers_write.mpr (Or.inr ⟨fault, rfl, rfl⟩),
          (alike.wrote path text).mono (by simp [Move.writes])⟩
    | createDirectories path answer =>
      rcases answers_createDirectories.mp h with ⟨e, fault, rfl, rfl⟩ | ⟨fault, rfl, rfl⟩
      · rw [← overlooks.directories less] at fault
        exact ⟨[], by simp, rfl, answers_createDirectories.mpr (Or.inl ⟨e, fault, rfl, rfl⟩),
          same []⟩
      · rw [← overlooks.directories less] at fault
        exact ⟨[.made path], by simp [Act.Plain, Act.withoutDropped], rfl,
          answers_createDirectories.mpr (Or.inr ⟨fault, rfl, rfl⟩), same _⟩
    | build w answer =>
      obtain ⟨rfl, files⟩ := overlooked
      obtain ⟨rfl, rfl⟩ := answers_build.mp h
      exact ⟨[.called .compiler], by simp [Act.Plain, Act.withoutDropped], rfl,
        answers_build.mpr ⟨(overlooks.builds (alike.mono files)).symm, rfl⟩, same _⟩
    | render w answer =>
      obtain ⟨rfl, files⟩ := overlooked
      obtain ⟨rfl, rfl⟩ := answers_render.mp h
      exact ⟨[.called .renderer], by simp [Act.Plain, Act.withoutDropped], rfl,
        answers_render.mpr ⟨(overlooks.renders (alike.mono files)).symm, rfl⟩, same _⟩
    | print text answer =>
      obtain ⟨rfl, rfl⟩ := answers_print.mp h
      exact ⟨[.printed (s.print b text).2], by simp [Act.Plain, Act.withoutDropped], rfl,
        answers_print.mpr (by rw [overlooks.prints less]; exact ⟨rfl, rfl⟩), same _⟩
    | flush answer =>
      obtain ⟨rfl, rfl⟩ := answers_flush.mp h
      exact ⟨[.printed (s.flush b).2], by simp [Act.Plain, Act.withoutDropped], rfl,
        answers_flush.mpr (by rw [overlooks.flushes less]; exact ⟨rfl, rfl⟩), same _⟩

/-- So are moves one after the other. -/
theorem Follows.alike (overlooks : s.Overlooks options hidden) {moves : List Move}
    (h : Follows s.host stage moves b b₁) (alike : AlikeBut hidden written b b')
    (overlooked : Move.Throughout Move.writes (Move.Overlooked options) written moves) :
    ∃ acts : List Act, (∀ a ∈ acts, a.Plain) ∧ b₁ = b.after acts ∧
      Follows s.host stage moves b' (b'.after acts) ∧
      AlikeBut hidden (written ++ moves.flatMap Move.writes) (b.after acts) (b'.after acts) := by
  induction h generalizing written b' with
  | nil => exact ⟨[], by simp, rfl, .nil, by simpa using alike⟩
  | cons first others ih =>
    obtain ⟨hmove, hrest⟩ := Move.throughout_cons.mp overlooked
    obtain ⟨acts, hplain, rfl, first', alike⟩ := alike_of_allows overlooks alike hmove first
    obtain ⟨more, hplain', rfl, others', alike⟩ := ih alike hrest
    refine ⟨acts ++ more, List.forall_mem_append.mpr ⟨hplain, hplain'⟩, ?_, ?_, ?_⟩
    · rw [Bench.after_append]
    · rw [Bench.after_append]
      exact .cons first' others'
    · simpa using alike

end Overlooks

end ElmPrerender
