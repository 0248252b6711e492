import ElmPrerender.Proofs.Store.Directories
import Mathlib.Data.List.Induction

/-!
# A store and what was done to it

A store that began empty is a map from paths to texts, in which all spellings of a path count as
one. It is told here by the writes and the new directories that led to it. The files are listed in
the order of their components, each under the first of its spellings.
-/

namespace ElmPrerender.Store

/-- The files are listed by their components, each path once. -/
def Sorted (s : Store) : Prop := s.paths.Pairwise fun p q => p.before q = true

theorem mem_of_mem_insertFile {path p : Path} {text : String} {files : List (Path × String)}
    (h : p ∈ (insertFile path text files).map (·.1)) : p = path ∨ p ∈ files.map (·.1) := by
  induction files with
  | nil => exact Or.inl (by simpa [insertFile] using h)
  | cons f rest ih =>
    obtain ⟨other, old⟩ := f
    rcases Path.before_total path other with hbefore | hsame | hafter
    · rw [insertFile_of_before hbefore] at h
      exact List.mem_cons.mp h
    · rw [insertFile_of_same hsame] at h
      exact Or.inr h
    · rw [insertFile_of_after hafter, List.map_cons] at h
      rcases List.mem_cons.mp h with rfl | hrest
      · exact Or.inr (List.mem_cons_self ..)
      · exact (ih hrest).imp_right (List.mem_cons_of_mem other)

theorem pairwise_insertFile {files : List (Path × String)}
    (h : (files.map (·.1)).Pairwise fun p q => p.before q = true) (path : Path) (text : String) :
    ((insertFile path text files).map (·.1)).Pairwise fun p q => p.before q = true := by
  induction files with
  | nil => exact List.pairwise_singleton ..
  | cons f rest ih =>
    obtain ⟨other, old⟩ := f
    rw [List.map_cons, List.pairwise_cons] at h
    obtain ⟨hother, hrest⟩ := h
    rcases Path.before_total path other with hbefore | hsame | hafter
    · rw [insertFile_of_before hbefore, List.map_cons, List.map_cons, List.pairwise_cons]
      refine ⟨List.forall_mem_cons.mpr ⟨hbefore, ?_⟩, List.pairwise_cons.mpr ⟨hother, hrest⟩⟩
      exact fun q hq => Path.before_trans hbefore (hother q hq)
    · rw [insertFile_of_same hsame]
      exact List.pairwise_cons.mpr ⟨hother, hrest⟩
    · rw [insertFile_of_after hafter, List.map_cons, List.pairwise_cons]
      refine ⟨fun q hq => ?_, ih hrest⟩
      rcases mem_of_mem_insertFile hq with rfl | hq
      · exact hafter
      · exact hother q hq

/-- A path is new in the list if none of its spellings is there. -/
theorem mem_insertFile_iff {files : List (Path × String)}
    (h : (files.map (·.1)).Pairwise fun p q => p.before q = true) (path p : Path) (text : String) :
    p ∈ (insertFile path text files).map (·.1) ↔ p ∈ files.map (·.1) ∨
      (p = path ∧ ∀ q ∈ files.map (·.1), path.same q = false) := by
  induction files with
  | nil => simp [insertFile]
  | cons f rest ih =>
    obtain ⟨other, old⟩ := f
    rw [List.map_cons, List.pairwise_cons] at h
    obtain ⟨hother, hrest⟩ := h
    rcases Path.before_total path other with hbefore | hsame | hafter
    · -- The path stands before all that follow, so it is none of them.
      have hnew : ∀ q ∈ other :: rest.map (·.1), path.same q = false :=
        List.forall_mem_cons.mpr ⟨Path.same_eq_false_of_before hbefore, fun q hq =>
          Path.same_eq_false_of_before (Path.before_trans hbefore (hother q hq))⟩
      rw [insertFile_of_before hbefore, List.map_cons, List.map_cons, List.mem_cons, or_comm]
      exact or_congr_right (and_iff_left hnew).symm
    · have hthere : ¬ ∀ q ∈ other :: rest.map (·.1), path.same q = false := by
        intro hnew
        have hother := hnew other (List.mem_cons_self ..)
        rw [hsame] at hother
        cases hother
      rw [insertFile_of_same hsame, List.map_cons, List.map_cons]
      simp only [hthere, and_false, or_false]
    · have hother' : path.same other = false := by
        rw [Path.same_comm]
        exact Path.same_eq_false_of_before hafter
      rw [insertFile_of_after hafter, List.map_cons, List.map_cons, List.mem_cons,
        List.mem_cons, ih hrest, List.forall_mem_cons, or_assoc]
      simp only [hother', true_and]

theorem Sorted.write {s : Store} (h : s.Sorted) (path : Path) (text : String) :
    (s.write path text).Sorted := pairwise_insertFile h path text

theorem Sorted.mem_paths_write {s : Store} (h : s.Sorted) (path p : Path) (text : String) :
    p ∈ (s.write path text).paths ↔
      p ∈ s.paths ∨ (p = path ∧ ∀ q ∈ s.paths, path.same q = false) :=
  mem_insertFile_iff h path p text

/-- The path is the first spelling under which its text was written. -/
def IsFirst (writes : List (Path × String)) (p : Path) : Prop :=
  ∃ before text after, writes = before ++ (p, text) :: after ∧
    ∀ f ∈ before, p.same f.1 = false

/-- The text is the last that was written under some spelling of the path. -/
def IsLast (writes : List (Path × String)) (p : Path) (text : String) : Prop :=
  ∃ before path after, writes = before ++ (path, text) :: after ∧ p.same path = true ∧
    ∀ f ∈ after, p.same f.1 = false

theorem isFirst_concat (writes : List (Path × String)) (f : Path × String) (p : Path) :
    IsFirst (writes ++ [f]) p ↔
      IsFirst writes p ∨ (p = f.1 ∧ ∀ g ∈ writes, p.same g.1 = false) := by
  constructor
  · rintro ⟨before, text, after, hwrites, hbefore⟩
    rcases List.eq_nil_or_concat after with rfl | ⟨after, last, rfl⟩
    · obtain ⟨rfl, hf⟩ := List.append_inj' hwrites rfl
      obtain ⟨rfl, -⟩ := List.cons.inj hf
      exact Or.inr ⟨rfl, hbefore⟩
    · rw [List.concat_eq_append, ← List.cons_append, ← List.append_assoc] at hwrites
      obtain ⟨hwrites, -⟩ := List.append_inj' hwrites rfl
      exact Or.inl ⟨before, text, after, hwrites, hbefore⟩
  · rintro (⟨before, text, after, rfl, hbefore⟩ | ⟨rfl, hnew⟩)
    · exact ⟨before, text, after ++ [f], by simp, hbefore⟩
    · exact ⟨writes, f.2, [], rfl, hnew⟩

@[simp]
theorem file?_empty (p : Path) : empty.file? p = none := rfl

/-- The last text that was written under some spelling of a path is found. -/
theorem file?_writeAll_eq_some_iff (writes : List (Path × String)) (p : Path) (text : String) :
    (empty.writeAll writes).file? p = some text ↔ IsLast writes p text := by
  rw [file?_writeAll, file?_empty, Option.or_none, Option.map_eq_some_iff]
  constructor
  · rintro ⟨⟨path, found⟩, hfind, rfl⟩
    obtain ⟨hsame, later, earlier, hreverse, hlater⟩ := List.find?_eq_some_iff_append.mp hfind
    refine ⟨earlier.reverse, path, later.reverse, ?_, hsame, ?_⟩
    · rw [← List.reverse_reverse writes, hreverse]
      simp
    · intro f hf
      simpa using hlater f (List.mem_reverse.mp hf)
  · rintro ⟨before, path, after, rfl, hsame, hafter⟩
    refine ⟨(path, text), List.find?_eq_some_iff_append.mpr ⟨hsame, after.reverse,
      before.reverse, by simp, fun f hf => ?_⟩, rfl⟩
    simpa using hafter f (List.mem_reverse.mp hf)

theorem file?_writeAll_eq_none_iff (writes : List (Path × String)) (p : Path) :
    (empty.writeAll writes).file? p = none ↔ ∀ f ∈ writes, p.same f.1 = false := by
  rw [file?_writeAll, file?_empty, Option.or_none, Option.map_eq_none_iff, List.find?_eq_none]
  simp

/-- A path is listed in some spelling if there is a text for it. -/
theorem file?_eq_none_iff (s : Store) (p : Path) :
    s.file? p = none ↔ ∀ q ∈ s.paths, p.same q = false := by
  rw [file?, Option.map_eq_none_iff, List.find?_eq_none, paths, List.forall_mem_map]
  simp

/-- The files are listed in order, each under the first spelling of its path. -/
theorem paths_writeAll (writes : List (Path × String)) :
    (empty.writeAll writes).Sorted ∧
      ∀ p, p ∈ (empty.writeAll writes).paths ↔ IsFirst writes p := by
  induction writes using List.reverseRecOn with
  | nil =>
    refine ⟨List.Pairwise.nil, fun p => ⟨fun h => absurd h List.not_mem_nil, ?_⟩⟩
    rintro ⟨before, text, after, hwrites, -⟩
    simp at hwrites
  | append_singleton writes f ih =>
    obtain ⟨hsorted, hpaths⟩ := ih
    have hwrite : empty.writeAll (writes ++ [f]) = (empty.writeAll writes).write f.1 f.2 :=
      writeAll_append empty writes [f]
    rw [hwrite]
    refine ⟨hsorted.write f.1 f.2, fun p => ?_⟩
    have hnew : (p = f.1 ∧ ∀ q ∈ (empty.writeAll writes).paths, f.1.same q = false) ↔
        (p = f.1 ∧ ∀ g ∈ writes, p.same g.1 = false) := by
      refine and_congr_right ?_
      rintro rfl
      rw [← file?_eq_none_iff, file?_writeAll_eq_none_iff]
    rw [hsorted.mem_paths_write, hpaths, isFirst_concat, hnew]

/-- What is done to a store. A file that is put there beforehand is a seed. -/
inductive Operation where
  | seed (path : Path) (text : String)
  | write (path : Path) (text : String)
  | createDirectories (path : Path)

namespace Operation

def apply (s : Store) : Operation → Store
  | seed path text | write path text => s.write path text
  | createDirectories path => s.createDirectories path

/-- The file that is put into the store. -/
def file? : Operation → Option (Path × String)
  | seed path text | write path text => some (path, text)
  | createDirectories _ => none

/-- The directory that is made. -/
def directory? : Operation → Option Path
  | seed _ _ | write _ _ => none
  | createDirectories path => some path

end Operation

/-- The files of a history, in the order in which they were put into the store. -/
def written (history : List Operation) : List (Path × String) :=
  history.filterMap Operation.file?

def made (history : List Operation) : List Path := history.filterMap Operation.directory?

/-- The store after all that has been done. -/
def replay (history : List Operation) : Store := history.foldl Operation.apply empty

/-- Files and directories are in the store as if the directories had come first. -/
theorem replay_eq (history : List Operation) :
    replay history = (empty.createAll (made history)).writeAll (written history) := by
  induction history using List.reverseRecOn with
  | nil => rfl
  | append_singleton history op ih =>
    have happly : replay (history ++ [op]) = op.apply (replay history) := List.foldl_append
    have hmade : made (history ++ [op]) = made history ++ op.directory?.toList := by
      cases op <;> simp [made, Operation.directory?]
    have hwritten : written (history ++ [op]) = written history ++ op.file?.toList := by
      cases op <;> simp [written, Operation.file?]
    rw [happly, ih, hmade, hwritten, writeAll_append]
    cases op with
    | seed path text | write path text =>
      rw [Operation.directory?, Option.toList_none, List.append_nil]
      rfl
    | createDirectories path =>
      rw [Operation.apply, createDirectories_writeAll, createAll, createAll, List.foldl_append]
      rfl

theorem files_replay (history : List Operation) :
    (replay history).files = (empty.writeAll (written history)).files := by
  rw [replay_eq]
  exact files_writeAll_congr (files_createAll empty _) _

/-- The directories that are there are those that were made, and all that enclose them. -/
theorem hasDirectory_createAll (s : Store) (made : List Path) (p : Path) :
    (s.createAll made).hasDirectory p = true ↔
      (∃ path ∈ made, ∃ a ∈ path.ancestors, a.text ≠ "" ∧ p.same a = true) ∨
        s.hasDirectory p = true := by
  induction made generalizing s with
  | nil => simp [createAll]
  | cons path rest ih =>
    have hchain : (s.createDirectories path).hasDirectory p = true ↔
        (∃ a ∈ path.ancestors, a.text ≠ "" ∧ p.same a = true) ∨ s.hasDirectory p = true := by
      rw [createDirectories, hasDirectory_foldl_insertDirectory, Bool.or_eq_true,
        List.any_eq_true]
      simp only [mem_directoryChain_iff, and_assoc]
    have hcons : s.createAll (path :: rest) = (s.createDirectories path).createAll rest := rfl
    rw [hcons, ih, hchain, ← or_assoc, or_comm (a := ∃ path ∈ rest, _)]
    simp only [List.mem_cons, exists_eq_or_imp]

/-- A store holds a map over paths in which all spellings of a path count as one, as a history has
made it. -/
structure Reflects (history : List Operation) (s : Store) : Prop where
  /-- A text is found if it was the last to be written. -/
  found : ∀ p text, s.file? p = some text ↔ IsLast (written history) p text
  absent : ∀ p, s.file? p = none ↔ ∀ f ∈ written history, p.same f.1 = false
  read : ∀ p text, s.read p = .ok text ↔ IsLast (written history) p text
  missing : ∀ p, s.read p = .error (.missing p) ↔ ∀ f ∈ written history, p.same f.1 = false
  ordered : s.paths.Pairwise fun p q => p.before q = true
  /-- A path is listed under its first spelling only. -/
  listed : ∀ p, p ∈ s.paths ↔ IsFirst (written history) p
  /-- A directory is there if it was made or encloses one that was. -/
  directories : ∀ p, s.hasDirectory p = true ↔
    ∃ path ∈ made history, ∃ a ∈ path.ancestors, a.text ≠ "" ∧ p.same a = true

theorem read_eq_ok_iff {s : Store} {p : Path} {text : String} :
    s.read p = .ok text ↔ s.file? p = some text := by
  rw [Store.read]
  cases s.file? p with
  | none => simp
  | some found => simp

theorem read_eq_missing_iff {s : Store} {p : Path} :
    s.read p = .error (.missing p) ↔ s.file? p = none := by
  rw [Store.read]
  cases s.file? p with
  | none => simp
  | some found => simp

/-- Every history leaves what it has made. Writing a file leaves the directories as they are, and
making a directory leaves the files. -/
theorem replay_reflects (history : List Operation) :
    Reflects history (replay history) ∧
      ∀ op : Operation,
        (op.directory? = none →
          (op.apply (replay history)).directories = (replay history).directories) ∧
        (op.file? = none → (op.apply (replay history)).files = (replay history).files) := by
  have hfile : ∀ p, (replay history).file? p = (empty.writeAll (written history)).file? p :=
    file?_congr (files_replay history)
  have hpaths : (replay history).paths = (empty.writeAll (written history)).paths :=
    congrArg (List.map Prod.fst) (files_replay history)
  obtain ⟨hordered, hlisted⟩ := paths_writeAll (written history)
  have hfound : ∀ p text, (replay history).file? p = some text ↔
      IsLast (written history) p text := by
    intro p text
    rw [hfile, file?_writeAll_eq_some_iff]
  have habsent : ∀ p, (replay history).file? p = none ↔
      ∀ f ∈ written history, p.same f.1 = false := by
    intro p
    rw [hfile, file?_writeAll_eq_none_iff]
  refine ⟨⟨hfound, habsent, fun p text => read_eq_ok_iff.trans (hfound p text),
    fun p => read_eq_missing_iff.trans (habsent p), ?_, ?_, ?_⟩, ?_⟩
  · rw [hpaths]
    exact hordered
  · intro p
    rw [hpaths, hlisted]
  · intro p
    have hthere : (replay history).hasDirectory p =
        (empty.createAll (made history)).hasDirectory p := by
      rw [replay_eq, hasDirectory, directories_writeAll, hasDirectory]
    rw [hthere, hasDirectory_createAll]
    simp [hasDirectory, empty]
  · intro op
    cases op with
    | seed path text | write path text =>
      refine ⟨fun _ => rfl, ?_⟩
      intro h
      cases h
    | createDirectories path =>
      refine ⟨?_, fun _ => files_createDirectories _ path⟩
      intro h
      cases h

/-- Two files, one of them written under two spellings, and a directory with dots and slashes. -/
def spellings : List Operation :=
  [.seed ⟨"./a//b"⟩ "1", .createDirectories ⟨"x//y/./z/"⟩, .write ⟨"a/b"⟩ "2",
    .write ⟨"./a/b/"⟩ "3"]

theorem replay_reflects_spellings :
    (replay spellings).file? ⟨"./a/./b"⟩ = some "3" ∧
    (replay spellings).read ⟨"b"⟩ = .error (.missing ⟨"b"⟩) ∧
    (⟨"./a//b"⟩ : Path) ∈ (replay spellings).paths ∧
    (replay spellings).hasDirectory ⟨"x/y"⟩ = true ∧
    ((Operation.createDirectories ⟨"a"⟩).apply (replay spellings)).files =
      (replay spellings).files ∧
    ((Operation.write ⟨"x"⟩ "").apply (replay spellings)).directories =
      (replay spellings).directories := by
  obtain ⟨reflects, hframes⟩ := replay_reflects spellings
  refine ⟨?_, ?_, ?_, ?_, (hframes (.createDirectories ⟨"a"⟩)).2 rfl,
    (hframes (.write ⟨"x"⟩ "")).1 rfl⟩
  · exact (reflects.found _ _).mpr
      ⟨[(⟨"./a//b"⟩, "1"), (⟨"a/b"⟩, "2")], ⟨"./a/b/"⟩, [], rfl, by decide +kernel, by simp⟩
  · exact (reflects.missing _).mpr (by decide +kernel)
  · exact (reflects.listed _).mpr
      ⟨[], "1", [(⟨"a/b"⟩, "2"), (⟨"./a/b/"⟩, "3")], rfl, by simp⟩
  · exact (reflects.directories _).mpr ⟨⟨"x//y/./z/"⟩, by decide +kernel, ⟨"x//y"⟩,
      by decide +kernel, by decide +kernel, by decide +kernel⟩

end ElmPrerender.Store
