import ElmPrerender.Proofs.Path.Ancestors
import ElmPrerender.Proofs.Store.Rewriting

/-!
# Directories in a store

Directories are never removed, and making one that is there with all that enclose it changes
nothing. So directories and files that are made once more, in the same order, leave the store as it
is.
-/

namespace ElmPrerender.Store

variable (s : Store)

/-- Several directories, made one after the other. -/
def createAll (directories : List Path) : Store := directories.foldl createDirectories s

/-- A directory is there, with all that enclose it. -/
def HasChain (path : Path) : Prop := ∀ p ∈ directoryChain path, s.hasDirectory p = true

theorem mem_directoryChain_iff {p path : Path} :
    p ∈ directoryChain path ↔ p ∈ path.ancestors ∧ p.text ≠ "" := by
  have hchain : directoryChain path = path.ancestors.filter fun a => !a.text.isEmpty :=
    Path.takeWhile_chain _ path
  rw [hchain, List.mem_filter]
  simp

/-- The directories that are made for a path are its beginnings. -/
theorem any_same_directoryChain (p path : Path) :
    (directoryChain path).any p.same = true ↔
      p.components ≠ [] ∧ p.components <+: path.components := by
  rw [List.any_eq_true]
  constructor
  · rintro ⟨a, ha, hsame⟩
    obtain ⟨hmem, htext⟩ := mem_directoryChain_iff.mp ha
    rw [Path.same_iff.mp hsame]
    have hnonempty : a.components ≠ [] := mt Path.components_eq_nil_iff.mp htext
    exact ⟨hnonempty, (Path.exists_mem_ancestors_iff path hnonempty).mp ⟨a, hmem, rfl⟩⟩
  · rintro ⟨hnonempty, hbeginning⟩
    obtain ⟨a, ha, hsame⟩ := (Path.exists_mem_ancestors_iff path hnonempty).mpr hbeginning
    refine ⟨a, mem_directoryChain_iff.mpr ⟨ha, ?_⟩, Path.same_iff.mpr hsame.symm⟩
    exact mt Path.components_eq_nil_iff.mpr (by rwa [hsame])

@[simp]
theorem hasDirectory_insertDirectory (p q : Path) :
    (s.insertDirectory p).hasDirectory q = (q.same p || s.hasDirectory q) := by
  unfold insertDirectory
  split
  · rename_i hthere
    cases hsame : q.same p with
    | false => rfl
    | true => rw [Bool.true_or, hasDirectory, Path.same_iff.mp hsame, ← hasDirectory, hthere]
  · rw [Bool.eq_iff_iff]
    simp [hasDirectory, Path.same, or_comm]

theorem insertDirectory_of_hasDirectory {p : Path} (h : s.hasDirectory p = true) :
    s.insertDirectory p = s := by
  rw [insertDirectory, if_pos h]

variable {s}

theorem hasDirectory_foldl_insertDirectory (chain : List Path) (q : Path) :
    (chain.foldl insertDirectory s).hasDirectory q =
      (chain.any q.same || s.hasDirectory q) := by
  induction chain generalizing s with
  | nil => rfl
  | cons p rest ih =>
    rw [List.foldl_cons, ih, hasDirectory_insertDirectory, List.any_cons, ← Bool.or_assoc,
      Bool.or_comm (rest.any q.same)]

/-- What is there after a directory has been made with all that enclose it. -/
@[simp]
theorem hasDirectory_createDirectories (path q : Path) :
    (s.createDirectories path).hasDirectory q = true ↔
      (q.components ≠ [] ∧ q.components <+: path.components) ∨ s.hasDirectory q = true := by
  rw [createDirectories, hasDirectory_foldl_insertDirectory, Bool.or_eq_true,
    any_same_directoryChain]

theorem hasChain_createDirectories (path : Path) : (s.createDirectories path).HasChain path := by
  intro p hp
  rw [createDirectories, hasDirectory_foldl_insertDirectory, Bool.or_eq_true, List.any_eq_true]
  exact Or.inl ⟨p, hp, Path.same_refl p⟩

/-- A directory that is there stays. -/
theorem HasChain.createDirectories {path : Path} (h : s.HasChain path) (other : Path) :
    (s.createDirectories other).HasChain path := by
  intro p hp
  rw [Store.createDirectories, hasDirectory_foldl_insertDirectory, h p hp, Bool.or_true]

theorem foldl_insertDirectory_of_hasDirectory {chain : List Path}
    (h : ∀ p ∈ chain, s.hasDirectory p = true) : chain.foldl insertDirectory s = s := by
  induction chain with
  | nil => rfl
  | cons p rest ih =>
    rw [List.foldl_cons, insertDirectory_of_hasDirectory s (h p (List.mem_cons_self ..))]
    exact ih fun q hq => h q (List.mem_cons_of_mem p hq)

theorem createDirectories_of_hasChain {path : Path} (h : s.HasChain path) :
    s.createDirectories path = s :=
  foldl_insertDirectory_of_hasDirectory h

theorem HasChain.createAll {path : Path} (h : s.HasChain path) (directories : List Path) :
    (s.createAll directories).HasChain path := by
  induction directories generalizing s with
  | nil => exact h
  | cons d rest ih => exact ih (h.createDirectories d)

theorem hasChain_createAll {directories : List Path} {path : Path} (h : path ∈ directories) :
    (s.createAll directories).HasChain path := by
  induction directories generalizing s with
  | nil => cases h
  | cons d rest ih =>
    rcases List.mem_cons.mp h with rfl | hrest
    · exact (hasChain_createDirectories path).createAll rest
    · exact ih hrest

theorem createAll_of_hasChain {directories : List Path}
    (h : ∀ path ∈ directories, s.HasChain path) : s.createAll directories = s := by
  induction directories with
  | nil => rfl
  | cons d rest ih =>
    rw [createAll, List.foldl_cons, createDirectories_of_hasChain (h d (List.mem_cons_self ..))]
    exact ih fun path hpath => h path (List.mem_cons_of_mem d hpath)

@[simp]
theorem files_createAll (s : Store) (directories : List Path) :
    (s.createAll directories).files = s.files := by
  induction directories generalizing s with
  | nil => rfl
  | cons d rest ih => exact (ih (s.createDirectories d)).trans (files_createDirectories s d)

theorem insertDirectory_write (path p : Path) (text : String) :
    (s.write path text).insertDirectory p = (s.insertDirectory p).write path text := by
  unfold insertDirectory hasDirectory write
  dsimp only
  split <;> rfl

theorem foldl_insertDirectory_write (path : Path) (text : String) (chain : List Path) :
    chain.foldl insertDirectory (s.write path text) =
      (chain.foldl insertDirectory s).write path text := by
  induction chain generalizing s with
  | nil => rfl
  | cons p rest ih => rw [List.foldl_cons, insertDirectory_write, ih, List.foldl_cons]

theorem createDirectories_write (path other : Path) (text : String) :
    (s.write path text).createDirectories other = (s.createDirectories other).write path text :=
  foldl_insertDirectory_write path text (directoryChain other)

theorem createDirectories_writeAll (files : List (Path × String)) (other : Path) :
    (s.writeAll files).createDirectories other = (s.createDirectories other).writeAll files := by
  induction files generalizing s with
  | nil => rfl
  | cons f rest ih => rw [writeAll_cons, ih, createDirectories_write, writeAll_cons]

theorem createAll_writeAll (files : List (Path × String)) (directories : List Path) :
    (s.writeAll files).createAll directories = (s.createAll directories).writeAll files := by
  induction directories generalizing s with
  | nil => rfl
  | cons d rest ih =>
    exact (congrArg (createAll · rest) (createDirectories_writeAll files d)).trans ih

/-- A store to which the same directories and files are added once more stays as it is. -/
theorem createAll_writeAll_again (s : Store) (directories : List Path)
    (files : List (Path × String)) :
    (((s.createAll directories).writeAll files).createAll directories).writeAll files =
      (s.createAll directories).writeAll files := by
  have hthere : (s.createAll directories).createAll directories = s.createAll directories :=
    createAll_of_hasChain fun _ hpath => hasChain_createAll hpath
  rw [createAll_writeAll, hthere, writeAll_writeAll]

end ElmPrerender.Store
