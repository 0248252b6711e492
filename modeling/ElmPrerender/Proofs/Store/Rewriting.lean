import ElmPrerender.Proofs.Path.Order

/-!
# Writing again

Writes of different paths can be exchanged, and of two writes of one path the second text counts.
So a sequence of writes can be cut down to one write for each path, and a store to which the same
files are written once more stays as it is. The files need not be listed in any order.
-/

namespace ElmPrerender.Store

section Insert

variable {path other : Path} {old : String}

theorem insertFile_of_same (h : path.same other = true) (text : String)
    (rest : List (Path × String)) :
    insertFile path text ((other, old) :: rest) = (other, text) :: rest := by
  rw [insertFile, if_pos h]

theorem insertFile_of_before (h : path.before other = true) (text : String)
    (rest : List (Path × String)) :
    insertFile path text ((other, old) :: rest) = (path, text) :: (other, old) :: rest := by
  rw [insertFile, if_neg (by simp [Path.same_eq_false_of_before h]), if_pos h]

theorem insertFile_of_after (h : other.before path = true) (text : String)
    (rest : List (Path × String)) :
    insertFile path text ((other, old) :: rest) = (other, old) :: insertFile path text rest := by
  have hsame : path.same other = false := by
    rw [Path.same_comm]
    exact Path.same_eq_false_of_before h
  rw [insertFile, if_neg (by simp [hsame]), if_neg (by simp [Path.before_asymm h])]

end Insert

/-- The second text of a path takes the place of the first, whose spelling stays. -/
theorem insertFile_insertFile {path path' : Path} (h : path'.same path = true)
    (text text' : String) (files : List (Path × String)) :
    insertFile path' text' (insertFile path text files) = insertFile path text' files := by
  induction files with
  | nil => exact insertFile_of_same h text' []
  | cons f rest ih =>
    obtain ⟨other, old⟩ := f
    rcases Path.before_total path other with hbefore | hsame | hafter
    · rw [insertFile_of_before hbefore, insertFile_of_before hbefore, insertFile_of_same h]
    · have hsame' : path'.same other = true := by rw [Path.same_congr h, hsame]
      rw [insertFile_of_same hsame, insertFile_of_same hsame, insertFile_of_same hsame']
    · have hafter' : other.before path' = true := by
        rw [Path.before_congr_right h, hafter]
      rw [insertFile_of_after hafter, insertFile_of_after hafter, insertFile_of_after hafter', ih]

theorem insertFile_comm_of_before {p q : Path} (h : p.before q = true) (text text' : String)
    (files : List (Path × String)) :
    insertFile q text' (insertFile p text files) =
      insertFile p text (insertFile q text' files) := by
  induction files with
  | nil => exact (insertFile_of_after h text' []).trans (insertFile_of_before h text []).symm
  | cons f rest ih =>
    obtain ⟨other, old⟩ := f
    -- The first path stands before the first file, is the same, or stands behind it.
    rcases Path.before_total p other with hp | hp | hp
    · rw [insertFile_of_before hp, insertFile_of_after h]
      rcases Path.before_total q other with hq | hq | hq
      · rw [insertFile_of_before hq, insertFile_of_before h]
      · rw [insertFile_of_same hq, insertFile_of_before hp]
      · rw [insertFile_of_after hq, insertFile_of_before hp]
    · have hq : other.before q = true := by rw [← Path.before_congr_left hp, h]
      rw [insertFile_of_same hp, insertFile_of_after hq, insertFile_of_after hq,
        insertFile_of_same hp]
    · have hq := Path.before_trans hp h
      rw [insertFile_of_after hp, insertFile_of_after hq, insertFile_of_after hq,
        insertFile_of_after hp, ih]

/-- Writes of different paths can be exchanged. -/
theorem insertFile_comm {p q : Path} (h : p.same q = false) (text text' : String)
    (files : List (Path × String)) :
    insertFile q text' (insertFile p text files) =
      insertFile p text (insertFile q text' files) := by
  rcases Path.before_total p q with hpq | hsame | hqp
  · exact insertFile_comm_of_before hpq text text' files
  · rw [h] at hsame
    cases hsame
  · exact (insertFile_comm_of_before hqp text' text files).symm

variable (s : Store)

theorem write_write {path path' : Path} (h : path'.same path = true) (text text' : String) :
    (s.write path text).write path' text' = s.write path text' := by
  simp only [write, insertFile_insertFile h]

theorem write_comm {p q : Path} (h : p.same q = false) (text text' : String) :
    (s.write p text).write q text' = (s.write q text').write p text := by
  simp only [write, insertFile_comm h]

@[simp]
theorem writeAll_cons (f : Path × String) (rest : List (Path × String)) :
    s.writeAll (f :: rest) = (s.write f.1 f.2).writeAll rest := rfl

@[simp]
theorem writeAll_append (first second : List (Path × String)) :
    s.writeAll (first ++ second) = (s.writeAll first).writeAll second :=
  List.foldl_append

/-- A write can be put behind writes of other paths. -/
theorem write_writeAll {path : Path} {files : List (Path × String)}
    (h : ∀ f ∈ files, path.same f.1 = false) (text : String) :
    (s.write path text).writeAll files = (s.writeAll files).write path text := by
  induction files generalizing s with
  | nil => rfl
  | cons f rest ih =>
    have hf := h f (List.mem_cons_self ..)
    have hrest := fun g hg => h g (List.mem_cons_of_mem f hg)
    rw [writeAll_cons, write_comm s hf, ih _ hrest, writeAll_cons]

/-- No two of the files are written under one path. -/
abbrev Distinct (files : List (Path × String)) : Prop :=
  files.Pairwise fun f g => f.1.same g.1 = false

/-- A write behind others either changes the text of one of them or is one more. -/
theorem exists_distinct_write {files : List (Path × String)} (h : Distinct files)
    (f : Path × String) :
    ∃ files', Distinct files' ∧
      ∀ s : Store, (s.writeAll files).write f.1 f.2 = s.writeAll files' := by
  by_cases hold : ∃ g ∈ files, f.1.same g.1 = true
  · obtain ⟨g, hg, hsame⟩ := hold
    obtain ⟨before, behind, rfl⟩ := List.append_of_mem hg
    obtain ⟨hbefore, hrest, hbetween⟩ := List.pairwise_append.mp h
    obtain ⟨hg, hbehind⟩ := List.pairwise_cons.mp hrest
    have hothers : ∀ k ∈ behind, f.1.same k.1 = false := by
      intro k hk
      rw [Path.same_congr hsame]
      exact hg k hk
    refine ⟨before ++ (g.1, f.2) :: behind, ?_, ?_⟩
    · refine List.pairwise_append.mpr ⟨hbefore, List.pairwise_cons.mpr ⟨hg, hbehind⟩, ?_⟩
      intro a ha k hk
      rcases List.mem_cons.mp hk with rfl | hk
      · exact hbetween a ha g (List.mem_cons_self ..)
      · exact hbetween a ha k (List.mem_cons_of_mem g hk)
    · intro s
      rw [writeAll_append, writeAll_append, writeAll_cons, writeAll_cons,
        ← write_writeAll _ hothers, write_write _ hsame]
  · refine ⟨files ++ [f], ?_, ?_⟩
    · refine List.pairwise_append.mpr ⟨h, List.pairwise_singleton _ _, ?_⟩
      intro a ha k hk
      rw [List.mem_singleton.mp hk, Path.same_comm]
      exact Bool.eq_false_iff.mpr fun hsame => hold ⟨a, ha, hsame⟩
    · intro s
      rw [writeAll_append]
      rfl

theorem exists_distinct_writeAll {first : List (Path × String)} (h : Distinct first)
    (files : List (Path × String)) :
    ∃ distinct, Distinct distinct ∧
      ∀ s : Store, (s.writeAll first).writeAll files = s.writeAll distinct := by
  induction files generalizing first with
  | nil => exact ⟨first, h, fun _ => rfl⟩
  | cons f rest ih =>
    obtain ⟨next, hnext, hwrite⟩ := exists_distinct_write h f
    obtain ⟨distinct, hdistinct, heffect⟩ := ih hnext
    refine ⟨distinct, hdistinct, ?_⟩
    intro s
    rw [writeAll_cons, hwrite, heffect]

theorem exists_distinct (files : List (Path × String)) :
    ∃ distinct, Distinct distinct ∧ ∀ s : Store, s.writeAll files = s.writeAll distinct :=
  exists_distinct_writeAll List.Pairwise.nil files

theorem writeAll_writeAll_of_distinct {files : List (Path × String)}
    (h : Distinct files) :
    (s.writeAll files).writeAll files = s.writeAll files := by
  induction files generalizing s with
  | nil => rfl
  | cons f rest ih =>
    obtain ⟨hothers, hrest⟩ := List.pairwise_cons.mp h
    calc (s.writeAll (f :: rest)).writeAll (f :: rest)
        = (((s.write f.1 f.2).writeAll rest).write f.1 f.2).writeAll rest := rfl
      _ = (((s.write f.1 f.2).write f.1 f.2).writeAll rest).writeAll rest := by
        rw [write_writeAll (s.write f.1 f.2) hothers]
      _ = ((s.write f.1 f.2).writeAll rest).writeAll rest := by
        rw [write_write s (Path.same_refl f.1)]
      _ = s.writeAll (f :: rest) := ih _ hrest

/-- Files that are written once more, in the same order, leave the store as it is. -/
theorem writeAll_writeAll (files : List (Path × String)) :
    (s.writeAll files).writeAll files = s.writeAll files := by
  obtain ⟨distinct, hdistinct, heffect⟩ := exists_distinct files
  rw [heffect, heffect]
  exact writeAll_writeAll_of_distinct s hdistinct

end ElmPrerender.Store
