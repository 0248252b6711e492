import ElmPrerender.Store

/-!
# Texts in a store

What is found under a path after a write, after several writes, and after new directories. No order
of the list of files is needed.
-/

namespace ElmPrerender

namespace Path

variable {p q : Path}

theorem same_iff : p.same q = true ↔ p.components = q.components := by
  rw [same, beq_iff_eq]

theorem same_eq_false_iff : p.same q = false ↔ p.components ≠ q.components := by
  rw [Ne, ← same_iff, Bool.not_eq_true]

@[simp]
theorem same_refl (p : Path) : p.same p = true := same_iff.mpr rfl

theorem same_comm (p q : Path) : p.same q = q.same p := by
  rw [same, same, Bool.beq_comm]

/-- Two paths that are the same are compared with a third in the same way. -/
theorem same_congr (h : p.same q = true) (r : Path) : p.same r = q.same r := by
  rw [same, same, same_iff.mp h]

end Path

namespace Store

variable (s : Store)

/-- A text put into a list of files is found under every spelling of its path, whatever their order. -/
theorem find?_insertFile (path : Path) (text : String) (files : List (Path × String)) (p : Path) :
    ((insertFile path text files).find? fun f => p.same f.1).map (·.2) =
      if p.same path then some text else (files.find? fun f => p.same f.1).map (·.2) := by
  induction files with
  | nil => cases h : p.same path <;> simp [insertFile, h]
  | cons f rest ih =>
    obtain ⟨other, old⟩ := f
    rw [insertFile]
    by_cases hsame : path.same other
    · rw [if_pos hsame, List.find?_cons, List.find?_cons]
      have hp : p.same path = p.same other := by
        rw [Path.same_comm p, Path.same_comm p, Path.same_congr hsame]
      rw [hp]
      cases p.same other <;> rfl
    · rw [if_neg hsame]
      by_cases hbefore : path.before other
      · rw [if_pos hbefore, List.find?_cons]
        cases p.same path <;> rfl
      · rw [if_neg hbefore, List.find?_cons, List.find?_cons]
        cases hother : p.same other with
        | false => exact ih
        | true =>
          have hp : p.same path = false := by
            rw [Path.same_congr hother, Path.same_comm]
            exact Bool.eq_false_iff.mpr hsame
          rw [hp]
          rfl

/-- A written text is found under every spelling of its path; other paths keep their texts. -/
@[simp]
theorem file?_write (path : Path) (text : String) (p : Path) :
    (s.write path text).file? p = if p.same path then some text else s.file? p :=
  find?_insertFile path text s.files p

/-- Several texts, written one after the other. -/
def writeAll (files : List (Path × String)) : Store :=
  files.foldl (fun s f => s.write f.1 f.2) s

/-- The text of the last write of the path counts, if there is one. -/
theorem file?_writeAll (files : List (Path × String)) (p : Path) :
    (s.writeAll files).file? p =
      ((files.reverse.find? fun f => p.same f.1).map (·.2)).or (s.file? p) := by
  induction files generalizing s with
  | nil => rfl
  | cons f rest ih =>
    have hcons : s.writeAll (f :: rest) = (s.write f.1 f.2).writeAll rest := rfl
    rw [hcons, ih, file?_write, List.reverse_cons, List.find?_append]
    cases rest.reverse.find? fun f => p.same f.1 with
    | some g => rfl
    | none =>
      cases h : p.same f.1 <;> simp [h]

theorem file?_writeAll_of_forall {files : List (Path × String)} {p : Path}
    (h : ∀ f ∈ files, p.same f.1 = false) : (s.writeAll files).file? p = s.file? p := by
  have hnone : files.reverse.find? (fun f => p.same f.1) = none := by
    simpa using h
  rw [file?_writeAll, hnone]
  rfl

@[simp]
theorem files_write (path : Path) (text : String) :
    (s.write path text).files = insertFile path text s.files := rfl

/-- What is written depends on the files only. -/
theorem files_writeAll_congr {s t : Store} (h : s.files = t.files) (files : List (Path × String)) :
    (s.writeAll files).files = (t.writeAll files).files := by
  induction files generalizing s t with
  | nil => exact h
  | cons f rest ih =>
    exact ih (by rw [files_write, files_write, h])

@[simp]
theorem directories_writeAll (files : List (Path × String)) :
    (s.writeAll files).directories = s.directories := by
  induction files generalizing s with
  | nil => rfl
  | cons f rest ih => exact ih (s.write f.1 f.2)

@[simp]
theorem files_insertDirectory (p : Path) : (s.insertDirectory p).files = s.files := by
  unfold insertDirectory
  split <;> rfl

@[simp]
theorem files_foldl_insertDirectory (chain : List Path) :
    (chain.foldl insertDirectory s).files = s.files := by
  induction chain generalizing s with
  | nil => rfl
  | cons p rest ih => rw [List.foldl_cons, ih, files_insertDirectory]

@[simp]
theorem files_createDirectories (path : Path) : (s.createDirectories path).files = s.files :=
  s.files_foldl_insertDirectory (directoryChain path)

/-- All spellings of a path lead to one text. -/
theorem file?_of_same {p q : Path} (h : p.same q = true) : s.file? p = s.file? q := by
  have hspelling : (fun f : Path × String => p.same f.1) = fun f => q.same f.1 := by
    funext f
    exact Path.same_congr h f.1
  rw [file?, file?, hspelling]

theorem file?_congr {s t : Store} (h : s.files = t.files) (p : Path) : s.file? p = t.file? p := by
  rw [file?, file?, h]

end Store

end ElmPrerender
