import Mathlib.Data.List.Basic

/-!
# Pieces of a text

A text that ends each of its lines by the separator is cut back into exactly these lines and an
empty last piece. A text that is cut behind one of its pieces has the pieces up to there.
-/

namespace ElmPrerender.Text

variable {sep : Char}

theorem splitOn_lines {lines : List (List Char)} (h : ∀ line ∈ lines, sep ∉ line) :
    (lines.flatMap (· ++ [sep])).splitOn sep = lines ++ [[]] := by
  induction lines with
  | nil => rfl
  | cons line rest ih =>
    simp only [List.flatMap_cons, List.append_assoc, List.cons_append, List.nil_append]
    rw [List.splitOn_append_cons_self_of_not_mem (h line (by simp)),
      ih fun l hl => h l (by simp [hl])]

theorem splitOn_cons_self (sep : Char) (s : List Char) :
    (sep :: s).splitOn sep = [] :: s.splitOn sep := by
  rw [List.splitOn_cons_eq_if_modifyHead, if_pos (beq_self_eq_true sep)]

/-- A character that is no separator goes to the first piece of the rest. -/
theorem splitOn_cons_of_ne {c : Char} (hc : c ≠ sep) {s piece : List Char}
    {pieces : List (List Char)} (hs : s.splitOn sep = piece :: pieces) :
    (c :: s).splitOn sep = (c :: piece) :: pieces := by
  rw [List.splitOn_cons_eq_if_modifyHead, if_neg (by simpa using hc), hs, List.modifyHead_cons]

theorem notMem_of_mem_splitOn {s piece : List Char} (h : piece ∈ s.splitOn sep) :
    sep ∉ piece := by
  induction s generalizing piece with
  | nil =>
    rw [List.splitOn_nil, List.mem_singleton] at h
    simp [h]
  | cons c r ih =>
    by_cases hc : c = sep
    · rw [hc, splitOn_cons_self] at h
      rcases List.mem_cons.mp h with rfl | hr
      · simp
      · exact ih hr
    · obtain ⟨first, pieces, hs⟩ := List.exists_cons_of_ne_nil (List.splitOn_ne_nil sep r)
      rw [splitOn_cons_of_ne hc hs] at h
      rw [hs] at ih
      rcases List.mem_cons.mp h with rfl | hr
      · simp [Ne.symm hc, ih (List.mem_cons_self ..)]
      · exact ih (List.mem_cons_of_mem first hr)

/-- The text of the first pieces is the beginning of the text of all. -/
theorem intercalate_isPrefix (sep : List Char) (front back : List (List Char)) :
    sep.intercalate front <+: sep.intercalate (front ++ back) := by
  induction front with
  | nil => exact List.nil_prefix
  | cons piece rest ih =>
    cases rest with
    | nil =>
      cases back with
      | nil => exact List.prefix_rfl
      | cons next back =>
        rw [List.singleton_append, List.intercalate_singleton, List.intercalate_cons_cons,
          List.append_assoc]
        exact List.prefix_append ..
    | cons next rest =>
      rw [List.cons_append, List.cons_append, List.intercalate_cons_cons,
        List.intercalate_cons_cons]
      exact (List.prefix_append_right_inj _).mpr ih

/-- The beginning of a text up to the end of one of its pieces has the pieces up to there. -/
theorem splitOn_take {s : List Char} {front back : List (List Char)}
    (h : s.splitOn sep = front ++ back) (nonempty : front ≠ []) :
    (s.take ([sep].intercalate front).length).splitOn sep = front := by
  have hs : s = [sep].intercalate (front ++ back) := by rw [← h, List.intercalate_splitOn]
  have hbegin : [sep].intercalate front <+: s := hs ▸ intercalate_isPrefix [sep] front back
  rw [← List.prefix_iff_eq_take.mp hbegin]
  refine List.splitOn_intercalate sep (fun piece hpiece => ?_) nonempty
  exact notMem_of_mem_splitOn (s := s) (h ▸ List.mem_append_left back hpiece)

theorem mem_of_mem_splitOn (sep : Char) {c : Char} {s : List Char} (hc : c ∈ s) :
    c = sep ∨ ∃ piece ∈ s.splitOn sep, c ∈ piece := by
  induction s with
  | nil => simp at hc
  | cons d r ih =>
    by_cases hd : d = sep
    · rw [hd, splitOn_cons_self]
      rcases List.mem_cons.mp hc with rfl | hr
      · exact Or.inl hd
      · rcases ih hr with h | ⟨piece, hp, hcp⟩
        · exact Or.inl h
        · exact Or.inr ⟨piece, List.mem_cons_of_mem [] hp, hcp⟩
    · obtain ⟨piece, pieces, hs⟩ := List.exists_cons_of_ne_nil (List.splitOn_ne_nil sep r)
      rw [splitOn_cons_of_ne hd hs]
      rcases List.mem_cons.mp hc with rfl | hr
      · exact Or.inr ⟨c :: piece, by simp, by simp⟩
      · rcases ih hr with h | ⟨p, hp, hcp⟩
        · exact Or.inl h
        · rw [hs] at hp
          rcases List.mem_cons.mp hp with rfl | hp
          · exact Or.inr ⟨d :: p, by simp, by simp [hcp]⟩
          · exact Or.inr ⟨p, by simp [hp], hcp⟩

end ElmPrerender.Text
