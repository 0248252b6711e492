import ElmPrerender.Proofs.Store.Files

/-!
# The order of paths

Paths are ordered by their components. The order is strict, and of two paths that are not the same
one stands before the other.
-/

namespace ElmPrerender.Path

namespace Component

theorem before_normal (a b : String) :
    (normal a).before (normal b) = true ↔ a < b := by
  rw [before, decide_eq_true_iff]

@[simp]
theorem before_irrefl (c : Component) : c.before c = false := by
  cases c with
  | root | current | parent => rfl
  | normal name =>
    rw [Bool.eq_false_iff, Ne, before_normal]
    exact String.lt_irrefl name

/-- Kinds of components are ordered by rank; only names are compared further. -/
theorem before_of_rank {a b : Component} (h : a.rank < b.rank) : a.before b = true := by
  cases a <;> cases b <;> simp_all [before, rank]

theorem rank_le_of_before {a b : Component} (h : a.before b = true) : a.rank ≤ b.rank := by
  cases a <;> cases b <;> simp_all [before, rank]

/-- Of two components of one rank, one stands before the other only if they are names. -/
theorem names_of_before {a b : Component} (hrank : a.rank = b.rank) (h : a.before b = true) :
    ∃ m n, a = normal m ∧ b = normal n ∧ m < n := by
  cases a <;> cases b
  case normal.normal m n => exact ⟨m, n, rfl, rfl, (before_normal m n).mp h⟩
  all_goals simp_all [before, rank]

theorem before_trans {a b c : Component} (hab : a.before b = true) (hbc : b.before c = true) :
    a.before c = true := by
  have hle := rank_le_of_before hab
  have hle' := rank_le_of_before hbc
  by_cases hlt : a.rank < c.rank
  · exact before_of_rank hlt
  · -- All three are of one kind, so they are names.
    obtain ⟨m, n, rfl, rfl, hmn⟩ := names_of_before (by omega) hab
    obtain ⟨n', o, hn, rfl, hno⟩ := names_of_before (by omega) hbc
    cases hn
    exact (before_normal m o).mpr (String.lt_trans hmn hno)

theorem before_total (a b : Component) : a.before b = true ∨ a = b ∨ b.before a = true := by
  rcases Nat.lt_trichotomy a.rank b.rank with hlt | heq | hgt
  · exact Or.inl (before_of_rank hlt)
  · cases a <;> cases b
    case normal.normal m n =>
      rw [before_normal, before_normal, normal.injEq]
      exact Std.Trichotomous.rel_or_eq_or_rel_swap
    all_goals simp_all [rank]
  · exact Or.inr (Or.inr (before_of_rank hgt))

end Component

@[simp]
theorem componentsBefore_irrefl (p : List Component) : componentsBefore p p = false := by
  induction p with
  | nil => rfl
  | cons a p ih => simp [componentsBefore, Component.before_irrefl, ih]

theorem componentsBefore_cons {a b : Component} {p q : List Component} :
    componentsBefore (a :: p) (b :: q) = true ↔
      a.before b = true ∨ a = b ∧ componentsBefore p q = true := by
  simp [componentsBefore]

theorem componentsBefore_trans {p q r : List Component} (hpq : componentsBefore p q = true)
    (hqr : componentsBefore q r = true) : componentsBefore p r = true := by
  induction p generalizing q r with
  | nil =>
    cases q with
    | nil => cases hpq
    | cons b q =>
      cases r with
      | nil => cases hqr
      | cons c r => rfl
  | cons a p ih =>
    cases q with
    | nil => cases hpq
    | cons b q =>
      cases r with
      | nil => cases hqr
      | cons c r =>
        rw [componentsBefore_cons] at hpq hqr ⊢
        rcases hpq with hab | ⟨rfl, hpq⟩
        · rcases hqr with hbc | ⟨rfl, -⟩
          · exact Or.inl (Component.before_trans hab hbc)
          · exact Or.inl hab
        · rcases hqr with hbc | ⟨rfl, hqr⟩
          · exact Or.inl hbc
          · exact Or.inr ⟨rfl, ih hpq hqr⟩

theorem componentsBefore_total (p q : List Component) :
    componentsBefore p q = true ∨ p = q ∨ componentsBefore q p = true := by
  induction p generalizing q with
  | nil =>
    cases q with
    | nil => exact Or.inr (Or.inl rfl)
    | cons b q => exact Or.inl rfl
  | cons a p ih =>
    cases q with
    | nil => exact Or.inr (Or.inr rfl)
    | cons b q =>
      rw [componentsBefore_cons, componentsBefore_cons]
      rcases Component.before_total a b with hab | rfl | hba
      · exact Or.inl (Or.inl hab)
      · rcases ih q with hpq | rfl | hqp
        · exact Or.inl (Or.inr ⟨rfl, hpq⟩)
        · exact Or.inr (Or.inl rfl)
        · exact Or.inr (Or.inr (Or.inr ⟨rfl, hqp⟩))
      · exact Or.inr (Or.inr (Or.inl hba))

variable {p q r : Path}

theorem before_trans (hpq : p.before q = true) (hqr : q.before r = true) : p.before r = true :=
  componentsBefore_trans hpq hqr

theorem before_total (p q : Path) :
    p.before q = true ∨ p.same q = true ∨ q.before p = true := by
  rw [same_iff]
  exact componentsBefore_total p.components q.components

theorem before_asymm (h : p.before q = true) : q.before p = false := by
  rw [Bool.eq_false_iff]
  intro hqp
  have hself := before_trans h hqp
  rw [before, componentsBefore_irrefl] at hself
  cases hself

theorem same_eq_false_of_before (h : p.before q = true) : p.same q = false := by
  rw [same_eq_false_iff]
  intro hsame
  rw [before, hsame, componentsBefore_irrefl] at h
  cases h

/-- Paths that are the same stand before the same paths, and the same paths stand before them. -/
theorem before_congr_left (h : p.same q = true) (r : Path) : p.before r = q.before r := by
  rw [before, before, same_iff.mp h]

theorem before_congr_right (h : p.same q = true) (r : Path) : r.before p = r.before q := by
  rw [before, before, same_iff.mp h]

end ElmPrerender.Path
