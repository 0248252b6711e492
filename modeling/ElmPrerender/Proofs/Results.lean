import Mathlib.Data.List.Forall2

/-!
# Results

What it takes for a composed result to be there. A list is accepted as a whole if each of its items
is.
-/

namespace ElmPrerender

variable {α β ε ε' : Type}

theorem mapError_eq_ok_iff {r : Except ε α} {f : ε → ε'} {a : α} :
    r.mapError f = .ok a ↔ r = .ok a := by
  cases r with
  | error e =>
    constructor
    · intro h
      cases h
    · intro h
      cases h
  | ok b =>
    constructor
    · intro h
      cases h
      rfl
    · intro h
      cases h
      rfl

theorem bind_eq_ok_iff {r : Except ε α} {f : α → Except ε β} {b : β} :
    r.bind f = .ok b ↔ ∃ a, r = .ok a ∧ f a = .ok b := by
  cases r with
  | error e => simp [Except.bind]
  | ok a => simp [Except.bind]

theorem mapM_eq_ok_iff {f : α → Except ε β} {l : List α} {results : List β} :
    l.mapM f = .ok results ↔ l.map f = results.map Except.ok := by
  induction l generalizing results with
  | nil =>
    rw [List.mapM_nil, List.map_nil]
    constructor
    · intro h
      cases h
      rfl
    · intro h
      rw [List.map_eq_nil_iff.mp h.symm]
      rfl
  | cons a rest ih =>
    rw [List.mapM_cons, List.map_cons]
    cases ha : f a with
    | error e =>
      constructor
      · intro h
        cases h
      · intro h
        cases results <;> cases h
    | ok b =>
      constructor
      · intro h
        cases hrest : rest.mapM f with
        | error e =>
          rw [hrest] at h
          cases h
        | ok bs =>
          rw [hrest] at h
          cases h
          rw [List.map_cons, ih.mp hrest]
      · intro h
        cases results with
        | nil => cases h
        | cons b' bs =>
          rw [List.map_cons, List.cons.injEq] at h
          obtain ⟨hb, hrest⟩ := h
          cases hb
          rw [ih.mpr hrest]
          rfl

/-- Items that are accepted one by one are accepted together. -/
theorem mapM_eq_ok {f : α → Except ε β} {g : α → β} {l : List α}
    (h : ∀ a ∈ l, f a = .ok (g a)) : l.mapM f = .ok (l.map g) := by
  rw [mapM_eq_ok_iff, List.map_map]
  exact List.map_congr_left h

theorem exists_of_mem_mapM {f : α → Except ε β} {l : List α} {results : List β}
    (h : l.mapM f = .ok results) {b : β} (hb : b ∈ results) : ∃ a ∈ l, f a = .ok b := by
  have hmem := List.mem_map_of_mem (f := Except.ok (ε := ε)) hb
  rw [← mapM_eq_ok_iff.mp h] at hmem
  exact List.mem_map.mp hmem

/-- Items and results stand side by side. -/
theorem mapM_eq_ok_iff_forall₂ {f : α → Except ε β} {l : List α} {results : List β} :
    l.mapM f = .ok results ↔ List.Forall₂ (fun a b => f a = .ok b) l results := by
  rw [mapM_eq_ok_iff, ← List.forall₂_eq_eq_eq, List.forall₂_map_left_iff,
    List.forall₂_map_right_iff]

/-- A list is refused over the first of its items that is. -/
theorem mapM_eq_error_iff {f : α → Except ε β} {l : List α} {e : ε} :
    l.mapM f = .error e ↔ ∃ before a after, l = before ++ a :: after ∧
      (∀ b ∈ before, ∃ r, f b = .ok r) ∧ f a = .error e := by
  induction l with
  | nil => simp [pure, Except.pure]
  | cons a rest ih =>
    rw [List.mapM_cons]
    constructor
    · intro h
      cases ha : f a with
      | error e' =>
        rw [ha] at h
        cases h
        exact ⟨[], a, rest, rfl, by simp, ha⟩
      | ok r =>
        rw [ha] at h
        cases hrest : rest.mapM f with
        | ok rs =>
          rw [hrest] at h
          cases h
        | error e' =>
          rw [hrest] at h
          cases h
          obtain ⟨before, a', after, rfl, hbefore, ha'⟩ := ih.mp hrest
          exact ⟨a :: before, a', after, rfl, List.forall_mem_cons.mpr ⟨⟨r, ha⟩, hbefore⟩, ha'⟩
    · rintro ⟨before, a', after, hl, hbefore, ha'⟩
      cases before with
      | nil =>
        obtain ⟨rfl, rfl⟩ := List.cons.inj hl
        rw [ha']
        rfl
      | cons b before =>
        obtain ⟨rfl, rfl⟩ := List.cons.inj hl
        obtain ⟨⟨r, hr⟩, hbefore⟩ := List.forall_mem_cons.mp hbefore
        rw [hr, ih.mpr ⟨before, a', after, rfl, hbefore, ha'⟩]
        rfl

theorem exists_of_mapM_error {f : α → Except ε β} {l : List α} {e : ε}
    (h : l.mapM f = .error e) : ∃ a ∈ l, f a = .error e := by
  obtain ⟨before, a, after, rfl, -, ha⟩ := mapM_eq_error_iff.mp h
  exact ⟨a, by simp, ha⟩

theorem exists_mapM_eq_ok_iff {f : α → Except ε β} {l : List α} :
    (∃ results, l.mapM f = .ok results) ↔ ∀ a ∈ l, ∃ b, f a = .ok b := by
  constructor
  · rintro ⟨results, h⟩ a ha
    have hmem := List.mem_map_of_mem (f := f) ha
    rw [mapM_eq_ok_iff.mp h] at hmem
    obtain ⟨b, -, hb⟩ := List.mem_map.mp hmem
    exact ⟨b, hb.symm⟩
  · intro h
    cases hall : l.mapM f with
    | ok results => exact ⟨results, rfl⟩
    | error e =>
      obtain ⟨a, ha, herror⟩ := exists_of_mapM_error hall
      obtain ⟨b, hb⟩ := h a ha
      rw [herror] at hb
      cases hb

theorem forall₂_congr_of_mem {R S : α → β → Prop} {l : List α} {results : List β}
    (h : ∀ a ∈ l, ∀ b, R a b ↔ S a b) : List.Forall₂ R l results ↔ List.Forall₂ S l results := by
  constructor
  · intro hR
    exact ((List.forall₂_and_left l results).mpr ⟨h, hR⟩).imp fun a b hab => (hab.1 b).mp hab.2
  · intro hS
    exact ((List.forall₂_and_left l results).mpr ⟨h, hS⟩).imp fun a b hab => (hab.1 b).mpr hab.2

theorem length_of_mapM_eq_ok {f : α → Except ε β} {l : List α} {results : List β}
    (h : l.mapM f = .ok results) : results.length = l.length := by
  simpa using (congrArg List.length (mapM_eq_ok_iff.mp h)).symm

end ElmPrerender
