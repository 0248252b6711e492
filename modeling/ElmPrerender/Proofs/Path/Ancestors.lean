import ElmPrerender.Proofs.Path.Join
import ElmPrerender.Proofs.Store.Files

/-!
# Parents and ancestors

The parent of a path has all of its components but the last one. So the ancestors of a path are, by
their components, its beginnings, however the path is spelled.
-/

namespace ElmPrerender.Path

open List (splitOn intercalate)

/-- Up to the end of a component the segments have the components up to this one. -/
theorem segments_of_cutsFrom {start stop : Nat} {segments : List (List Char)} {c : Component}
    {before after : List (Component × Nat)}
    (h : cutsFrom start segments = before ++ (c, stop) :: after) :
    ∃ front back, front ≠ [] ∧ segments = front ++ back ∧
      stop = start + (intercalate ['/'] front).length ∧
      front.filterMap Component.ofSegment? = before.map (·.1) ++ [c] := by
  induction segments generalizing start before with
  | nil => simp [cutsFrom] at h
  | cons segment rest ih =>
    have hlater : ∀ {earlier : List (Component × Nat)},
        cutsFrom (start + segment.length + 1) rest = earlier ++ (c, stop) :: after →
        ∃ front back, front ≠ [] ∧ segment :: rest = front ++ back ∧
          stop = start + (intercalate ['/'] front).length ∧
          front.filterMap Component.ofSegment? =
            (Component.ofSegment? segment).toList ++ (earlier.map (·.1) ++ [c]) := by
      intro earlier hrest
      obtain ⟨front, back, hne, rfl, hstop, hcomponents⟩ := ih hrest
      refine ⟨segment :: front, back, List.cons_ne_nil _ _, rfl, ?_, ?_⟩
      · rw [hstop, List.intercalate_cons_of_ne_nil hne]
        simp only [List.length_append, List.length_singleton]
        omega
      · rw [← hcomponents, List.filterMap_cons]
        cases Component.ofSegment? segment <;> rfl
    cases hsegment : Component.ofSegment? segment with
    | none =>
      simp only [cutsFrom, hsegment] at h
      simpa only [hsegment, Option.toList_none, List.nil_append] using hlater h
    | some d =>
      simp only [cutsFrom, hsegment] at h
      cases before with
      | nil =>
        simp only [List.nil_append, List.cons.injEq, Prod.mk.injEq] at h
        obtain ⟨⟨rfl, rfl⟩, -⟩ := h
        exact ⟨[segment], rest, List.cons_ne_nil _ _, rfl, by simp, by simp [hsegment]⟩
      | cons first earlier =>
        rw [List.cons_append, List.cons.injEq] at h
        obtain ⟨rfl, hrest⟩ := h
        simpa only [hsegment, Option.toList_some, List.map_cons, List.cons_append,
          List.nil_append] using hlater hrest

/-- A part of a text that ends with one of its segments has the components of these segments. -/
theorem componentsOf_take {text : List Char} {front back : List (List Char)}
    (h : splitOn '/' text = front ++ back) (nonempty : intercalate ['/'] front ≠ []) :
    componentsOf (text.take (intercalate ['/'] front).length) = leading front := by
  have hfront : front ≠ [] := by
    rintro rfl
    exact nonempty rfl
  have hsplit := Text.splitOn_take h hfront
  have htake : text.take (intercalate ['/'] front).length ≠ [] := by
    intro hnil
    rw [hnil] at hsplit
    rw [← hsplit] at nonempty
    exact nonempty rfl
  rw [componentsOf_eq_leading htake, hsplit]

/-- Behind a first segment a text is cut where one of the later components ends. -/
theorem componentsOf_take_behind {text mark : List Char} {rest : List (List Char)} {c : Component}
    {stop : Nat} {earlier after : List (Component × Nat)} (h : splitOn '/' text = mark :: rest)
    (hlater : cutsFrom (mark.length + 1) rest = earlier ++ (c, stop) :: after) :
    ∃ front, componentsOf (text.take stop) = leading (mark :: front) ∧
      front.filterMap Component.ofSegment? = earlier.map (·.1) ++ [c] := by
  obtain ⟨front, back, hne, rfl, hstop, hcomponents⟩ := segments_of_cutsFrom hlater
  have hjoin : intercalate ['/'] (mark :: front) = mark ++ '/' :: intercalate ['/'] front := by
    rw [List.intercalate_cons_of_ne_nil hne, List.append_assoc, List.singleton_append]
  have hlength : (intercalate ['/'] (mark :: front)).length = stop := by
    rw [hjoin, hstop, List.length_append, List.length_cons]
    omega
  have htake := componentsOf_take h (by rw [hjoin]; simp)
  rw [hlength] at htake
  exact ⟨front, htake, hcomponents⟩

/-- Up to the end of a component a text has the components up to this one. -/
theorem componentsOf_of_cuts {text : List Char} {c : Component} {stop : Nat}
    {before after : List (Component × Nat)} (h : cuts text = before ++ (c, stop) :: after) :
    componentsOf (text.take stop) = before.map (·.1) ++ [c] := by
  unfold cuts at h
  split at h
  · rename_i segment rest hsplit
    cases before with
    | nil =>
      have htext : intercalate ['/'] (splitOn '/' text) = text := List.intercalate_splitOn '/'
      rw [hsplit, List.intercalate_cons_of_ne_nil (List.cons_ne_nil _ _)] at htext
      simp only [List.nil_append, List.cons.injEq, Prod.mk.injEq] at h
      obtain ⟨⟨rfl, rfl⟩, -⟩ := h
      rw [← htext]
      rfl
    | cons first earlier =>
      rw [List.cons_append, List.cons.injEq] at h
      obtain ⟨rfl, hlater⟩ := h
      obtain ⟨front, htake, hcomponents⟩ := componentsOf_take_behind hsplit hlater
      rw [htake, leading, hcomponents]
      rfl
  · rename_i rest hsplit
    cases before with
    | nil =>
      have hall : splitOn '/' text = [['.']] ++ rest := hsplit
      simp only [List.nil_append, List.cons.injEq, Prod.mk.injEq] at h
      obtain ⟨⟨rfl, rfl⟩, -⟩ := h
      exact componentsOf_take hall (List.cons_ne_nil _ _)
    | cons first earlier =>
      rw [List.cons_append, List.cons.injEq] at h
      obtain ⟨rfl, hlater⟩ := h
      obtain ⟨front, htake, hcomponents⟩ := componentsOf_take_behind hsplit hlater
      rw [htake, leading, hcomponents]
      rfl
  · rename_i hroot hcurrent
    obtain ⟨front, back, hne, hsegments, hstop, hcomponents⟩ := segments_of_cutsFrom h
    obtain ⟨first, others, rfl⟩ := List.exists_cons_of_ne_nil hne
    have hcurrent' : first ≠ ['.'] := by
      rintro rfl
      exact hcurrent _ hsegments
    have hroot' : first ≠ [] := by
      rintro rfl
      -- Only the empty text begins with an empty segment now, and it has no components.
      cases hrest : others ++ back with
      | nil =>
        rw [(List.append_eq_nil_iff.mp hrest).1] at hcomponents
        have hnone : [] = before.map (·.1) ++ [c] := hcomponents
        exact absurd hnone.symm (List.concat_ne_nil _ _)
      | cons second rest => exact hroot second rest (by rw [hsegments, List.cons_append, hrest])
    have hjoin : intercalate ['/'] (first :: others) ≠ [] := by
      cases others with
      | nil => simpa using hroot'
      | cons second rest => simp [hroot']
    have htake := componentsOf_take hsegments hjoin
    rw [Nat.zero_add] at hstop
    rw [hstop, htake, leading_of_ne hroot' hcurrent', hcomponents]

theorem ofSegment?_ne_root (segment : List Char) :
    Component.ofSegment? segment ≠ some .root := by
  unfold Component.ofSegment?
  split <;> simp

/-- Behind the first segment there is no root. -/
theorem exists_components (text : List Char) :
    ∃ (first : List Component) (segments : List (List Char)), componentsOf text =
      first ++ segments.filterMap Component.ofSegment? ∧
      (first = [] ∨ first = [.root] ∨ first = [.current]) := by
  unfold componentsOf
  split
  · exact ⟨[.root], _, rfl, Or.inr (Or.inl rfl)⟩
  · exact ⟨[.current], _, rfl, Or.inr (Or.inr rfl)⟩
  · exact ⟨[], _, rfl, Or.inl rfl⟩

theorem exists_ofSegment? {segment : List Char} (hempty : segment ≠ [])
    (hcurrent : segment ≠ ['.']) : ∃ c, Component.ofSegment? segment = some c := by
  unfold Component.ofSegment?
  split <;> simp_all

@[simp]
theorem components_eq_nil_iff {p : Path} : p.components = [] ↔ p.text = "" := by
  constructor
  · intro h
    by_cases hnonempty : p.text.toList = []
    · simpa using hnonempty
    · rw [components, componentsOf_eq_leading hnonempty] at h
      obtain ⟨first, rest, hsplit⟩ :=
        List.exists_cons_of_ne_nil (List.splitOn_ne_nil '/' p.text.toList)
      rw [hsplit] at h
      by_cases hroot : first = []
      · subst hroot
        cases h
      by_cases hcurrent : first = ['.']
      · subst hcurrent
        cases h
      · obtain ⟨c, hc⟩ := exists_ofSegment? hroot hcurrent
        rw [leading_of_ne hroot hcurrent, List.filterMap_cons, hc] at h
        cases h
  · intro h
    rw [components, h]
    rfl

/-- The root stands nowhere but at the beginning. -/
theorem eq_root_of_getLast? {text : List Char} (h : (componentsOf text).getLast? = some .root) :
    componentsOf text = [.root] := by
  obtain ⟨first, segments, htext, hfirst⟩ := exists_components text
  rw [htext, List.getLast?_append] at h
  cases hlast : (segments.filterMap Component.ofSegment?).getLast? with
  | some c =>
    rw [hlast] at h
    cases h
    obtain ⟨segment, -, hsegment⟩ := List.mem_filterMap.mp (List.mem_of_getLast? hlast)
    exact absurd hsegment (ofSegment?_ne_root segment)
  | none =>
    rw [hlast] at h
    rw [htext, List.getLast?_eq_none_iff.mp hlast, List.append_nil]
    rcases hfirst with rfl | rfl | rfl
    · cases h
    · rfl
    · cases h

theorem components_eq_map_cuts (p : Path) :
    p.components = (cuts p.text.toList).map (·.1) := (map_fst_cuts _).symm

/-- The root and the empty path have no parent. -/
theorem parent?_eq_none_iff {p : Path} :
    p.parent? = none ↔ p.components = [] ∨ p.components = [.root] := by
  have hcuts := p.components_eq_map_cuts
  rw [parent?]
  constructor
  · intro h
    cases hreverse : (cuts p.text.toList).reverse with
    | nil =>
      rw [List.reverse_eq_nil_iff.mp hreverse] at hcuts
      exact Or.inl hcuts
    | cons last before =>
      obtain ⟨c, stop⟩ := last
      rw [hreverse] at h
      have hlast : p.components.getLast? = some c := by
        rw [hcuts, List.getLast?_map, ← List.head?_reverse, hreverse]
        rfl
      cases c with
      | root => exact Or.inr (eq_root_of_getLast? hlast)
      | current | parent | normal => cases before <;> cases h
  · intro h
    rcases h with hnil | hroot
    · rw [hcuts, List.map_eq_nil_iff] at hnil
      rw [hnil]
      rfl
    · rw [hcuts, List.map_eq_singleton_iff] at hroot
      obtain ⟨⟨c, stop⟩, hone, rfl⟩ := hroot
      rw [hone]
      rfl

/-- The parent has all components but the last. -/
theorem components_of_parent? {p q : Path} (h : p.parent? = some q) :
    q.components = p.components.dropLast := by
  rw [p.components_eq_map_cuts]
  rw [parent?] at h
  cases hreverse : (cuts p.text.toList).reverse with
  | nil =>
    rw [hreverse] at h
    cases h
  | cons last before =>
    obtain ⟨c, stop⟩ := last
    have hcuts := List.reverse_eq_iff.mp hreverse
    rw [List.reverse_cons] at hcuts
    rw [hreverse] at h
    cases before with
    | nil =>
      have hq : q = ⟨""⟩ := by
        cases c <;> cases h
        all_goals rfl
      rw [hcuts, hq]
      rfl
    | cons next before =>
      obtain ⟨d, stop'⟩ := next
      have hq : q = ⟨String.ofList (p.text.toList.take stop')⟩ := by
        cases c <;> cases h
        all_goals rfl
      rw [List.reverse_cons, List.append_assoc] at hcuts
      rw [hq, components, String.toList_ofList, componentsOf_of_cuts hcuts, hcuts]
      simp

theorem components_of_mem_chain {fuel : Nat} {p a : Path} (h : a ∈ chain fuel p) :
    a.components <+: p.components := by
  induction fuel generalizing p with
  | zero => cases h
  | succ fuel ih =>
    rw [chain] at h
    rcases List.mem_cons.mp h with rfl | h
    · exact List.prefix_rfl
    cases hparent : p.parent? with
    | none =>
      rw [hparent] at h
      cases h
    | some q =>
      rw [hparent] at h
      have hq := ih h
      rw [components_of_parent? hparent] at hq
      exact hq.trans (List.dropLast_prefix _)

/-- A beginning that is not the whole is a beginning of all but the last. -/
theorem isPrefix_dropLast {beginning whole : List Component} (h : beginning <+: whole)
    (strict : whole ≠ beginning) : beginning <+: whole.dropLast := by
  have hlength : beginning.length < whole.length :=
    Nat.lt_of_le_of_ne h.length_le fun heq => strict (h.eq_of_length heq).symm
  rw [List.dropLast_eq_take]
  exact List.prefix_take_iff.mpr ⟨h, by omega⟩

theorem exists_mem_chain {fuel : Nat} {p : Path} {beginning : List Component}
    (nonempty : beginning ≠ []) (h : beginning <+: p.components)
    (enough : p.components.length < fuel) :
    ∃ a ∈ chain fuel p, a.components = beginning := by
  induction fuel generalizing p with
  | zero => exact absurd enough (Nat.not_lt_zero _)
  | succ fuel ih =>
    rw [chain]
    by_cases hwhole : p.components = beginning
    · exact ⟨p, List.mem_cons_self .., hwhole⟩
    have hshorter := isPrefix_dropLast h hwhole
    cases hparent : p.parent? with
    | none =>
      rcases parent?_eq_none_iff.mp hparent with hnone | hroot
      · rw [hnone] at hshorter
        exact absurd (List.prefix_nil.mp hshorter) nonempty
      · rw [hroot] at hshorter
        exact absurd (List.prefix_nil.mp hshorter) nonempty
    | some q =>
      have hq := components_of_parent? hparent
      have hfuel : q.components.length < fuel := by
        have hpositive := List.length_pos_iff.mpr nonempty
        have hle := hshorter.length_le
        rw [List.length_dropLast] at hle
        rw [hq, List.length_dropLast]
        omega
      obtain ⟨a, ha, hbeginning⟩ := ih (hq ▸ hshorter) hfuel
      exact ⟨a, List.mem_cons_of_mem p ha, hbeginning⟩

/-- By their components the ancestors are the beginnings of the path. -/
theorem exists_mem_ancestors_iff (p : Path) {beginning : List Component}
    (nonempty : beginning ≠ []) :
    (∃ a ∈ p.ancestors, a.components = beginning) ↔ beginning <+: p.components := by
  constructor
  · rintro ⟨a, ha, rfl⟩
    exact components_of_mem_chain ha
  · intro h
    exact exists_mem_chain nonempty h (Nat.lt_succ_self _)

/-- Nothing stands behind the empty path. -/
theorem takeWhile_chain (fuel : Nat) (p : Path) :
    ((chain fuel p).takeWhile fun a => !a.text.isEmpty) =
      (chain fuel p).filter fun a => !a.text.isEmpty := by
  induction fuel generalizing p with
  | zero => rfl
  | succ fuel ih =>
    rw [chain]
    cases hempty : p.text.isEmpty with
    | true =>
      have hparent : p.parent? = none :=
        parent?_eq_none_iff.mpr (Or.inl (components_eq_nil_iff.mpr (by simpa using hempty)))
      rw [hparent]
      simp [hempty]
    | false =>
      cases hparent : p.parent? with
      | none => simp [hempty]
      | some q => simp [hempty, ih]

end ElmPrerender.Path
