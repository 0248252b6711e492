import ElmPrerender.Path
import ElmPrerender.Proofs.Text.Split

/-!
# A name joined to a path

Joining a plain name adds one component, however the path is spelled.
-/

namespace ElmPrerender.Path

open List (splitOn)

/-- A text that is one component of a path. -/
@[mk_iff]
structure IsName (name : String) : Prop where
  noSlash : '/' ∉ name.toList
  component : Component.ofSegment? name.toList = some (.normal name)

instance : DecidablePred IsName := fun name => decidable_of_iff _ (isName_iff name).symm

/-- The components of segments, of which others may follow. -/
def leading : List (List Char) → List Component
  | [] :: rest => .root :: rest.filterMap Component.ofSegment?
  | ['.'] :: rest => .current :: rest.filterMap Component.ofSegment?
  | segments => segments.filterMap Component.ofSegment?

theorem leading_of_ne {first : List Char} (hroot : first ≠ []) (hcurrent : first ≠ ['.'])
    (rest : List (List Char)) :
    leading (first :: rest) = (first :: rest).filterMap Component.ofSegment? := by
  unfold leading
  split <;> simp_all

theorem filterMap_append_last (rest : List (List Char)) (last : List Char) :
    (rest ++ [last]).filterMap Component.ofSegment? =
      rest.filterMap Component.ofSegment? ++ (Component.ofSegment? last).toList := by
  rw [List.filterMap_append]
  cases hc : Component.ofSegment? last <;> simp [hc]

theorem leading_append {segments : List (List Char)} (nonempty : segments ≠ [])
    (last : List Char) :
    leading (segments ++ [last]) = leading segments ++ (Component.ofSegment? last).toList := by
  cases segments with
  | nil => exact absurd rfl nonempty
  | cons first rest =>
    by_cases hroot : first = []
    · subst hroot
      simp only [List.cons_append, leading, filterMap_append_last]
    by_cases hcurrent : first = ['.']
    · subst hcurrent
      simp only [List.cons_append, leading, filterMap_append_last]
    · rw [List.cons_append, leading_of_ne hroot hcurrent, leading_of_ne hroot hcurrent,
        ← List.cons_append, filterMap_append_last]

/-- Only the empty text is no root although its first segment is empty. -/
theorem componentsOf_eq_leading {text : List Char} (nonempty : text ≠ []) :
    componentsOf text = leading (splitOn '/' text) := by
  have hjoin : ['/'].intercalate (splitOn '/' text) = text := List.intercalate_splitOn '/'
  obtain ⟨first, rest, hs⟩ := List.exists_cons_of_ne_nil (List.splitOn_ne_nil '/' text)
  rw [hs] at hjoin
  rw [componentsOf, hs]
  by_cases hroot : first = []
  · subst hroot
    cases rest with
    | nil => exact absurd hjoin.symm nonempty
    | cons second rest => rfl
  by_cases hcurrent : first = ['.']
  · subst hcurrent
    rfl
  · rw [leading_of_ne hroot hcurrent]
    split <;> simp_all

theorem componentsOf_append_name {text : List Char} {name : String} (h : IsName name) :
    componentsOf (text ++ '/' :: name.toList) =
      leading (splitOn '/' text) ++ [.normal name] := by
  rw [componentsOf_eq_leading (by simp), List.splitOn_append_cons_self,
    List.splitOn_eq_singleton h.noSlash, leading_append (List.splitOn_ne_nil '/' text),
    h.component]
  rfl

theorem componentsOf_append_slash (text : List Char) :
    componentsOf (text ++ ['/']) = leading (splitOn '/' text) := by
  have hlast : (Component.ofSegment? ([] : List Char)).toList = [] := rfl
  rw [componentsOf_eq_leading (by simp), List.splitOn_append_cons_self]
  change leading (splitOn '/' text ++ [[]]) = _
  rw [leading_append (List.splitOn_ne_nil '/' text), hlast, List.append_nil]

theorem components_name {name : String} (h : IsName name) :
    (⟨name⟩ : Path).components = [.normal name] := by
  have hroot : name.toList ≠ [] := by
    intro he
    have hc := h.component
    rw [he] at hc
    cases hc
  have hcurrent : name.toList ≠ ['.'] := by
    intro he
    have hc := h.component
    rw [he] at hc
    cases hc
  rw [components, componentsOf_eq_leading hroot, List.splitOn_eq_singleton h.noSlash,
    leading_of_ne hroot hcurrent, List.filterMap_cons, h.component]
  rfl

section Relative

variable {p q : Path} (relative : q.isAbsolute = false)

include relative

theorem join_of_empty (h : p.text = "") : p.join q = q := by
  simp [join, relative, h]

theorem join_of_slash (h : p.text.toList.getLast? = some '/') : p.join q = ⟨p.text ++ q.text⟩ := by
  simp [join, relative, h]

theorem join_of_open (hempty : p.text ≠ "") (hslash : p.text.toList.getLast? ≠ some '/') :
    p.join q = ⟨p.text ++ "/" ++ q.text⟩ := by
  simp [join, relative, hempty, hslash]

end Relative

theorem join_of_isAbsolute (p : Path) {q : Path} (h : q.isAbsolute = true) : p.join q = q := by
  rw [join, if_pos h]

/-- Whatever is joined to an absolute path, the result is absolute. -/
theorem isAbsolute_join {p : Path} (h : p.isAbsolute = true) (q : Path) :
    (p.join q).isAbsolute = true := by
  by_cases hq : q.isAbsolute = true
  · rw [join_of_isAbsolute p hq, hq]
  · have hrelative : q.isAbsolute = false := Bool.not_eq_true _ ▸ hq
    have hhead : p.text.toList.head? = some '/' := by simpa [isAbsolute] using h
    have hempty : p.text ≠ "" := by
      intro hp
      rw [hp] at hhead
      cases hhead
    by_cases hslash : p.text.toList.getLast? = some '/'
    · rw [join_of_slash hrelative hslash]
      simp [isAbsolute, hhead]
    · rw [join_of_open hrelative hempty hslash]
      simp [isAbsolute, hhead]

/-- A name adds one component to the empty path, to one that ends with a slash, and to any other. -/
theorem components_join_name (p : Path) {name : String} (h : IsName name) :
    (p.join ⟨name⟩).components = p.components ++ [.normal name] := by
  have hrelative : (⟨name⟩ : Path).isAbsolute = false := by
    have hhead : name.toList.head? ≠ some '/' := fun hc => h.noSlash (List.mem_of_mem_head? hc)
    simpa [isAbsolute] using hhead
  by_cases hempty : p.text = ""
  · have hp : p.components = [] := by
      rw [components, hempty]
      rfl
    rw [join_of_empty hrelative hempty, components_name h, hp]
    rfl
  by_cases hslash : p.text.toList.getLast? = some '/'
  · obtain ⟨text, htext⟩ := List.getLast?_eq_some_iff.mp hslash
    have hjoin : (p.text ++ name).toList = text ++ '/' :: name.toList := by
      simp [htext]
    rw [join_of_slash hrelative hslash, components, components, hjoin,
      componentsOf_append_name h, htext, componentsOf_append_slash]
  · have hjoin : (p.text ++ "/" ++ name).toList = p.text.toList ++ '/' :: name.toList := by
      simp
    have hnonempty : p.text.toList ≠ [] := by simpa using hempty
    rw [join_of_open hrelative hempty hslash, components, components, hjoin,
      componentsOf_append_name h, componentsOf_eq_leading hnonempty]

/-- What lies below a directory, with the names on the way to it. -/
def below (p : Path) (names : List String) : Path := names.foldl (fun p name => p.join ⟨name⟩) p

theorem components_below (p : Path) {names : List String} (h : ∀ name ∈ names, IsName name) :
    (p.below names).components = p.components ++ names.map .normal := by
  induction names generalizing p with
  | nil => exact (List.append_nil _).symm
  | cons name rest ih =>
    obtain ⟨hname, hrest⟩ := List.forall_mem_cons.mp h
    have hbelow : p.below (name :: rest) = (p.join ⟨name⟩).below rest := rfl
    rw [hbelow, ih _ hrest, components_join_name p hname, List.append_assoc, List.map_cons]
    rfl

end ElmPrerender.Path
