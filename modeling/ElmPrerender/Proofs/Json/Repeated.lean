import ElmPrerender.Json.Value
import Mathlib.Data.List.Induction
import Mathlib.Data.List.Nodup

/-!
# Objects with repeated names

A name that is written more than once keeps the place of its first member and takes the value of its
last one. Nothing else of the members in between is left.
-/

namespace ElmPrerender.Json.Members

variable {members written : List (String × Value)} {name : String} {v : Value}

theorem get?_cons (other : String) (v : Value) (rest : List (String × Value)) (name : String) :
    get? ((other, v) :: rest) name = if other = name then some v else get? rest name := by
  by_cases h : other = name <;> simp [get?, h]

theorem get?_append (before after : List (String × Value)) (name : String) :
    get? (before ++ after) name = (get? before name).or (get? after name) := by
  rw [get?, get?, get?, List.find?_append, Option.map_or]

theorem get?_eq_none_iff : get? members name = none ↔ name ∉ members.map Prod.fst := by
  induction members with
  | nil => simp [get?]
  | cons m rest ih =>
    obtain ⟨other, v⟩ := m
    rw [get?_cons]
    by_cases h : other = name
    · simp [h]
    · simp [h, ih, Ne.symm h]

theorem get?_insert (members : Members) (name : String) (v : Value) (other : String) :
    get? (members.insert name v) other = if name = other then some v else get? members other := by
  induction members with
  | nil => exact get?_cons name v [] other
  | cons m rest ih =>
    obtain ⟨first, old⟩ := m
    by_cases hname : first = name
    · subst hname
      by_cases hother : first = other <;> simp [insert, get?_cons, hother]
    · rw [insert, if_neg hname, get?_cons, get?_cons, ih]
      by_cases hother : first = other
      · have hne : name ≠ other := fun h => hname (hother.trans h.symm)
        rw [if_pos hother, if_pos hother, if_neg hne]
      · rw [if_neg hother, if_neg hother]

theorem names_insert (members : Members) (name : String) (v : Value) :
    (members.insert name v).map Prod.fst =
      if name ∈ members.map Prod.fst then members.map Prod.fst
      else members.map Prod.fst ++ [name] := by
  induction members with
  | nil => rfl
  | cons m rest ih =>
    obtain ⟨first, old⟩ := m
    by_cases hname : first = name
    · simp [insert, hname]
    · rw [insert, if_neg hname, List.map_cons, ih]
      by_cases hrest : name ∈ rest.map Prod.fst
      · simp [hrest]
      · rw [if_neg hrest, if_neg (by simp [Ne.symm hname] at hrest ⊢; exact hrest)]
        rfl

/-- The members of other names stay as they are, in their order. -/
theorem filter_insert (members : Members) (name : String) (v : Value) :
    (members.insert name v).filter (·.1 != name) = List.filter (·.1 != name) members := by
  induction members with
  | nil => simp [insert]
  | cons m rest ih =>
    obtain ⟨first, old⟩ := m
    by_cases hname : first = name
    · simp [insert, hname]
    · rw [insert, if_neg hname, List.filter_cons, List.filter_cons, ih]

theorem ofList_concat (written : List (String × Value)) (m : String × Value) :
    ofList (written ++ [m]) = (ofList written).insert m.1 m.2 := by
  simp [ofList, List.foldl_append]

theorem eraseDups_concat (names : List String) (name : String) :
    (names ++ [name]).eraseDups =
      if name ∈ names then names.eraseDups else names.eraseDups ++ [name] := by
  rw [List.eraseDups_append]
  by_cases h : name ∈ names
  · simp [List.removeAll, h]
  · simp [List.removeAll, h, List.eraseDups_cons]

/-- The names stand in the order in which they are first written. -/
theorem names_ofList (written : List (String × Value)) :
    (ofList written).map Prod.fst = (written.map Prod.fst).eraseDups := by
  induction written using List.reverseRecOn with
  | nil => rfl
  | append_singleton rest m ih =>
    rw [ofList_concat, names_insert, ih, List.map_append, List.map_singleton, eraseDups_concat]
    simp only [List.mem_eraseDups]

theorem nodup_names_ofList (written : List (String × Value)) :
    ((ofList written).map Prod.fst).Nodup := by
  induction written using List.reverseRecOn with
  | nil => exact List.nodup_nil
  | append_singleton rest m ih =>
    rw [ofList_concat, names_insert]
    by_cases h : m.1 ∈ (ofList rest).map Prod.fst
    · rw [if_pos h]
      exact ih
    · rw [if_neg h]
      exact List.concat_eq_append ▸ ih.concat h

/-- A name has the value that is written last. -/
theorem get?_ofList (written : List (String × Value)) (name : String) :
    get? (ofList written) name = get? written.reverse name := by
  induction written using List.reverseRecOn with
  | nil => rfl
  | append_singleton rest m ih =>
    obtain ⟨other, v⟩ := m
    rw [ofList_concat, get?_insert, List.reverse_append, List.reverse_singleton,
      List.singleton_append, get?_cons, ih]

theorem get?_of_mem (distinct : (members.map Prod.fst).Nodup) (h : (name, v) ∈ members) :
    get? members name = some v := by
  induction members with
  | nil => cases h
  | cons m rest ih =>
    obtain ⟨other, w⟩ := m
    obtain ⟨hnew, hrest⟩ := List.nodup_cons.mp distinct
    rw [get?_cons]
    rcases List.mem_cons.mp h with hm | hm
    · cases hm
      exact if_pos rfl
    · have hne : other ≠ name := fun heq => hnew (List.mem_map.mpr ⟨_, hm, heq.symm⟩)
      rw [if_neg hne]
      exact ih hrest hm

/-- Members with different names are known by their names and what these hold. -/
theorem eq_of_get? {others : List (String × Value)} (distinct : (members.map Prod.fst).Nodup)
    (names : others.map Prod.fst = members.map Prod.fst)
    (values : ∀ name, get? others name = get? members name) : others = members := by
  induction members generalizing others with
  | nil => exact List.map_eq_nil_iff.mp names
  | cons m rest ih =>
    obtain ⟨name, v⟩ := m
    cases others with
    | nil => cases names
    | cons n others =>
      obtain ⟨name', w⟩ := n
      obtain ⟨hname, hnames⟩ := List.cons.inj names
      obtain rfl : name' = name := hname
      obtain ⟨hnew, hrest⟩ := List.nodup_cons.mp distinct
      have hvalue := values name'
      rw [get?_cons, get?_cons, if_pos rfl, if_pos rfl] at hvalue
      obtain rfl := Option.some.inj hvalue
      refine congrArg _ (ih hrest hnames ?_)
      intro other
      by_cases hother : name' = other
      · subst hother
        rw [get?_eq_none_iff.mpr hnew, get?_eq_none_iff.mpr (hnames ▸ hnew)]
      · have := values other
        rwa [get?_cons, get?_cons, if_neg hother, if_neg hother] at this

/-- What an overwritten member holds makes no difference. -/
theorem ofList_overwritten (before between after : List (String × Value)) (name : String)
    (v v' w : Value) :
    ofList (before ++ (name, v) :: between ++ (name, w) :: after) =
      ofList (before ++ (name, v') :: between ++ (name, w) :: after) := by
  refine eq_of_get? (nodup_names_ofList _) ?_ ?_
  · simp only [names_ofList, List.map_append, List.map_cons]
  · intro other
    rw [get?_ofList, get?_ofList]
    simp only [List.reverse_append, List.reverse_cons, get?_append, get?_cons]
    by_cases h : name = other
    · -- The later member is met first, and it decides.
      simp only [if_pos h, Option.some_or, Option.or_some, Option.getD_some]
    · simp only [if_neg h]

end ElmPrerender.Json.Members
