import ElmPrerender.Proofs.Settings.Layers
import Mathlib.Data.List.Nodup

/-!
Sources laid over each other. A source holds a table for each group that it gives settings of, or
single settings under their full names; either way the merged tree holds, setting by setting, what
the source holds and else what was there.
-/

namespace ElmPrerender.Settings

theorem Section.name_inj {g h : Section} : g.name = h.name ↔ g = h := by
  constructor
  · cases g <;> cases h <;> decide
  · rintro rfl
    rfl

theorem Section.mem_keys {g : Section} {k : Key} : k ∈ g.keys ↔ k.group = g := by
  cases g <;> cases k <;> decide

/-- No two settings have one name, not even in different groups. -/
theorem Key.name_inj {k l : Key} : k.name = l.name ↔ k = l := by
  constructor
  · cases k <;> cases l <;> decide
  · rintro rfl
    rfl

theorem Key.fullName_inj {k l : Key} : k.fullName = l.fullName ↔ k = l := by
  constructor
  · cases k <;> cases l <;> decide +kernel
  · rintro rfl
    rfl

namespace Tree

theorem find?_cons (key name : String) (v : Tree) (rest : Members) :
    find? ((key, v) :: rest) name = if key = name then some v else find? rest name := by
  by_cases h : key = name <;> simp [find?, h]

theorem find?_of_notMem {members : Members} {name : String} (h : name ∉ members.map Prod.fst) :
    find? members name = none := by
  simp only [find?, Option.map_eq_none_iff, List.find?_eq_none, beq_iff_eq]
  rintro m hm rfl
  exact h (List.mem_map_of_mem hm)

theorem mem_of_find? {members : Members} {name : String} {v : Tree}
    (h : find? members name = some v) : (name, v) ∈ members := by
  obtain ⟨m, hm, rfl⟩ := Option.map_eq_some_iff.mp h
  have hname : m.1 = name := by simpa using List.find?_some hm
  exact hname ▸ List.mem_of_find?_eq_some hm

theorem find?_put (members : Members) (key name : String) (v : Tree) :
    find? (put members key v) name = if key = name then some v else find? members name := by
  induction members with
  | nil => exact find?_cons key name v []
  | cons m rest ih =>
    obtain ⟨other, old⟩ := m
    by_cases hkey : other = key
    · subst hkey
      by_cases hname : other = name <;> simp [put, find?_cons, hname]
    · rw [put, if_neg hkey, find?_cons, find?_cons, ih]
      by_cases hname : other = name
      · have hne : ¬ key = name := fun h => hkey (hname.trans h.symm)
        rw [if_pos hname, if_pos hname, if_neg hne]
      · rw [if_neg hname, if_neg hname]

theorem mem_put {members : Members} {key : String} {v : Tree} {m : String × Tree}
    (h : m ∈ put members key v) : m = (key, v) ∨ m ∈ members := by
  induction members with
  | nil => exact Or.inl (List.mem_singleton.mp h)
  | cons n rest ih =>
    obtain ⟨other, old⟩ := n
    by_cases hkey : other = key
    · rw [put, if_pos hkey, hkey] at h
      rcases List.mem_cons.mp h with rfl | hm
      · exact Or.inl rfl
      · exact Or.inr (List.mem_cons_of_mem _ hm)
    · rw [put, if_neg hkey] at h
      rcases List.mem_cons.mp h with rfl | hm
      · exact Or.inr List.mem_cons_self
      · exact (ih hm).imp id (List.mem_cons_of_mem _)

theorem nodup_put {members : Members} (key : String) (v : Tree)
    (h : (members.map Prod.fst).Nodup) : ((put members key v).map Prod.fst).Nodup := by
  induction members with
  | nil => exact List.nodup_singleton key
  | cons n rest ih =>
    obtain ⟨other, old⟩ := n
    obtain ⟨hnew, hrest⟩ := List.nodup_cons.mp h
    by_cases hkey : other = key
    · rw [put, if_pos hkey]
      exact h
    · rw [put, if_neg hkey]
      refine List.nodup_cons.mpr ⟨?_, ih hrest⟩
      intro hmem
      obtain ⟨m, hm, hname⟩ := List.mem_map.mp hmem
      rcases mem_put hm with rfl | hold
      · exact hkey hname.symm
      · exact hnew (List.mem_map.mpr ⟨m, hold, hname⟩)

/-- Members with different names, each of them as it should be. -/
structure Listing (fits : String × Tree → Prop) (members : Members) : Prop where
  distinct : (members.map Prod.fst).Nodup
  each : ∀ m ∈ members, fits m

namespace Listing

variable {fits : String × Tree → Prop} {members : Members}

instance decidable [DecidablePred fits] : Decidable (Listing fits members) :=
  decidable_of_iff ((members.map Prod.fst).Nodup ∧ ∀ m ∈ members, fits m)
    ⟨fun h => ⟨h.1, h.2⟩, fun h => ⟨h.distinct, h.each⟩⟩

theorem nil : Listing fits [] :=
  ⟨List.nodup_nil, by simp⟩

theorem singleton {m : String × Tree} (hm : fits m) : Listing fits [m] :=
  ⟨List.nodup_singleton _, by simpa using hm⟩

theorem of_cons {m : String × Tree} (h : Listing fits (m :: members)) :
    fits m ∧ m.1 ∉ members.map Prod.fst ∧ Listing fits members := by
  obtain ⟨hnew, hrest⟩ := List.nodup_cons.mp h.distinct
  refine ⟨h.each m List.mem_cons_self, hnew, hrest, ?_⟩
  intro n hn
  exact h.each n (List.mem_cons_of_mem _ hn)

theorem put {key : String} {v : Tree} (h : Listing fits members) (hv : fits (key, v)) :
    Listing fits (put members key v) := by
  refine ⟨nodup_put key v h.distinct, ?_⟩
  intro m hm
  rcases mem_put hm with rfl | hold
  · exact hv
  · exact h.each m hold

end Listing

/-- Members put in the place of others, or behind them. -/
def lay (above below : Members) : Members :=
  above.foldl (fun members m => put members m.1 m.2) below

theorem find?_lay {above : Members} (h : (above.map Prod.fst).Nodup) (below : Members)
    (name : String) : find? (lay above below) name = (find? above name).or (find? below name) := by
  induction above generalizing below with
  | nil => rfl
  | cons m rest ih =>
    obtain ⟨key, v⟩ := m
    obtain ⟨hnew, hrest⟩ := List.nodup_cons.mp h
    have hstep : find? (lay ((key, v) :: rest) below) name =
        (find? rest name).or (find? (put below key v) name) := ih hrest (put below key v)
    rw [hstep, find?_put, find?_cons]
    by_cases hkey : key = name
    · subst hkey
      rw [find?_of_notMem hnew, if_pos rfl, if_pos rfl]
      rfl
    · rw [if_neg hkey, if_neg hkey]

theorem Listing.lay {fits : String × Tree → Prop} {above below : Members}
    (ha : Listing fits above) (hb : Listing fits below) : Listing fits (lay above below) := by
  induction above generalizing below with
  | nil => exact hb
  | cons m rest ih =>
    obtain ⟨hm, _, hrest⟩ := ha.of_cons
    exact ih hrest (hb.put hm)

/-- A setting of a group, with a value of its kind. -/
def IsSetting (g : Section) (m : String × Tree) : Prop :=
  ∃ k ∈ g.keys, m.1 = k.name ∧ (k.read m.2).isOk = true

/-- A table of settings of a group. -/
def IsTableOf (g : Section) : Tree → Prop
  | .table _ inner => Listing (IsSetting g) inner
  | .scalar _ _ | .list _ _ => False

/-- A group with a table of its settings. -/
def IsGroup (m : String × Tree) : Prop :=
  ∃ g ∈ Draft.groups, m.1 = g.name ∧ IsTableOf g m.2

/-- A setting under its full name, with a value of its kind. -/
def IsNamed (m : String × Tree) : Prop :=
  ∃ k ∈ Key.all, m.1 = k.fullName ∧ (k.read m.2).isOk = true

instance decidableIsSetting (g : Section) : DecidablePred (IsSetting g) :=
  fun m => inferInstanceAs (Decidable (∃ k ∈ g.keys, m.1 = k.name ∧ (k.read m.2).isOk = true))

instance decidableIsTableOf (g : Section) : DecidablePred (IsTableOf g)
  | .table _ inner => inferInstanceAs (Decidable (Listing (IsSetting g) inner))
  | .scalar _ _ | .list _ _ => isFalse id

instance decidableIsGroup : DecidablePred IsGroup :=
  fun m => inferInstanceAs (Decidable (∃ g ∈ Draft.groups, m.1 = g.name ∧ IsTableOf g m.2))

instance decidableIsNamed : DecidablePred IsNamed :=
  fun m => inferInstanceAs
    (Decidable (∃ k ∈ Key.all, m.1 = k.fullName ∧ (k.read m.2).isOk = true))

/-- The value of a setting in the table of its group. -/
def leaf? (members : Members) (k : Key) : Option Tree :=
  (find? members k.group.name).bind fun t => find? t.members k.name

theorem IsGroup.exists_table {m : String × Tree} (h : IsGroup m) :
    ∃ g origin inner, m = (Section.name g, .table origin inner) ∧ Listing (IsSetting g) inner := by
  obtain ⟨name, t⟩ := m
  obtain ⟨g, _, rfl, hinner⟩ := h
  cases t with
  | table origin inner => exact ⟨g, origin, inner, rfl, hinner⟩
  | scalar origin v => exact hinner.elim
  | list origin items => exact hinner.elim

theorem IsGroup.of_name {g : Section} {t : Tree} (h : IsGroup (g.name, t)) :
    ∃ origin inner, t = .table origin inner ∧ Listing (IsSetting g) inner := by
  obtain ⟨g', origin, inner, hm, hinner⟩ := h.exists_table
  obtain ⟨hname, rfl⟩ := Prod.mk.inj hm
  obtain rfl : g = g' := Section.name_inj.mp hname
  exact ⟨origin, inner, rfl, hinner⟩

theorem isGroup_table {g : Section} {inner : Members} (origin : Option String)
    (h : Listing (IsSetting g) inner) : IsGroup (g.name, .table origin inner) :=
  ⟨g, by cases g <;> decide, rfl, h⟩

/-- A group's table says nothing of the settings of other groups. -/
theorem find?_of_group_ne {g : Section} {k : Key} {inner : Members}
    (h : Listing (IsSetting g) inner) (hne : k.group ≠ g) : find? inner k.name = none := by
  refine find?_of_notMem ?_
  intro hmem
  obtain ⟨m, hm, hname⟩ := List.mem_map.mp hmem
  obtain ⟨l, hl, hmname, _⟩ := h.each m hm
  obtain rfl : k = l := Key.name_inj.mp (hname.symm.trans hmname)
  exact hne (Section.mem_keys.mp hl)

theorem readable_of_find? {g : Section} {k : Key} {inner : Members} {t : Tree}
    (h : Listing (IsSetting g) inner) (ht : find? inner k.name = some t) :
    (k.read t).isOk = true := by
  obtain ⟨l, _, hname, hread⟩ := h.each _ (mem_of_find? ht)
  obtain rfl : k = l := Key.name_inj.mp hname
  exact hread

theorem readable_of_leaf? {k : Key} {members : Members} {t : Tree}
    (h : Listing IsGroup members) (ht : leaf? members k = some t) : (k.read t).isOk = true := by
  obtain ⟨u, hu, ht⟩ := Option.bind_eq_some_iff.mp ht
  obtain ⟨origin, inner, rfl, hinner⟩ := (h.each _ (mem_of_find? hu)).of_name
  exact readable_of_find? hinner ht

theorem readable_of_find?_fullName {k : Key} {members : Members} {t : Tree}
    (h : Listing IsNamed members) (ht : find? members k.fullName = some t) :
    (k.read t).isOk = true := by
  obtain ⟨l, _, hname, hread⟩ := h.each _ (mem_of_find? ht)
  obtain rfl : k = l := Key.fullName_inj.mp hname
  exact hread

/-- The table of a group, which may not be there yet. -/
theorem listing_group {members : Members} (h : Listing IsGroup members) (g : Section) :
    Listing (IsSetting g) ((find? members g.name).getD nothing).members := by
  cases hfind : find? members g.name with
  | none => exact Listing.nil
  | some t =>
    obtain ⟨origin, inner, rfl, hinner⟩ := (h.each _ (mem_of_find? hfind)).of_name
    exact hinner

theorem leaf?_eq (members : Members) (k : Key) :
    leaf? members k = find? ((find? members k.group.name).getD nothing).members k.name := by
  unfold leaf?
  cases find? members k.group.name <;> rfl

theorem leaf?_of_notMem {members : Members} {k : Key}
    (h : k.group.name ∉ members.map Prod.fst) : leaf? members k = none := by
  rw [leaf?, find?_of_notMem h]
  rfl

theorem leaf?_cons (g : Section) (t : Tree) (rest : Members) (k : Key) :
    leaf? ((g.name, t) :: rest) k =
      if k.group = g then find? t.members k.name else leaf? rest k := by
  rw [leaf?, find?_cons]
  by_cases h : k.group = g
  · rw [if_pos (Section.name_inj.mpr h.symm), if_pos h]
    rfl
  · rw [if_neg (fun hname => h (Section.name_inj.mp hname).symm), if_neg h]
    rfl

theorem leaf?_put_group (members : Members) (g : Section) (t : Tree) (k : Key) :
    leaf? (put members g.name t) k =
      if k.group = g then find? t.members k.name else leaf? members k := by
  rw [← leaf?_cons g t members k, leaf?, leaf?, find?_put, find?_cons]

/-- A tree of groups that holds these values, and else what was there. -/
structure Sets (values : Key → Option Tree) (t t' : Tree) : Prop where
  listing : Listing IsGroup t'.members
  leaf : ∀ k : Key, leaf? t'.members k = (values k).or (leaf? t.members k)

theorem Sets.refl {t : Tree} (ht : Listing IsGroup t.members) : Sets (fun _ => none) t t :=
  ⟨ht, fun _ => rfl⟩

/-- Of two values the later one counts. -/
theorem Sets.trans {first second both : Key → Option Tree} {t t' t'' : Tree}
    (h : Sets first t t') (h' : Sets second t' t'')
    (hboth : ∀ k, both k = (second k).or (first k)) : Sets both t t'' := by
  refine ⟨h'.listing, ?_⟩
  intro k
  rw [h'.leaf k, h.leaf k, hboth k, Option.or_assoc]

/-- Laying settings into the table of their group changes those settings and no others. -/
theorem sets_group {t t' : Tree} {g : Section} {inner : Members} {origin : Option String}
    (ht : Listing IsGroup t.members) (hi : Listing (IsSetting g) inner)
    (h : t'.members = put t.members g.name
      (.table origin (lay inner ((find? t.members g.name).getD nothing).members))) :
    Sets (fun k => find? inner k.name) t t' := by
  constructor
  · rw [h]
    exact ht.put (isGroup_table origin (hi.lay (listing_group ht g)))
  · intro k
    rw [h, leaf?_put_group]
    by_cases hk : k.group = g
    · subst hk
      rw [if_pos rfl, leaf?_eq t.members]
      exact find?_lay hi.distinct _ _
    · rw [if_neg hk, find?_of_group_ne hi hk]
      rfl

theorem members_change (f : Tree → Tree) (key : String) (t : Tree) :
    (change f key t).members = put t.members key (f ((find? t.members key).getD nothing)) :=
  rfl

/-- A value of a setting's kind is not a table, so it takes the place of what was there. -/
theorem overlay_of_readable {k : Key} {v : Tree} (h : (k.read v).isOk = true) (under : Tree) :
    overlay v under = v := by
  cases v with
  | scalar origin v => cases under <;> rfl
  | list origin items => cases k <;> cases h
  | table origin members => cases k <;> cases h

theorem change_readable {k : Key} {v : Tree} (h : (k.read v).isOk = true) (name : String)
    (under : Tree) :
    ∃ laid, change (overlay v) name under = .table laid (lay [(name, v)] under.members) := by
  have hchange : ∃ laid, change (overlay v) name under = .table laid
      (put under.members name (overlay v ((find? under.members name).getD nothing))) := ⟨_, rfl⟩
  rw [overlay_of_readable h] at hchange
  exact hchange

theorem overlayMembers_settings {g : Section} {inner : Members} (h : ∀ m ∈ inner, IsSetting g m)
    (origin : Option String) (below : Members) :
    overlayMembers inner (.table origin below) = .table origin (lay inner below) := by
  induction inner generalizing below with
  | nil => rfl
  | cons m rest ih =>
    obtain ⟨key, v⟩ := m
    obtain ⟨k, _, _, hread⟩ := h _ List.mem_cons_self
    have hstep : change (overlay v) key (.table origin below) =
        .table origin (put below key v) := by
      rw [change, overlay_of_readable hread]
      rfl
    rw [overlayMembers, hstep]
    exact ih (fun n hn => h n (List.mem_cons_of_mem _ hn)) (put below key v)

theorem overlay_group {g : Section} {inner : Members} (h : Listing (IsSetting g) inner)
    (origin : Option String) (under : Tree) :
    ∃ laid, overlay (.table origin inner) under = .table laid (lay inner under.members) := by
  cases under with
  | table below members => exact ⟨below, overlayMembers_settings h.each below members⟩
  | scalar below v => exact ⟨none, overlayMembers_settings h.each none []⟩
  | list below items => exact ⟨none, overlayMembers_settings h.each none []⟩

theorem pathOf_group (g : Section) : pathOf g.name = [.key g.name] := by
  cases g <;> decide +kernel

theorem pathOf_fullName (k : Key) : pathOf k.fullName = [.key k.group.name, .key k.name] := by
  cases k <;> decide +kernel

/-- A source of tables lies over what is there, setting by setting. -/
theorem addSource_groups {source : Members} (hs : Listing IsGroup source) {t : Tree}
    (ht : Listing IsGroup t.members) : Sets (leaf? source) t (addSource source t) := by
  induction source generalizing t with
  | nil => exact Sets.refl ht
  | cons m rest ih =>
    obtain ⟨hm, hnew, hrest⟩ := hs.of_cons
    obtain ⟨g, origin, inner, rfl, hinner⟩ := hm.exists_table
    obtain ⟨laid, hlaid⟩ := overlay_group hinner origin ((find? t.members g.name).getD nothing)
    have hfirst : Sets (fun k => find? inner k.name) t
        (change (overlay (.table origin inner)) g.name t) :=
      sets_group ht hinner (by rw [members_change, hlaid])
    have hstep : addSource ((g.name, .table origin inner) :: rest) t =
        addSource rest (change (overlay (.table origin inner)) g.name t) := by
      rw [addSource, List.foldl_cons, pathOf_group]
      rfl
    rw [hstep]
    refine hfirst.trans (ih hrest hfirst.listing) ?_
    intro k
    rw [leaf?_cons]
    by_cases hk : k.group = g
    · subst hk
      rw [if_pos rfl, leaf?_of_notMem hnew]
      rfl
    · rw [if_neg hk, find?_of_group_ne hinner hk, Option.or_none]

/-- A source of single settings lies over what is there, setting by setting. -/
theorem addSource_named {source : Members} (hs : Listing IsNamed source) {t : Tree}
    (ht : Listing IsGroup t.members) :
    Sets (fun k => find? source k.fullName) t (addSource source t) := by
  induction source generalizing t with
  | nil => exact Sets.refl ht
  | cons m rest ih =>
    obtain ⟨name, v⟩ := m
    obtain ⟨⟨l, _, rfl, hread⟩, hnew, hrest⟩ := hs.of_cons
    have hsetting : IsSetting l.group (l.name, v) := ⟨l, Section.mem_keys.mpr rfl, rfl, hread⟩
    obtain ⟨laid, hlaid⟩ :=
      change_readable hread l.name ((find? t.members l.group.name).getD nothing)
    have hfirst : Sets (fun k => find? [(l.name, v)] k.name) t
        (change (change (overlay v) l.name) l.group.name t) :=
      sets_group ht (Listing.singleton hsetting) (by rw [members_change, hlaid])
    have hstep : addSource ((l.fullName, v) :: rest) t =
        addSource rest (change (change (overlay v) l.name) l.group.name t) := by
      rw [addSource, List.foldl_cons, pathOf_fullName]
      rfl
    rw [hstep]
    refine hfirst.trans (ih hrest hfirst.listing) ?_
    intro k
    rw [find?_cons, find?_cons]
    by_cases hk : l = k
    · subst hk
      rw [find?_of_notMem hnew, if_pos rfl, if_pos rfl]
      rfl
    · rw [if_neg (fun hname => hk (Key.name_inj.mp hname)),
        if_neg (fun hname => hk (Key.fullName_inj.mp hname))]
      exact (Option.or_none).symm

end Tree

end ElmPrerender.Settings
