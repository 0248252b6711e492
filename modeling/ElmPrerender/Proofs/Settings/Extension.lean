import ElmPrerender.Proofs.Settings.Drafting

/-!
Trees that differ in one setting. A tree extends another if it has a value for one setting and is as
the other elsewhere; it stays so when both are changed at places that do not concern the setting.
-/

namespace ElmPrerender.Settings

open ElmPrerender.Settings.Tree

namespace Tree

/-- The members of a table have different names. -/
def Distinct (t : Tree) : Prop :=
  (t.members.map Prod.fst).Nodup

theorem distinct_change (f : Tree → Tree) (key : String) {t : Tree} (h : Distinct t) :
    Distinct (change f key t) :=
  nodup_put key _ h

theorem distinct_overlayMembers (above : Members) {under : Tree} (h : Distinct under) :
    Distinct (overlayMembers above under) := by
  induction above generalizing under with
  | nil => exact h
  | cons m rest ih => exact ih (distinct_change (overlay m.2) m.1 h)

theorem distinct_overlay (v : Tree) {under : Tree} (h : Distinct under) :
    Distinct (overlay v under) := by
  cases v with
  | scalar origin v => exact List.nodup_nil
  | list origin items => exact List.nodup_nil
  | table origin above =>
    refine distinct_overlayMembers above ?_
    cases under with
    | table below inner => exact h
    | scalar below v => exact List.nodup_nil
    | list below items => exact List.nodup_nil

theorem distinct_changeAt (v : Tree) (path : List Step) {t : Tree} (h : Distinct t) :
    Distinct (changeAt (overlay v) path t) := by
  cases path with
  | nil => exact distinct_overlay v h
  | cons step path =>
    cases step with
    | key name => exact distinct_change _ name h
    | index i => exact List.nodup_nil

theorem distinct_nothing : Distinct nothing :=
  List.nodup_nil

theorem tidy_change {f : Tree → Tree} (hf : ∀ t, Distinct t → Distinct (f t)) (key : String)
    {t : Tree} (h : Draft.Tidy t.members) : Draft.Tidy (change f key t).members := by
  have hold : Distinct ((find? t.members key).getD nothing) := by
    cases hfind : find? t.members key with
    | none => exact distinct_nothing
    | some u => exact h.each _ (mem_of_find? hfind)
  refine ⟨nodup_put key _ h.distinct, ?_⟩
  intro m hm
  rcases mem_put hm with rfl | hm
  · exact hf _ hold
  · exact h.each m hm

/-- The path of a name begins with a name. -/
theorem pathOf_eq_cons (name : String) : ∃ first path, pathOf name = .key first :: path := by
  unfold pathOf
  cases hsteps : steps? (name.length + 2) ('.' :: name.toList) with
  | none => exact ⟨name, [], rfl⟩
  | some path =>
    rw [steps?, if_pos rfl] at hsteps
    dsimp only at hsteps
    split at hsteps
    · cases hsteps
    · obtain ⟨rest, _, rfl⟩ := Option.map_eq_some_iff.mp hsteps
      exact ⟨_, rest, rfl⟩

theorem tidy_addSource (source : Members) {t : Tree} (h : Draft.Tidy t.members) :
    Draft.Tidy (addSource source t).members := by
  induction source generalizing t with
  | nil => exact h
  | cons m rest ih =>
    obtain ⟨first, path, hpath⟩ := pathOf_eq_cons m.1
    have hstep : addSource (m :: rest) t =
        addSource rest (change (changeAt (overlay m.2) path) first t) := by
      rw [addSource, List.foldl_cons, hpath]
      rfl
    rw [hstep]
    exact ih (tidy_change (fun u => distinct_changeAt m.2 path) first h)

/-- Whether a path leads to a setting, into its value, or to its group as a whole. -/
def concerns (k : Key) : List Step → Bool
  | .key name :: .key inner :: _ => name == k.group.name && inner == k.name
  | .key name :: _ => name == k.group.name
  | _ => true

/-- What a table holds under a name is nothing, or it is a table where the setting has no value or
one that can be taken over. -/
def AdmitsIn (k : Key) : Tree → Prop
  | .table _ inner => ∀ u ∈ find? inner k.name, (Draft.brought k.read k.fullName u).isOk = true
  | .scalar _ _ | .list _ _ => False

/-- What a tree has for a setting can be overridden: its group is missing or a table, and a value
that is there can be taken over. -/
def Admits (k : Key) (members : Members) : Prop :=
  ∀ t ∈ find? members k.group.name, AdmitsIn k t

/-- The members of a group, none if the group is missing. -/
def groupMembers (members : Members) (g : Section) : Members :=
  ((find? members g.name).getD nothing).members

/-- A tree that has a value for one setting, and else what another tree has. -/
structure Extends (k : Key) (value : Tree) (above below : Members) : Prop where
  others : ∀ name, name ≠ k.group.name → find? above name = find? below name
  isTable : ∃ origin inner, find? above k.group.name = some (.table origin inner)
  value : find? (groupMembers above k.group) k.name = some value
  siblings : ∀ name, name ≠ k.name →
    find? (groupMembers above k.group) name = find? (groupMembers below k.group) name

theorem groupMembers_change_self (f : Tree → Tree) (g : Section) (t : Tree) :
    groupMembers (change f g.name t).members g =
      (f ((find? t.members g.name).getD nothing)).members := by
  rw [groupMembers, members_change, find?_put, if_pos rfl]
  rfl

theorem find?_change_of_ne (f : Tree → Tree) {key name : String} (h : key ≠ name) (t : Tree) :
    find? (change f key t).members name = find? t.members name := by
  rw [members_change, find?_put, if_neg h]

theorem groupMembers_change_of_ne (f : Tree → Tree) {key : String} {g : Section}
    (h : key ≠ g.name) (t : Tree) :
    groupMembers (change f key t).members g = groupMembers t.members g := by
  rw [groupMembers, groupMembers, find?_change_of_ne f h]

/-- A member of a group's table is changed within the group. -/
theorem find?_groupMembers_change (f : Tree → Tree) (g : Section) (key name : String) (t : Tree) :
    find? (groupMembers (change (change f key) g.name t).members g) name =
      if key = name then some (f ((find? (groupMembers t.members g) key).getD nothing))
      else find? (groupMembers t.members g) name := by
  rw [groupMembers_change_self, members_change, find?_put]
  rfl

section Spared

variable {k : Key} {path : List Step} {t : Tree}

/-- A path that begins with a name and does not concern a setting leads past its group, or within
its group past the setting. -/
theorem spared_cases {first : String} (h : concerns k (.key first :: path) = false) :
    first ≠ k.group.name ∨
      first = k.group.name ∧ ∃ inner rest, path = .key inner :: rest ∧ inner ≠ k.name := by
  by_cases hfirst : first = k.group.name
  · refine Or.inr ⟨hfirst, ?_⟩
    cases path with
    | nil => simp [concerns, hfirst] at h
    | cons step rest =>
      cases step with
      | index i => simp [concerns, hfirst] at h
      | key inner =>
        refine ⟨inner, rest, rfl, ?_⟩
        rintro rfl
        simp [concerns, hfirst] at h
  · exact Or.inl hfirst

theorem Admits.change {first : String} {f : Tree → Tree} (h : Admits k t.members)
    (hpath : concerns k (.key first :: path) = false) :
    Admits k (change (changeAt f path) first t).members := by
  rcases spared_cases hpath with hfirst | ⟨rfl, inner, rest, rfl, hinner⟩
  · intro u hu
    rw [find?_change_of_ne _ hfirst] at hu
    exact h u hu
  · intro u hu
    rw [members_change, find?_put, if_pos rfl] at hu
    obtain rfl := Option.some.inj hu
    intro v hv
    rw [find?_put, if_neg hinner] at hv
    cases hfind : find? t.members k.group.name with
    | none =>
      rw [hfind] at hv
      cases hv
    | some w =>
      rw [hfind] at hv
      have hw := h w hfind
      cases w with
      | table origin members => exact hw v hv
      | scalar origin x => exact hw.elim
      | list origin items => exact hw.elim

theorem Extends.change {value : Tree} {below : Tree} {first : String} {f : Tree → Tree}
    (h : Extends k value t.members below.members)
    (hpath : concerns k (.key first :: path) = false) :
    Extends k value (Tree.change (changeAt f path) first t).members
      (Tree.change (changeAt f path) first below).members := by
  rcases spared_cases hpath with hfirst | ⟨rfl, inner, rest, rfl, hinner⟩
  · constructor
    · intro name hname
      by_cases heq : first = name
      · subst heq
        rw [members_change, members_change, find?_put, find?_put, if_pos rfl, if_pos rfl,
          h.others first hfirst]
      · rw [find?_change_of_ne _ heq, find?_change_of_ne _ heq]
        exact h.others name hname
    · rw [find?_change_of_ne _ hfirst]
      exact h.isTable
    · rw [groupMembers_change_of_ne _ hfirst]
      exact h.value
    · rw [groupMembers_change_of_ne _ hfirst, groupMembers_change_of_ne _ hfirst]
      exact h.siblings
  · have hmembers : ∀ (u : Tree) (name : String),
        find? (groupMembers
          (Tree.change (changeAt f (.key inner :: rest)) k.group.name u).members k.group) name =
          if inner = name then
            some (changeAt f rest ((find? (groupMembers u.members k.group) inner).getD nothing))
          else find? (groupMembers u.members k.group) name :=
      fun u name => find?_groupMembers_change (changeAt f rest) k.group inner name u
    constructor
    · intro name hname
      rw [find?_change_of_ne _ hname.symm, find?_change_of_ne _ hname.symm]
      exact h.others name hname
    · rw [members_change, find?_put, if_pos rfl]
      exact ⟨_, _, rfl⟩
    · rw [hmembers, if_neg hinner]
      exact h.value
    · intro name hname
      rw [hmembers, hmembers, h.siblings inner hinner]
      by_cases heq : inner = name
      · rw [if_pos heq, if_pos heq]
      · rw [if_neg heq, if_neg heq]
        exact h.siblings name hname

/-- A text that is laid into the table of its group extends what was there. -/
theorem extends_change (origin : Option String) (v : Scalar) (t : Tree) :
    Extends k (.scalar origin v)
      (Tree.change (Tree.change (overlay (.scalar origin v)) k.name) k.group.name t).members
      t.members := by
  have hmembers := find?_groupMembers_change (overlay (.scalar origin v)) k.group k.name
  constructor
  · intro name hname
    exact find?_change_of_ne _ hname.symm t
  · rw [members_change, find?_put, if_pos rfl]
    exact ⟨_, _, rfl⟩
  · rw [hmembers, if_pos rfl, overlay]
  · intro name hname
    rw [hmembers, if_neg hname.symm]

end Spared

/-- None of the members of a source concerns a setting. -/
def Spares (k : Key) (source : Members) : Prop :=
  ∀ m ∈ source, concerns k (pathOf m.1) = false

theorem addSource_cons (m : String × Tree) (rest : Members) (t : Tree) :
    addSource (m :: rest) t = addSource rest (changeAt (overlay m.2) (pathOf m.1) t) :=
  rfl

theorem Admits.addSource {k : Key} {source : Members} (hs : Spares k source) {t : Tree}
    (h : Admits k t.members) : Admits k (addSource source t).members := by
  induction source generalizing t with
  | nil => exact h
  | cons m rest ih =>
    have hm := hs m List.mem_cons_self
    obtain ⟨first, path, hpath⟩ := pathOf_eq_cons m.1
    rw [hpath] at hm
    rw [addSource_cons, hpath]
    exact ih (fun n hn => hs n (List.mem_cons_of_mem _ hn)) (h.change hm)

theorem Extends.addSource {k : Key} {value : Tree} {source : Members} (hs : Spares k source)
    {t below : Tree} (h : Extends k value t.members below.members) :
    Extends k value (Tree.addSource source t).members (Tree.addSource source below).members := by
  induction source generalizing t below with
  | nil => exact h
  | cons m rest ih =>
    have hm := hs m List.mem_cons_self
    obtain ⟨first, path, hpath⟩ := pathOf_eq_cons m.1
    rw [hpath] at hm
    rw [addSource_cons, addSource_cons, hpath]
    exact ih (fun n hn => hs n (List.mem_cons_of_mem _ hn)) (h.change hm)

end Tree

namespace Draft

variable {k : Key} {value : Tree} {above below : Members}

theorem found_of_table {l : Key} {origin : Option String} {inner : Members}
    (h : find? above l.group.name = some (.table origin inner)) :
    found above l = find? (groupMembers above l.group) l.name := by
  unfold found groupMembers
  rw [h]
  exact if_pos rfl

theorem found_of_admits (h : Admits k below) {l : Key} (hl : l.group = k.group) :
    found below l = find? (groupMembers below l.group) l.name := by
  unfold Admits at h
  rw [← hl] at h
  cases hfind : find? below l.group.name with
  | none =>
    unfold found groupMembers
    rw [hfind]
    rfl
  | some t =>
    have ht := h t hfind
    cases t with
    | table origin inner => exact found_of_table hfind
    | scalar origin x => exact ht.elim
    | list origin items => exact ht.elim

/-- A value that is there can be taken over, and a value that is not need not be. -/
theorem exists_takes_of_admits (h : Admits k below) : ∃ o, Takes k (found below k) none o := by
  cases hfound : found below k with
  | none => exact ⟨none, rfl⟩
  | some u =>
    obtain ⟨t, ht, hu⟩ := Option.bind_eq_some_iff.mp hfound
    have hadmits := h t ht
    cases t with
    | scalar origin x => exact hadmits.elim
    | list origin items => exact hadmits.elim
    | table origin inner =>
      rw [inGroup, if_pos rfl] at hu
      have hok := hadmits u hu
      cases hbrought : brought k.read k.fullName u with
      | ok o => exact ⟨o, hbrought⟩
      | error e =>
        rw [hbrought] at hok
        cases hok

theorem found_extends_self (h : Extends k value above below) : found above k = some value := by
  obtain ⟨origin, inner, htable⟩ := h.isTable
  rw [found_of_table htable]
  exact h.value

theorem found_extends_of_ne (h : Extends k value above below) (hadmits : Admits k below) {l : Key}
    (hl : l ≠ k) : found above l = found below l := by
  by_cases hgroup : l.group = k.group
  · obtain ⟨origin, inner, htable⟩ := h.isTable
    rw [← hgroup] at htable
    rw [found_of_table htable, found_of_admits hadmits hgroup, hgroup]
    exact h.siblings l.name fun hname => hl (Key.name_inj.mp hname)
  · unfold found
    rw [h.others l.group.name fun hname => hgroup (Section.name_inj.mp hname)]

theorem sound_extends (h : Extends k value above below) (hadmits : Admits k below) :
    Sound above ↔ Sound below := by
  have hothers : ∀ g : Section, g ≠ k.group → find? above g.name = find? below g.name :=
    fun g hg => h.others g.name fun hname => hg (Section.name_inj.mp hname)
  constructor
  · intro hsound g t ht
    by_cases hg : g = k.group
    · subst hg
      have hadm := hadmits t ht
      cases t with
      | table origin inner => trivial
      | list origin items => trivial
      | scalar origin x => exact hadm.elim
    · exact hsound g t ((hothers g hg).trans ht)
  · intro hsound g t ht
    by_cases hg : g = k.group
    · subst hg
      obtain ⟨origin, inner, htable⟩ := h.isTable
      obtain rfl := Option.some.inj (htable.symm.trans ht)
      trivial
    · exact hsound g t ((hothers g hg).symm.trans ht)

/-- Where other settings find the same, only one setting is settled anew. -/
theorem Settles.update {first second : Key → Option Tree} {A : Assignment}
    (h : Settles first .empty A) (hsame : ∀ l, l ≠ k → second l = first l) {o : Option k.Value}
    (ho : Takes k (second k) none o) : Settles second .empty (Function.update A k o) := by
  intro l
  by_cases hl : l = k
  · subst hl
    rw [Function.update_self]
    exact ho
  · rw [Function.update_of_ne hl, hsame l hl]
    exact h l

end Draft

end ElmPrerender.Settings
