import ElmPrerender.Proofs.Settings.Precedence

/-!
The draft of a tree, setting by setting. The members of a tree are taken over one after the other,
but as their names differ the order makes no difference: a draft comes about exactly when every
group has a form that can hold settings and every value that is found can be taken over.
-/

namespace ElmPrerender.Settings.Draft

open ElmPrerender.Settings.Tree

/-- What a setting comes to. Where no value is found it stays as it was. -/
def Takes (k : Key) : Option Tree → Option k.Value → Option k.Value → Prop
  | none, before, after => after = before
  | some t, _, after => brought k.read k.fullName t = .ok after

/-- Every setting comes to what is found for it. -/
def Settles (found : Key → Option Tree) (A B : Assignment) : Prop :=
  ∀ k, Takes k (found k) (A k) (B k)

/-- Where one of two rounds finds nothing, only the other counts. -/
theorem takes_both {k : Key} {first second : Option Tree} (h : first = none ∨ second = none)
    (before after : Option k.Value) :
    (∃ between, Takes k first before between ∧ Takes k second between after) ↔
      Takes k (first.or second) before after := by
  rcases h with rfl | rfl
  · simp only [Takes, exists_eq_left, Option.none_or]
  · simp only [Takes, exists_eq_right', Option.or_none]

theorem settles_nothing {A B : Assignment} : Settles (fun _ => none) A B ↔ B = A := by
  constructor
  · intro h
    funext k
    exact h k
  · rintro rfl k
    rfl

/-- Of two rounds that find values for different settings, each settles its own. -/
theorem settles_both {first second : Key → Option Tree}
    (h : ∀ k, first k = none ∨ second k = none) (A C : Assignment) :
    (∃ B, Settles first A B ∧ Settles second B C) ↔
      Settles (fun k => (first k).or (second k)) A C := by
  constructor
  · rintro ⟨B, hB, hC⟩ k
    exact (takes_both (h k) (A k) (C k)).mp ⟨B k, hB k, hC k⟩
  · intro hC
    obtain ⟨B, hB⟩ := Classical.skolem.mp fun k => (takes_both (h k) (A k) (C k)).mpr (hC k)
    exact ⟨B, fun k => (hB k).1, fun k => (hB k).2⟩

/-- A draft comes about exactly when all is sound, and it settles what is found. -/
def Settled (found : Key → Option Tree) (sound : Prop) (A : Assignment)
    (result : Except SettingsError Draft) : Prop :=
  ∀ p, result = .ok p ↔ sound ∧ ∃ B, p = ofAssignment B ∧ Settles found A B

theorem ofAssignment_inj {A B : Assignment} : ofAssignment A = ofAssignment B ↔ A = B := by
  constructor
  · intro h
    injection h with hlevel hjson hdirectory helm hnode hindent hlines
    funext k
    cases k <;> assumption
  · rintro rfl
    rfl

namespace Settled

variable {found : Key → Option Tree} {sound : Prop} {A : Assignment}

theorem pure (A : Assignment) : Settled (fun _ => none) True A (.ok (ofAssignment A)) := by
  intro p
  simp only [settles_nothing, exists_eq_right, true_and]
  exact ⟨fun h => (Except.ok.inj h).symm, fun h => congrArg Except.ok h.symm⟩

theorem congr {found' : Key → Option Tree} {sound' : Prop} {result : Except SettingsError Draft}
    (h : Settled found sound A result) (hfound : ∀ k, found' k = found k)
    (hsound : sound' ↔ sound) : Settled found' sound' A result := by
  obtain rfl : found' = found := funext hfound
  intro p
  rw [hsound]
  exact h p

/-- One round after another that finds values for other settings. -/
theorem bind {found' : Key → Option Tree} {sound' : Prop} {result : Except SettingsError Draft}
    {rest : Draft → Except SettingsError Draft} (h : Settled found sound A result)
    (hrest : ∀ B, Settled found' sound' B (rest (ofAssignment B)))
    (hapart : ∀ k, found k = none ∨ found' k = none) :
    Settled (fun k => (found k).or (found' k)) (sound ∧ sound') A (result >>= rest) := by
  intro p
  constructor
  · intro hp
    cases hresult : result with
    | error e =>
      rw [hresult] at hp
      cases hp
    | ok q =>
      rw [hresult] at hp
      obtain ⟨hsound, B, rfl, hB⟩ := (h q).mp hresult
      obtain ⟨hsound', C, rfl, hC⟩ := (hrest B p).mp hp
      exact ⟨⟨hsound, hsound'⟩, C, rfl, (settles_both hapart A C).mp ⟨B, hB, hC⟩⟩
  · rintro ⟨⟨hsound, hsound'⟩, C, rfl, hC⟩
    obtain ⟨B, hB, hC⟩ := (settles_both hapart A C).mpr hC
    have hresult : result = .ok (ofAssignment B) := (h _).mpr ⟨hsound, B, rfl, hB⟩
    have hp : rest (ofAssignment B) = .ok (ofAssignment C) :=
      (hrest B _).mpr ⟨hsound', C, rfl, hC⟩
    rw [hresult]
    exact hp

end Settled

theorem setValue_ofAssignment (A : Assignment) (k : Key) (label : String) (t : Tree) :
    (ofAssignment A).setValue k label t =
      brought k.read label t >>= fun v => pure (ofAssignment (Function.update A k v)) := by
  cases k <;> rfl

/-- Under which label a value is read only matters if it is of another kind. -/
theorem brought_eq_ok_iff {α : Type} {kind : Tree → Except (Unexpected × String) α}
    {t : Tree} {o : Option α} (label other : String) :
    brought kind label t = .ok o ↔ brought kind other t = .ok o := by
  unfold brought
  split
  · exact Iff.rfl
  · cases kind _ with
    | ok a => exact Iff.rfl
    | error e => exact iff_of_false (by intro h; cases h) (by intro h; cases h)

/-- A value for one setting. -/
def only (k : Key) (t : Tree) (l : Key) : Option Tree :=
  if l = k then some t else none

theorem only_self (k : Key) (t : Tree) : only k t k = some t :=
  if_pos rfl

theorem only_of_ne {k l : Key} (h : l ≠ k) (t : Tree) : only k t l = none :=
  if_neg h

theorem setValue_settled (A : Assignment) (k : Key) (label : String) (t : Tree) :
    Settled (only k t) True A ((ofAssignment A).setValue k label t) := by
  intro p
  rw [setValue_ofAssignment]
  constructor
  · intro hp
    cases hbrought : brought k.read label t with
    | error e =>
      rw [hbrought] at hp
      cases hp
    | ok v =>
      rw [hbrought] at hp
      refine ⟨trivial, Function.update A k v, (Except.ok.inj hp).symm, ?_⟩
      intro l
      by_cases hl : l = k
      · subst hl
        rw [only_self, Function.update_self]
        exact (brought_eq_ok_iff _ _).mp hbrought
      · rw [only_of_ne hl, Function.update_of_ne hl]
        rfl
  · rintro ⟨_, B, rfl, hB⟩
    have hk := hB k
    rw [only_self] at hk
    rw [(brought_eq_ok_iff label k.fullName).mpr hk]
    refine congrArg Except.ok (ofAssignment_inj.mpr ?_)
    funext l
    by_cases hl : l = k
    · subst hl
      exact Function.update_self ..
    · have hother := hB l
      rw [only_of_ne hl] at hother
      rw [Function.update_of_ne hl]
      exact hother.symm

/-- The value of a setting in what is given for a group: in a table under its name, in a list at its
place. -/
def inGroup (g : Section) : Tree → Key → Option Tree
  | .table _ inner, k => if k.group = g then find? inner k.name else none
  | .list _ items, k => (g.keys.zip items).lookup k
  | .scalar _ _, _ => none

/-- What can hold the settings of a group. -/
def IsStructured : Tree → Prop
  | .table _ _ | .list _ _ => True
  | .scalar _ _ => False

theorem lookup_eq_none_of_notMem {pairs : List (Key × Tree)} {k : Key}
    (h : k ∉ pairs.map Prod.fst) : pairs.lookup k = none := by
  rw [List.lookup_eq_none_iff]
  intro p hp
  have hne : k ≠ p.1 := fun heq => h (heq ▸ List.mem_map_of_mem hp)
  simpa using hne

theorem inGroup_of_group_ne {g : Section} {k : Key} (h : k.group ≠ g) (t : Tree) :
    inGroup g t k = none := by
  cases t with
  | table origin inner => exact if_neg h
  | scalar origin v => rfl
  | list origin items =>
    refine lookup_eq_none_of_notMem ?_
    intro hmem
    obtain ⟨p, hp, rfl⟩ := List.mem_map.mp hmem
    exact h (Section.mem_keys.mp (List.of_mem_zip hp).1)

theorem keys_find?_eq_some {g : Section} {name : String} {k : Key}
    (h : g.keys.find? (·.name == name) = some k) : k.group = g ∧ k.name = name := by
  constructor
  · exact Section.mem_keys.mp (List.mem_of_find?_eq_some h)
  · simpa using List.find?_some h

theorem setMember_settled (g : Section) (m : String × Tree) (A : Assignment) :
    Settled (fun k => if k.group = g then find? [m] k.name else none) True A
      ((ofAssignment A).setMember g m) := by
  obtain ⟨name, t⟩ := m
  unfold setMember
  cases hfind : g.keys.find? (·.name == name) with
  | none =>
    refine (Settled.pure A).congr ?_ Iff.rfl
    intro k
    by_cases hk : k.group = g
    · have hname : name ≠ k.name := by
        rintro rfl
        rw [keys_find?_name (Section.mem_keys.mpr hk)] at hfind
        cases hfind
      rw [if_pos hk, find?_cons, if_neg hname]
      rfl
    · exact if_neg hk
  | some k =>
    obtain ⟨rfl, rfl⟩ := keys_find?_eq_some hfind
    refine (setValue_settled A k k.fullName t).congr ?_ Iff.rfl
    intro l
    by_cases hl : l = k
    · subst hl
      rw [only_self, if_pos rfl, find?_cons, if_pos rfl]
    · have hname : k.name ≠ l.name := fun h => hl (Key.name_inj.mp h).symm
      rw [only_of_ne hl, find?_cons, if_neg hname]
      exact ite_self none

theorem foldlM_setMember_settled (g : Section) {inner : Members}
    (h : (inner.map Prod.fst).Nodup) (A : Assignment) :
    Settled (fun k => if k.group = g then find? inner k.name else none) True A
      (inner.foldlM (setMember g) (ofAssignment A)) := by
  induction inner generalizing A with
  | nil =>
    refine (Settled.pure A).congr ?_ Iff.rfl
    intro k
    exact ite_self none
  | cons m rest ih =>
    obtain ⟨name, t⟩ := m
    obtain ⟨hnew, hrest⟩ := List.nodup_cons.mp h
    rw [List.foldlM_cons]
    refine ((setMember_settled g (name, t) A).bind (ih hrest) ?_).congr ?_ (by simp)
    · intro k
      by_cases hname : name = k.name
      · subst hname
        exact Or.inr (by rw [find?_of_notMem hnew]; exact ite_self none)
      · exact Or.inl (by rw [find?_cons, if_neg hname]; exact ite_self none)
    · intro k
      by_cases hk : k.group = g
      · rw [if_pos hk, if_pos hk, if_pos hk, find?_cons, find?_cons]
        by_cases hname : name = k.name
        · rw [if_pos hname, if_pos hname]
          rfl
        · rw [if_neg hname, if_neg hname]
          rfl
      · rw [if_neg hk, if_neg hk, if_neg hk]
        rfl

theorem setItems_settled (g : Section) {pairs : List (Key × Tree)}
    (h : (pairs.map Prod.fst).Nodup) (A : Assignment) (n : Nat) :
    Settled (fun k => pairs.lookup k) True A (setItems g (ofAssignment A) pairs n) := by
  induction pairs generalizing A n with
  | nil => exact Settled.pure A
  | cons m rest ih =>
    obtain ⟨l, t⟩ := m
    obtain ⟨hnew, hrest⟩ := List.nodup_cons.mp h
    refine ((setValue_settled A l _ t).bind (fun B => ih hrest B (n + 1)) ?_).congr ?_ (by simp)
    · intro k
      by_cases hk : k = l
      · subst hk
        exact Or.inr (lookup_eq_none_of_notMem hnew)
      · exact Or.inl (only_of_ne hk t)
    · intro k
      rw [List.lookup_cons]
      by_cases hk : k = l
      · subst hk
        rw [beq_self_eq_true, only_self]
        rfl
      · rw [beq_false_of_ne hk, only_of_ne hk]
        rfl

theorem nodup_zip_keys (g : Section) (items : List Tree) :
    ((g.keys.zip items).map Prod.fst).Nodup := by
  have hkeys : g.keys.Nodup := by cases g <;> decide
  rw [List.zip_eq_zip_take_min, List.map_fst_zip (by simp)]
  exact hkeys.sublist (List.take_sublist _ _)

theorem setGroup_settled (g : Section) {t : Tree} (h : (t.members.map Prod.fst).Nodup)
    (A : Assignment) :
    Settled (inGroup g t) (IsStructured t) A ((ofAssignment A).setGroup g t) := by
  cases t with
  | table origin inner => exact foldlM_setMember_settled g h A
  | list origin items => exact setItems_settled g (nodup_zip_keys g items) A 0
  | scalar origin v =>
    intro p
    exact iff_of_false (by intro hp; cases hp) (fun hp => hp.1)

/-- The value that a tree of groups has for a setting. -/
def found (members : Members) (k : Key) : Option Tree :=
  (find? members k.group.name).bind fun t => inGroup k.group t k

/-- The names in a tree and in its tables differ. -/
structure Tidy (members : Members) : Prop where
  distinct : (members.map Prod.fst).Nodup
  each : ∀ m ∈ members, (m.2.members.map Prod.fst).Nodup

/-- The groups that are given have a form that can hold settings. -/
def Sound (members : Members) : Prop :=
  ∀ g : Section, ∀ t, find? members g.name = some t → IsStructured t

theorem groups_find?_eq_some {name : String} {g : Section}
    (h : groups.find? (·.name == name) = some g) : g.name = name := by
  simpa using List.find?_some h

theorem found_cons (g : Section) (t : Tree) (rest : Members) (k : Key) :
    found ((g.name, t) :: rest) k = if k.group = g then inGroup g t k else found rest k := by
  unfold found
  rw [find?_cons]
  by_cases hk : k.group = g
  · subst hk
    rw [if_pos rfl, if_pos rfl]
    rfl
  · rw [if_neg (fun hname => hk (Section.name_inj.mp hname).symm), if_neg hk]

theorem found_cons_of_ne {name : String} {t : Tree} {rest : Members}
    (h : ∀ g : Section, g.name ≠ name) (k : Key) : found ((name, t) :: rest) k = found rest k := by
  unfold found
  rw [find?_cons, if_neg (h k.group).symm]

theorem found_of_notMem {members : Members} {k : Key}
    (h : k.group.name ∉ members.map Prod.fst) : found members k = none := by
  unfold found
  rw [find?_of_notMem h]
  rfl

theorem sound_cons {g : Section} {t : Tree} {rest : Members}
    (h : g.name ∉ rest.map Prod.fst) :
    Sound ((g.name, t) :: rest) ↔ IsStructured t ∧ Sound rest := by
  constructor
  · intro hsound
    constructor
    · exact hsound g t (by rw [find?_cons, if_pos rfl])
    · intro g' u hu
      refine hsound g' u ?_
      have hname : g.name ≠ g'.name := by
        intro heq
        rw [← heq, find?_of_notMem h] at hu
        cases hu
      rw [find?_cons, if_neg hname]
      exact hu
  · rintro ⟨ht, hrest⟩ g' u hu
    rw [find?_cons] at hu
    by_cases hname : g.name = g'.name
    · rw [if_pos hname] at hu
      exact Option.some.inj hu ▸ ht
    · rw [if_neg hname] at hu
      exact hrest g' u hu

theorem sound_cons_of_ne {name : String} {t : Tree} {rest : Members}
    (h : ∀ g : Section, g.name ≠ name) : Sound ((name, t) :: rest) ↔ Sound rest := by
  unfold Sound
  constructor
  · intro hsound g u hu
    exact hsound g u (by rw [find?_cons, if_neg (h g).symm]; exact hu)
  · intro hrest g u hu
    rw [find?_cons, if_neg (h g).symm] at hu
    exact hrest g u hu

theorem foldlM_setGroup_settled {members : Members} (h : Tidy members) (A : Assignment) :
    Settled (found members) (Sound members) A
      (members.foldlM
        (fun p m => match groups.find? (·.name == m.1) with
          | some group => p.setGroup group m.2
          | none => .ok p)
        (ofAssignment A)) := by
  induction members generalizing A with
  | nil =>
    refine (Settled.pure A).congr (fun k => rfl) ?_
    exact iff_of_true (by intro g t ht; cases ht) trivial
  | cons m rest ih =>
    obtain ⟨name, t⟩ := m
    obtain ⟨hnew, hrest⟩ := List.nodup_cons.mp h.distinct
    have ih := ih ⟨hrest, fun n hn => h.each n (List.mem_cons_of_mem _ hn)⟩
    rw [List.foldlM_cons]
    cases hfind : groups.find? (·.name == name) with
    | none =>
      have hname : ∀ g : Section, g.name ≠ name := by
        rintro g rfl
        rw [groups_find?_name] at hfind
        cases hfind
      exact (ih A).congr (found_cons_of_ne hname) (sound_cons_of_ne hname)
    | some g =>
      obtain rfl := groups_find?_eq_some hfind
      have ht := h.each _ List.mem_cons_self
      refine ((setGroup_settled g ht A).bind ih ?_).congr ?_ (sound_cons hnew)
      · intro k
        by_cases hk : k.group = g
        · subst hk
          exact Or.inr (found_of_notMem hnew)
        · exact Or.inl (inGroup_of_group_ne hk t)
      · intro k
        rw [found_cons]
        by_cases hk : k.group = g
        · subst hk
          rw [if_pos rfl, found_of_notMem hnew, Option.or_none]
        · rw [if_neg hk, inGroup_of_group_ne hk, Option.none_or]

/-- A tree gives a draft exactly when its groups can hold settings and each value can be taken
over; the draft holds these values. -/
theorem ofTree_eq_ok_iff {t : Tree} (h : Tidy t.members) (p : Draft) :
    ofTree t = .ok p ↔
      Sound t.members ∧ ∃ A, p = ofAssignment A ∧ Settles (found t.members) .empty A :=
  foldlM_setGroup_settled h .empty p

end ElmPrerender.Settings.Draft
