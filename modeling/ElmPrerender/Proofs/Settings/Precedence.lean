import ElmPrerender.Proofs.Settings.Merging
import ElmPrerender.Settings.Load

/-!
Which value a setting has. The sources and the command line are layers, and the settings of a run
are judged by the values that come from the highest layers: one layer decides about one setting, and
a value that a higher layer hides is not looked at.
-/

namespace ElmPrerender.Settings

namespace Key

/-- The value that a tree gives a setting, if there is such a tree. -/
def valueIn (k : Key) (found : Option Tree) : Option k.Value :=
  found.bind fun t => (k.read t).toOption

theorem valueIn_some {k : Key} {t : Tree} {v : k.Value} (h : k.read t = .ok v) :
    k.valueIn (some t) = some v := by
  simp [valueIn, h, Except.toOption]

theorem read_of_isOk {k : Key} {t : Tree} (h : (k.read t).isOk = true) :
    ∃ v, k.read t = .ok v := by
  cases hread : k.read t with
  | ok v => exact ⟨v, rfl⟩
  | error e =>
    rw [hread] at h
    cases h

theorem valueIn_or {k : Key} {above : Option Tree} (below : Option Tree)
    (h : ∀ t, above = some t → (k.read t).isOk = true) :
    k.valueIn (above.or below) = (k.valueIn above).or (k.valueIn below) := by
  cases above with
  | none => rfl
  | some t =>
    obtain ⟨v, hv⟩ := read_of_isOk (h t rfl)
    rw [Option.some_or, valueIn_some hv]
    rfl

end Key

/-- The layer of a source of tables. -/
def Assignment.ofGroups (members : Tree.Members) : Assignment :=
  fun k => k.valueIn (Tree.leaf? members k)

/-- The layer of a source of single settings. -/
def Assignment.ofNamed (members : Tree.Members) : Assignment :=
  fun k => k.valueIn (Tree.find? members k.fullName)

/-- The layer of a table of settings. -/
def Assignment.ofSettings (members : Tree.Members) : Assignment :=
  fun k => k.valueIn (Tree.find? members k.name)

namespace Draft

open ElmPrerender.Settings.Tree Assignment

theorem keys_find?_name {g : Section} {k : Key} (h : k ∈ g.keys) :
    g.keys.find? (·.name == k.name) = some k := by
  cases g <;> cases k <;> first | decide | exact absurd h (by decide)

theorem groups_find?_name (g : Section) : groups.find? (·.name == g.name) = some g := by
  cases g <;> decide

theorem setMember_of_read {g : Section} {k : Key} {t : Tree} {v : k.Value} (hk : k ∈ g.keys)
    (hv : k.read t = .ok v) (A : Assignment) :
    (ofAssignment A).setMember g (k.name, t) =
      .ok (ofAssignment (Function.update A k (some v))) := by
  rw [setMember, keys_find?_name hk]
  exact setValue_of_read A k.fullName hv

/-- The table of a group lies over what was taken before. -/
theorem foldlM_setMember {g : Section} {inner : Members} (h : Listing (IsSetting g) inner)
    (A : Assignment) :
    inner.foldlM (setMember g) (ofAssignment A) =
      .ok (ofAssignment ((ofSettings inner).laidOver A)) := by
  induction inner generalizing A with
  | nil => rfl
  | cons m rest ih =>
    obtain ⟨name, t⟩ := m
    obtain ⟨⟨k, hk, rfl, hread⟩, hnew, hrest⟩ := h.of_cons
    obtain ⟨v, hv⟩ := Key.read_of_isOk hread
    rw [List.foldlM_cons, setMember_of_read hk hv]
    refine (ih hrest _).trans (congrArg (fun B => Except.ok (ofAssignment B)) ?_)
    funext l
    by_cases hl : k = l
    · subst hl
      simp only [laidOver, ofSettings, find?_cons, if_pos, find?_of_notMem hnew,
        Key.valueIn_some hv, Function.update_self]
      rfl
    · have hname : ¬ k.name = l.name := fun heq => hl (Key.name_inj.mp heq)
      simp only [laidOver, ofSettings, find?_cons, if_neg hname,
        Function.update_of_ne (Ne.symm hl)]

theorem foldlM_setGroup {members : Members} (h : Listing IsGroup members) (A : Assignment) :
    members.foldlM
        (fun p m => match groups.find? (·.name == m.1) with
          | some group => p.setGroup group m.2
          | none => .ok p)
        (ofAssignment A) =
      .ok (ofAssignment ((ofGroups members).laidOver A)) := by
  induction members generalizing A with
  | nil => rfl
  | cons m rest ih =>
    obtain ⟨hm, hnew, hrest⟩ := h.of_cons
    obtain ⟨g, origin, inner, rfl, hinner⟩ := hm.exists_table
    have hgroup : (ofAssignment A).setGroup g (.table origin inner) =
        .ok (ofAssignment ((ofSettings inner).laidOver A)) := foldlM_setMember hinner A
    rw [List.foldlM_cons, groups_find?_name]
    simp only [hgroup]
    refine (ih hrest _).trans (congrArg (fun B => Except.ok (ofAssignment B)) ?_)
    funext k
    simp only [laidOver, ofGroups, ofSettings, leaf?_cons]
    by_cases hk : k.group = g
    · subst hk
      rw [if_pos rfl, leaf?_of_notMem hnew]
      rfl
    · rw [if_neg hk, find?_of_group_ne hinner hk]
      rfl

theorem ofTree_of_groups {t : Tree} (h : Listing IsGroup t.members) :
    ofTree t = .ok (ofAssignment (ofGroups t.members)) := by
  refine (foldlM_setGroup h .empty).trans (congrArg (fun B => Except.ok (ofAssignment B)) ?_)
  funext k
  exact Option.or_none

end Draft

open Assignment in
/-- Laying a source of tables over a tree lays its layer over the tree's. -/
theorem ofGroups_addSource_groups {source : Tree.Members} {t : Tree}
    (hs : Tree.Listing Tree.IsGroup source) (ht : Tree.Listing Tree.IsGroup t.members) :
    ofGroups (Tree.addSource source t).members =
      (ofGroups source).laidOver (ofGroups t.members) := by
  funext k
  simp only [ofGroups, laidOver]
  rw [(Tree.addSource_groups hs ht).leaf k]
  exact Key.valueIn_or _ fun u hu => Tree.readable_of_leaf? hs hu

open Assignment in
theorem ofGroups_addSource_named {source : Tree.Members} {t : Tree}
    (hs : Tree.Listing Tree.IsNamed source) (ht : Tree.Listing Tree.IsGroup t.members) :
    ofGroups (Tree.addSource source t).members =
      (ofNamed source).laidOver (ofGroups t.members) := by
  funext k
  simp only [ofGroups, ofNamed, laidOver]
  rw [(Tree.addSource_named hs ht).leaf k]
  exact Key.valueIn_or _ fun u hu => Tree.readable_of_find?_fullName hs hu

theorem foldr_laidOver (layers : List Assignment) (k : Key) :
    (layers.foldr Assignment.laidOver .empty) k = layers.findSome? fun layer => layer k := by
  induction layers with
  | nil => rfl
  | cons A rest ih =>
    rw [List.findSome?_cons, List.foldr_cons, Assignment.laidOver, ih]
    cases A k <;> rfl

/-- The first layer that gives a setting is the one that shows when all are laid over each other. -/
theorem valuesOf_eq (layers : List Assignment) (k : Key) :
    valuesOf layers k = ((layers.foldr Assignment.laidOver .empty) k).getD k.standard := by
  rw [valuesOf, foldr_laidOver]

/-- All layers of a run, the highest first. Being verbose stands just below a level that is
given. -/
def layers (a : Arguments) (exported named here : Assignment) : List Assignment :=
  [.ofOptions a, .ofVerbosity a, exported, named, here]

open Assignment in
theorem ofTree_merge {here named exported : Tree.Members}
    (hHere : Tree.Listing Tree.IsGroup here) (hNamed : Tree.Listing Tree.IsGroup named)
    (hExported : Tree.Listing Tree.IsNamed exported) :
    Draft.ofTree (merge [here, named, exported]) =
      .ok (Draft.ofAssignment
        ([ofNamed exported, ofGroups named, ofGroups here].foldr laidOver .empty)) := by
  have hBase : Tree.Listing Tree.IsGroup (Tree.table none []).members := Tree.Listing.nil
  have hFirst := (Tree.addSource_groups hHere hBase).listing
  have hSecond := (Tree.addSource_groups hNamed hFirst).listing
  have hThird := (Tree.addSource_named hExported hSecond).listing
  refine (Draft.ofTree_of_groups hThird).trans
    (congrArg (fun A => Except.ok (Draft.ofAssignment A)) ?_)
  rw [ofGroups_addSource_named hExported hSecond, ofGroups_addSource_groups hNamed hFirst,
    ofGroups_addSource_groups hHere hBase]
  rfl

open Assignment in
theorem resolve_judged {here named exported : Tree.Members} (a : Arguments)
    (hHere : Tree.Listing Tree.IsGroup here) (hNamed : Tree.Listing Tree.IsGroup named)
    (hExported : Tree.Listing Tree.IsNamed exported) :
    Judged Key.all (valuesOf (layers a (ofNamed exported) (ofGroups named) (ofGroups here)))
      (resolve [here, named, exported] a) := by
  have hResolve : resolve [here, named, exported] a =
      (Draft.ofAssignment ((layers a (ofNamed exported) (ofGroups named) (ofGroups here)).foldr
        laidOver .empty)).check := by
    rw [resolve, ofTree_merge hHere hNamed hExported]
    exact congrArg Draft.check (Draft.override_ofAssignment _ a)
  rw [hResolve, funext (valuesOf_eq _)]
  exact Draft.check_ofAssignment _

/-- A source that can be read and gives these values. -/
def Gives (source : Except SettingsError Tree.Members) (A : Assignment) : Prop :=
  ∃ members, source = .ok members ∧ Tree.Listing Tree.IsGroup members ∧
    ∀ k ∈ Key.all, Assignment.ofGroups members k = A k

/-- Variables that give these values. -/
def Exports (environment : List (String × String)) (A : Assignment) : Prop :=
  Tree.Listing Tree.IsNamed (ofEnvironment environment) ∧
    ∀ k ∈ Key.all, Assignment.ofNamed (ofEnvironment environment) k = A k

instance decidableGives (source : Except SettingsError Tree.Members) (A : Assignment) :
    Decidable (Gives source A) :=
  match source with
  | .ok members =>
    decidable_of_iff (Tree.Listing Tree.IsGroup members ∧
        ∀ k ∈ Key.all, Assignment.ofGroups members k = A k)
      ⟨fun h => ⟨members, rfl, h⟩, fun ⟨_, hmembers, h⟩ => Except.ok.inj hmembers ▸ h⟩
  | .error _ => isFalse (fun ⟨_, hmembers, _⟩ => nomatch hmembers)

instance decidableExports (environment : List (String × String)) (A : Assignment) :
    Decidable (Exports environment A) :=
  inferInstanceAs (Decidable (Tree.Listing Tree.IsNamed (ofEnvironment environment) ∧
    ∀ k ∈ Key.all, Assignment.ofNamed (ofEnvironment environment) k = A k))

theorem eq_of_forall_mem_all {A B : Assignment} (h : ∀ k ∈ Key.all, A k = B k) : A = B :=
  funext fun k => h k (Key.mem_all k)

/-- Each setting has the value of the highest layer that gives it one, whatever the layers say of
the others. The settings are loaded exactly when all these values are accepted, and else the first
one that is not is named. -/
theorem load_by_precedence (files : Files Id) (invocation : Path) (a : Arguments)
    (environment : List (String × String)) (here named exported : Assignment)
    (hHere : Gives (localSource files invocation) here)
    (hNamed : Gives (namedSource files invocation a.settingsFile) named)
    (hExported : Exports environment exported) :
    ((∃ s, load files invocation a environment = .ok s) ↔
      ∀ k : Key, k.accepts (valuesOf (layers a exported named here) k) = true) ∧
    Judged Key.all (valuesOf (layers a exported named here))
      (load files invocation a environment) := by
  obtain ⟨localMembers, hLocal, hLocalListing, hLocalValues⟩ := hHere
  obtain ⟨namedMembers, hFile, hFileListing, hFileValues⟩ := hNamed
  obtain ⟨hListing, hValues⟩ := hExported
  obtain rfl := eq_of_forall_mem_all hLocalValues
  obtain rfl := eq_of_forall_mem_all hFileValues
  obtain rfl := eq_of_forall_mem_all hValues
  have hLoad : load files invocation a environment =
      resolve [localMembers, namedMembers, ofEnvironment environment] a := by
    simp only [load, hLocal, hFile]
    rfl
  rw [hLoad]
  have hJudged := resolve_judged a hLocalListing hFileListing hListing
  exact ⟨hJudged.ok_iff, hJudged⟩

/-- Texts under their paths. -/
def filesOf (texts : List (String × String)) : Files Id where
  isFile p := (texts.lookup p.text).isSome
  read p :=
    match texts.lookup p.text with
    | some text => .ok (Text.Utf8.encode text.toList)
    | none => .error .noSuchEntry

/-- Beside the project an unknown level, in the other file an indentation that is too large. -/
def siteFiles : Files Id := filesOf
  [("/site/elm-static-html.toml",
      "[logging]\nlevel = \"loud\"\njson = true\n\n[render]\nindent = 2\nnew_lines = false\n"),
    ("/site/tool.toml", "[toolchain]\nnode_path = \"nodejs\"\n\n[render]\nindent = 40\n")]

def siteDirectory : Path := ⟨"/site"⟩

def siteHere : Assignment
  | .level => some "loud"
  | .json => some true
  | .indent => some 2
  | .newLines => some false
  | .directory | .elmMakePath | .nodePath => none

def siteNamed : Assignment
  | .nodePath => some "nodejs"
  | .indent => some 40
  | .level | .json | .directory | .elmMakePath | .newLines => none

def siteEnvironment : List (String × String) :=
  [("HOME", "/root"), ("ELM_STATIC_HTML__RENDER__INDENT", "8"),
    ("ELM_STATIC_HTML__TOOLCHAIN__NODE_PATH", "node18")]

def siteExported : Assignment
  | .nodePath => some "node18"
  | .indent => some 8
  | .level | .json | .directory | .elmMakePath | .newLines => none

def siteArguments : Arguments :=
  { verbose := true, settingsFile := some "tool", elmMakePath := some "elm-make-0.18" }

/-- Both values that would be refused are hidden, so the settings are accepted. -/
theorem site_by_precedence :
    Gives (localSource siteFiles siteDirectory) siteHere ∧
    Gives (namedSource siteFiles siteDirectory siteArguments.settingsFile) siteNamed ∧
    Exports siteEnvironment siteExported ∧
    firstRefused Key.all (valuesOf (layers siteArguments siteExported siteNamed siteHere)) =
      none ∧
    ((∃ s, load siteFiles siteDirectory siteArguments siteEnvironment = .ok s) ↔
      ∀ k : Key, k.accepts (valuesOf (layers siteArguments siteExported siteNamed siteHere) k) =
        true) ∧
    Judged Key.all (valuesOf (layers siteArguments siteExported siteNamed siteHere))
      (load siteFiles siteDirectory siteArguments siteEnvironment) := by
  have hHere : Gives (localSource siteFiles siteDirectory) siteHere := by decide +kernel
  have hNamed : Gives (namedSource siteFiles siteDirectory siteArguments.settingsFile)
      siteNamed := by
    decide +kernel
  have hExported : Exports siteEnvironment siteExported := by decide +kernel
  refine ⟨hHere, hNamed, hExported, by decide +kernel, ?_⟩
  exact load_by_precedence siteFiles siteDirectory siteArguments siteEnvironment siteHere siteNamed
    siteExported hHere hNamed hExported

end ElmPrerender.Settings
