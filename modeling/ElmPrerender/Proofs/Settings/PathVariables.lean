import ElmPrerender.Proofs.Settings.Extension

/-!
Paths that are given by variables. The text of a variable is read as a truth value or a number if it
can be, and a path that was read as such is written out again: what is used is the text as it is
respelled. But for that, a variable and the option of the command line come to the same settings.
-/

namespace ElmPrerender.Settings

open ElmPrerender.Settings.Tree

/-- What a text becomes that is read as a value and then asked for as a text. -/
def respelled (s : String) : String :=
  match Tree.asText (.scalar none (Tree.scalarOfText s)) with
  | .ok text => text
  | .error _ => s

/-- The text of a variable is a value, whether or not it can be read as more than a text. -/
theorem scalarOfText_ne_nothing (s : String) : Tree.scalarOfText s ≠ .nothing := by
  unfold Tree.scalarOfText
  dsimp only
  split
  · intro h
    cases h
  · split
    · intro h
      cases h
    · split
      · intro h
        cases h
      · split <;> intro h <;> cases h

theorem asText_scalarOfText (origin : Option String) (s : String) :
    Tree.asText (.scalar origin (Tree.scalarOfText s)) = .ok (respelled s) := by
  have hvalue := scalarOfText_ne_nothing s
  unfold respelled
  cases hscalar : Tree.scalarOfText s with
  | nothing => exact absurd hscalar hvalue
  | bool b => rfl
  | integer i => rfl
  | float x => rfl
  | text t => rfl

/-- A text that reads as neither a truth value nor a number stays as it is. -/
theorem respelled_eq_self {s : String}
    (hbool : Text.lowercase s.toList ∉ ["true".toList, "false".toList])
    (hinteger : Decimal.signed64? s.toList = none) (hfloat : Decimal.float? s.toList = none) :
    respelled s = s := by
  have htrue : Text.lowercase s.toList ≠ "true".toList := fun h => hbool (by simp [h])
  have hfalse : Text.lowercase s.toList ≠ "false".toList := fun h => hbool (by simp [h])
  have hscalar : Tree.scalarOfText s = .text s := by
    simp only [Tree.scalarOfText, if_neg htrue, if_neg hfalse, hinteger, hfloat]
  simp only [respelled, hscalar, Tree.asText]

/-- The settings that are paths. -/
inductive PathSetting where
  | workspace
  | elmMake
  | node
  deriving DecidableEq, Repr

namespace PathSetting

def key : PathSetting → Key
  | .workspace => .directory
  | .elmMake => .elmMakePath
  | .node => .nodePath

/-- The variable that gives a path. -/
def variableName : PathSetting → String
  | .workspace => "ELM_STATIC_HTML__WORKSPACE__DIRECTORY"
  | .elmMake => "ELM_STATIC_HTML__TOOLCHAIN__ELM_MAKE_PATH"
  | .node => "ELM_STATIC_HTML__TOOLCHAIN__NODE_PATH"

/-- What the command line gives for a path. -/
def given : PathSetting → Arguments → Option String
  | .workspace, a => a.workspaceDir
  | .elmMake, a => a.elmMakePath
  | .node, a => a.nodePath

/-- The command line with an option for a path. -/
def give (s : PathSetting) (a : Arguments) (v : String) : Arguments :=
  match s with
  | .workspace => { a with workspaceDir := some v }
  | .elmMake => { a with elmMakePath := some v }
  | .node => { a with nodePath := some v }

/-- The path that a run uses. -/
def used : PathSetting → Settings → Path
  | .workspace, S => S.workspace
  | .elmMake, S => S.elmMake
  | .node, S => S.node

/-- A path is given as a text. -/
def ofText (s : PathSetting) (v : String) : s.key.Value :=
  match s with
  | .workspace | .elmMake | .node => v

variable (s : PathSetting) (a : Arguments) (v : String)

theorem read_eq {t : Tree} {v : String} (h : Tree.asText t = .ok v) :
    s.key.read t = .ok (s.ofText v) := by
  cases s <;> exact h

theorem ofOptions_of_given {a : Arguments} (h : s.given a = none) :
    Assignment.ofOptions a s.key = none := by
  cases s <;> exact h

theorem ofOptions_give : Assignment.ofOptions (s.give a v) s.key = some (s.ofText v) := by
  cases s <;> rfl

theorem ofOptions_give_of_ne {k : Key} (h : k ≠ s.key) :
    Assignment.ofOptions (s.give a v) k = Assignment.ofOptions a k := by
  cases s <;> cases k <;> first | rfl | exact absurd rfl h

theorem ofVerbosity_give : Assignment.ofVerbosity (s.give a v) = Assignment.ofVerbosity a := by
  cases s <;> rfl

theorem ofVerbosity_key : Assignment.ofVerbosity a s.key = none := by
  cases s <;> rfl

theorem settingsFile_give : (s.give a v).settingsFile = a.settingsFile := by
  cases s <;> rfl

theorem used_of_carries {S : Settings} {values : (k : Key) → k.Value} (h : Carries S values)
    (hvalue : values s.key = s.ofText v) : (s.used S).text = v := by
  cases s with
  | workspace => exact h.workspace.trans hvalue
  | elmMake => exact h.elmMake.trans hvalue
  | node => exact h.node.trans hvalue

/-- The variable of a path is a source of one setting. -/
theorem ofEnvironment_variable :
    ofEnvironment [(s.variableName, v)] =
      [(s.key.fullName, .scalar (some "the environment") (Tree.scalarOfText v))] := by
  have hprefix :
      variablePrefix.isPrefixOf (Text.lowercase s.variableName.toList) = true := by
    cases s <;> decide +kernel
  have hname : String.ofList (dotted
      ((Text.lowercase s.variableName.toList).drop variablePrefix.length)) = s.key.fullName := by
    cases s <;> decide +kernel
  simp only [ofEnvironment, List.filterMap_cons, List.filterMap_nil, hprefix, if_true, hname]

end PathSetting

section Path

variable (s : PathSetting) {a : Arguments} {v : String}

/-- Below an option of the command line it makes no difference what a path is. -/
theorem override_give (h : s.given a = none) {A B : Assignment}
    (hA : A s.key = some (s.ofText v)) (hsame : ∀ k, k ≠ s.key → A k = B k) :
    (Draft.ofAssignment A).override a = (Draft.ofAssignment B).override (s.give a v) := by
  rw [Draft.override_ofAssignment, Draft.override_ofAssignment]
  refine congrArg Draft.ofAssignment ?_
  funext k
  unfold Assignment.laidOver
  by_cases hk : k = s.key
  · subst hk
    rw [s.ofOptions_of_given h, s.ofVerbosity_key, s.ofOptions_give, hA]
    rfl
  · rw [s.ofOptions_give_of_ne a v hk, s.ofVerbosity_give, hsame k hk]

/-- Settings from a tree, the command line above it. -/
def resolveTree (t : Tree) (a : Arguments) : Except SettingsError Settings := do
  ((← Draft.ofTree t).override a).check

variable {origin : Option String} {x : Scalar} {above below : Tree}

/-- A path that a tree holds comes to the same settings as the path in an option above the rest of
the tree. -/
theorem resolveTree_extends (hgiven : s.given a = none)
    (hvalue : Draft.brought s.key.read s.key.fullName (.scalar origin x) = .ok (some (s.ofText v)))
    (hAbove : Draft.Tidy above.members) (hBelow : Draft.Tidy below.members)
    (hadmits : Admits s.key below.members)
    (h : Extends s.key (.scalar origin x) above.members below.members) :
    (resolveTree above a).toOption = (resolveTree below (s.give a v)).toOption := by
  have hfound : ∀ l, l ≠ s.key → Draft.found below.members l = Draft.found above.members l :=
    fun l hl => (Draft.found_extends_of_ne h hadmits hl).symm
  have hsound := Draft.sound_extends h hadmits
  have hself := Draft.found_extends_self h
  unfold resolveTree
  cases hp : Draft.ofTree above with
  | ok p =>
    obtain ⟨hsoundAbove, A, rfl, hA⟩ := (Draft.ofTree_eq_ok_iff hAbove p).mp hp
    obtain ⟨o, ho⟩ := Draft.exists_takes_of_admits hadmits
    have hq : Draft.ofTree below = .ok (Draft.ofAssignment (Function.update A s.key o)) :=
      (Draft.ofTree_eq_ok_iff hBelow _).mpr
        ⟨hsound.mp hsoundAbove, _, rfl, hA.update hfound ho⟩
    have hkey : A s.key = some (s.ofText v) := by
      have htakes := hA s.key
      rw [hself] at htakes
      exact Except.ok.inj (htakes.symm.trans hvalue)
    rw [hq]
    refine congrArg (fun p => (Draft.check p).toOption) (override_give s hgiven hkey ?_)
    intro l hl
    exact (Function.update_of_ne hl o A).symm
  | error e =>
    cases hq : Draft.ofTree below with
    | error e => rfl
    | ok q =>
      obtain ⟨hsoundBelow, A, rfl, hA⟩ := (Draft.ofTree_eq_ok_iff hBelow q).mp hq
      have hall : Draft.ofTree above =
          .ok (Draft.ofAssignment (Function.update A s.key (some (s.ofText v)))) :=
        (Draft.ofTree_eq_ok_iff hAbove _).mpr
          ⟨hsound.mpr hsoundBelow, _, rfl,
            hA.update (fun l hl => (hfound l hl).symm) (by rw [hself]; exact hvalue)⟩
      cases hp.symm.trans hall

end Path

/-- What the files have for a setting can be overridden, if there are files that can be read. -/
def FilesAdmit (files : Files Id) (invocation : Path) (settingsFile : Option String) (k : Key) :
    Prop :=
  ∀ here named, localSource files invocation = .ok here →
    namedSource files invocation settingsFile = .ok named → Admits k (merge [here, named]).members

instance decidableAdmitsIn (k : Key) : DecidablePred (AdmitsIn k)
  | .table _ inner => inferInstanceAs
      (Decidable (∀ u ∈ find? inner k.name, (Draft.brought k.read k.fullName u).isOk = true))
  | .scalar _ _ | .list _ _ => isFalse id

instance decidableAdmits (k : Key) (members : Members) : Decidable (Admits k members) :=
  inferInstanceAs (Decidable (∀ t ∈ find? members k.group.name, AdmitsIn k t))

instance decidableFilesAdmit (files : Files Id) (invocation : Path) (settingsFile : Option String)
    (k : Key) : Decidable (FilesAdmit files invocation settingsFile k) :=
  match hlocal : localSource files invocation,
      hfile : namedSource files invocation settingsFile with
  | .ok here, .ok named =>
    decidable_of_iff (Admits k (merge [here, named]).members)
      ⟨fun h _ _ h₁ h₂ =>
          Except.ok.inj (hlocal.symm.trans h₁) ▸ Except.ok.inj (hfile.symm.trans h₂) ▸ h,
        fun h => h here named hlocal hfile⟩
  | .error _, _ => isTrue fun _ _ h _ => nomatch hlocal.symm.trans h
  | _, .error _ => isTrue fun _ _ _ h => nomatch hfile.symm.trans h

instance decidableSpares (k : Key) (source : Members) : Decidable (Spares k source) :=
  inferInstanceAs (Decidable (∀ m ∈ source, concerns k (pathOf m.1) = false))

theorem ofEnvironment_append (before after : List (String × String)) :
    ofEnvironment (before ++ after) = ofEnvironment before ++ ofEnvironment after :=
  List.filterMap_append

theorem addSource_append (before after : Members) (t : Tree) :
    addSource (before ++ after) t = addSource after (addSource before t) :=
  List.foldl_append

section Loading

variable (s : PathSetting) (v : String) (before after : List (String × String))

/-- The environment with the variable of a path among others. -/
def PathSetting.export : List (String × String) :=
  before ++ (s.variableName, v) :: after

theorem ofEnvironment_export :
    ofEnvironment (s.export v before after) = ofEnvironment before ++
      (s.key.fullName, .scalar (some "the environment") (Tree.scalarOfText v)) ::
        ofEnvironment after := by
  have hmiddle : ofEnvironment ((s.variableName, v) :: after) =
      ofEnvironment [(s.variableName, v)] ++ ofEnvironment after :=
    ofEnvironment_append [(s.variableName, v)] after
  rw [PathSetting.export, ofEnvironment_append, hmiddle, s.ofEnvironment_variable]
  rfl

/-- In the merged tree a variable adds one setting to what the others come to. -/
theorem extends_export {t : Tree} (hSpared : Spares s.key (ofEnvironment (before ++ after))) :
    Extends s.key (.scalar (some "the environment") (Tree.scalarOfText v))
      (addSource (ofEnvironment (s.export v before after)) t).members
      (addSource (ofEnvironment (before ++ after)) t).members := by
  rw [ofEnvironment_append] at hSpared
  have hAfter : Spares s.key (ofEnvironment after) :=
    fun m hm => hSpared m (List.mem_append_right _ hm)
  rw [ofEnvironment_export, ofEnvironment_append, addSource_append, addSource_append,
    addSource_cons, pathOf_fullName]
  exact (extends_change _ _ _).addSource hAfter

theorem resolve_export {a : Arguments} {here named : Members} (hgiven : s.given a = none)
    (hSpared : Spares s.key (ofEnvironment (before ++ after)))
    (hadmits : Admits s.key (merge [here, named]).members) :
    (resolve [here, named, ofEnvironment (s.export v before after)] a).toOption =
      (resolve [here, named, ofEnvironment (before ++ after)]
        (s.give a (respelled v))).toOption := by
  have hBase : Draft.Tidy (Tree.table none []).members := ⟨List.nodup_nil, by simp [Tree.members]⟩
  have hTidy : Draft.Tidy (merge [here, named]).members :=
    tidy_addSource named (tidy_addSource here hBase)
  have hvalue : Draft.brought s.key.read s.key.fullName
      (.scalar (some "the environment") (Tree.scalarOfText v)) =
        .ok (some (s.ofText (respelled v))) :=
    Draft.brought_of_ok (by intro origin; cases s <;> exact ⟨_, rfl⟩)
      (s.read_eq (asText_scalarOfText _ v))
  exact resolveTree_extends s hgiven hvalue (tidy_addSource _ hTidy) (tidy_addSource _ hTidy)
    (hadmits.addSource hSpared) (extends_export s v before after hSpared)

end Loading

/-- Loaded settings come from sources that can be read. -/
theorem exists_of_load_eq_ok {files : Files Id} {invocation : Path} {a : Arguments}
    {environment : List (String × String)} {S : Settings}
    (h : load files invocation a environment = .ok S) :
    ∃ here named, localSource files invocation = .ok here ∧
      namedSource files invocation a.settingsFile = .ok named ∧
      resolve [here, named, ofEnvironment environment] a = .ok S := by
  unfold load at h
  cases hlocal : localSource files invocation with
  | error e =>
    rw [hlocal] at h
    cases h
  | ok here =>
    cases hfile : namedSource files invocation a.settingsFile with
    | error e =>
      rw [hlocal, hfile] at h
      cases h
    | ok named =>
      rw [hlocal, hfile] at h
      exact ⟨here, named, rfl, rfl, h⟩

/-- Settings that are accepted hold the values of their draft. -/
theorem Draft.carries_of_check {A : Assignment} {S : Settings}
    (h : (ofAssignment A).check = .ok S) : Carries S fun k => (A k).getD k.standard := by
  have hJudged := check_ofAssignment A
  rw [h] at hJudged
  unfold Judged at hJudged
  cases hrefused : firstRefused Key.all fun k => (A k).getD k.standard with
  | none =>
    rw [hrefused] at hJudged
    obtain ⟨S', hS, hcarries⟩ := hJudged
    exact Except.ok.inj hS ▸ hcarries
  | some k =>
    rw [hrefused] at hJudged
    obtain ⟨r, hr, _⟩ := hJudged
    cases hr

/-- The settings that a draft has so far. -/
def Draft.assignment (p : Draft) : Assignment
  | .level => p.level
  | .json => p.json
  | .directory => p.directory
  | .elmMakePath => p.elmMakePath
  | .nodePath => p.nodePath
  | .indent => p.indent
  | .newLines => p.newLines

theorem Draft.ofAssignment_assignment (p : Draft) : ofAssignment p.assignment = p := rfl

/-- A path on the command line is used as it is written. -/
theorem used_of_load_give (s : PathSetting) (v : String) {files : Files Id} {invocation : Path}
    {a : Arguments} {environment : List (String × String)} {S : Settings}
    (h : load files invocation (s.give a v) environment = .ok S) : (s.used S).text = v := by
  obtain ⟨here, named, _, _, hresolve⟩ := exists_of_load_eq_ok h
  unfold resolve at hresolve
  cases hp : Draft.ofTree (merge [here, named, ofEnvironment environment]) with
  | error e =>
    rw [hp] at hresolve
    cases hresolve
  | ok p =>
    rw [hp] at hresolve
    have hcheck : (p.override (s.give a v)).check = .ok S := hresolve
    rw [← p.ofAssignment_assignment, Draft.override_ofAssignment] at hcheck
    refine s.used_of_carries v (Draft.carries_of_check hcheck) ?_
    unfold Assignment.laidOver
    rw [s.ofOptions_give]
    rfl

theorem eq_ok_of_toOption {ε α : Type} {result : Except ε α} {x : α}
    (h : result.toOption = some x) : result = .ok x := by
  cases result with
  | ok y => exact congrArg Except.ok (Option.some.inj h)
  | error e => cases h

/-- A path in a variable comes to the same settings as the path in an option, if it is respelled
there as variables are; so the variable and the option agree on a path exactly when respelling
leaves it as it is. -/
theorem load_export_respells (files : Files Id) (invocation : Path) (a : Arguments)
    (s : PathSetting) (v : String) (before after : List (String × String))
    (hgiven : s.given a = none) (hSpared : Spares s.key (ofEnvironment (before ++ after)))
    (hFiles : FilesAdmit files invocation a.settingsFile s.key) :
    (load files invocation a (s.export v before after)).toOption =
      (load files invocation (s.give a (respelled v)) (before ++ after)).toOption ∧
    ∀ S, load files invocation (s.give a v) (before ++ after) = .ok S →
      (s.used S).text = v ∧
      (load files invocation a (s.export v before after) = .ok S ↔ respelled v = v) := by
  have hRespelled : (load files invocation a (s.export v before after)).toOption =
      (load files invocation (s.give a (respelled v)) (before ++ after)).toOption := by
    unfold load
    rw [s.settingsFile_give]
    cases hlocal : localSource files invocation with
    | error e => rfl
    | ok here =>
      cases hfile : namedSource files invocation a.settingsFile with
      | error e => rfl
      | ok named =>
        exact resolve_export s v before after hgiven hSpared (hFiles here named hlocal hfile)
  refine ⟨hRespelled, ?_⟩
  intro S hS
  refine ⟨used_of_load_give s v hS, ?_⟩
  constructor
  · intro hExport
    rw [hExport] at hRespelled
    have hGive := eq_ok_of_toOption hRespelled.symm
    exact (used_of_load_give s _ hGive).symm.trans (used_of_load_give s v hS)
  · intro hv
    rw [hv, hS] at hRespelled
    exact eq_ok_of_toOption hRespelled

/-- Beside the project a workspace that is hidden by the variable. -/
def numberedFiles : Files Id := filesOf
  [("/site/elm-static-html.toml", "[workspace]\ndirectory = \"scratch\"\n\n[render]\nindent = 2\n")]

def numberedBefore : List (String × String) := [("HOME", "/root")]

def numberedAfter : List (String × String) := [("ELM_STATIC_HTML__TOOLCHAIN__NODE_PATH", "node18")]

theorem numbered_export_respells :
    PathSetting.workspace.given {} = none ∧
    Spares .directory (ofEnvironment (numberedBefore ++ numberedAfter)) ∧
    FilesAdmit numberedFiles siteDirectory none .directory ∧
    (load numberedFiles siteDirectory {}
        (PathSetting.workspace.export "007" numberedBefore numberedAfter)).toOption =
      (load numberedFiles siteDirectory { workspaceDir := some (respelled "007") }
        (numberedBefore ++ numberedAfter)).toOption ∧
    ∀ S, load numberedFiles siteDirectory { workspaceDir := some "007" }
        (numberedBefore ++ numberedAfter) = .ok S →
      S.workspace.text = "007" ∧
      (load numberedFiles siteDirectory {}
          (PathSetting.workspace.export "007" numberedBefore numberedAfter) = .ok S ↔
        respelled "007" = "007") := by
  have hSpared : Spares .directory (ofEnvironment (numberedBefore ++ numberedAfter)) := by
    decide +kernel
  have hFiles : FilesAdmit numberedFiles siteDirectory none .directory := by decide +kernel
  refine ⟨rfl, hSpared, hFiles, ?_⟩
  exact load_export_respells numberedFiles siteDirectory {} .workspace "007" numberedBefore
    numberedAfter rfl hSpared hFiles

/-- The variable points to another directory than the option does. -/
theorem leading_zeros_lost :
    (load (filesOf []) siteDirectory {}
        (PathSetting.workspace.export "007" [] [])).toOption.map (·.workspace.text) = some "7" ∧
    (load (filesOf []) siteDirectory (PathSetting.workspace.give {} "007") []).toOption.map
        (·.workspace.text) = some "007" := by
  decide +kernel

end ElmPrerender.Settings
