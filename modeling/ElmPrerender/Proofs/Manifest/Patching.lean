import ElmPrerender.Manifest
import ElmPrerender.Proofs.Json.Repeated
import ElmPrerender.Proofs.Path.Join
import ElmPrerender.Proofs.Results

/-!
# What patching changes

A manifest is patched if it lists its source directories and has no odd dependencies. Then the three
fields are as they have to be, and all others keep their values and their places.
-/

namespace ElmPrerender

theorem ManifestField.name_inj {f g : ManifestField} : f.name = g.name ↔ f = g := by
  cases f <;> cases g <;> decide

namespace Manifest

variable {m m' : Manifest} {invocation : Path}

theorem get?_set (m : Manifest) (f : ManifestField) (v : Json.Value) (name : String) :
    (m.set f v).get? name = if f.name = name then some v else m.get? name :=
  Json.Members.get?_insert m.fields f.name v name

theorem field?_set (m : Manifest) (f g : ManifestField) (v : Json.Value) :
    (m.set f v).field? g = if f = g then some v else m.field? g := by
  rw [field?, get?_set]
  simp only [ManifestField.name_inj, field?]

/-- The names of the fields, in order. -/
def names (m : Manifest) : List String := m.fields.map (·.1)

theorem field?_eq_none_iff {f : ManifestField} : m.field? f = none ↔ f.name ∉ m.names :=
  Json.Members.get?_eq_none_iff

/-- A new field comes last. -/
theorem names_set (m : Manifest) (f : ManifestField) (v : Json.Value) :
    (m.set f v).names = m.names ++ if m.field? f = none then [f.name] else [] := by
  have hinsert : (m.set f v).names = if f.name ∈ m.names then m.names else m.names ++ [f.name] :=
    Json.Members.names_insert m.fields f.name v
  rw [hinsert]
  simp only [field?_eq_none_iff]
  by_cases h : f.name ∈ m.names <;> simp [h]

theorem directory_eq_ok_iff {v : Json.Value} {d : String} :
    directory v = .ok d ↔ v = .string d := by
  cases v <;> simp [directory]

theorem mapM_directory_eq_ok_iff {entries : List Json.Value} {directories : List String} :
    entries.mapM directory = .ok directories ↔ entries = directories.map .string := by
  rw [mapM_eq_ok_iff]
  induction entries generalizing directories with
  | nil => cases directories <;> simp
  | cons v rest ih => cases directories <;> simp [directory_eq_ok_iff, ih]

theorem sourceDirectories_eq_ok_iff {directories : List String} :
    m.sourceDirectories = .ok directories ↔
      m.field? .sourceDirectories = some (.array (directories.map .string)) := by
  unfold sourceDirectories
  split
  · rename_i entries hfield
    rw [mapM_directory_eq_ok_iff, hfield, Option.some.injEq, Json.Value.array.injEq]
  · rename_i hfield
    refine ⟨fun h => (by cases h), fun h => absurd h (hfield _)⟩

theorem dependencies_eq_ok_iff {dependencies : Json.Members} :
    m.dependencies = .ok dependencies ↔
      (m.field? .dependencies = none ∧ dependencies = []) ∨
        m.field? .dependencies = some (.object dependencies) := by
  unfold Manifest.dependencies
  split
  · rename_i hfield
    simp [hfield, eq_comm]
  · rename_i members hfield
    simp [hfield]
  · rename_i v hother hfield
    simp only [hfield, reduceCtorEq, false_and, false_or, Option.some.injEq, false_iff]
    exact hother _

/-- What patching needs: a list of source directories, and dependencies that are an object if they
are there. -/
def Patchable (m : Manifest) : Prop :=
  (∃ directories : List String,
    m.field? .sourceDirectories = some (.array (directories.map .string))) ∧
  (m.field? .dependencies = none ∨
    ∃ members : Json.Members, m.field? .dependencies = some (.object members))

/-- A source directory as it is seen from the scratch directory. -/
def rebased (invocation : Path) (directory : String) : String := (invocation.join ⟨directory⟩).text

structure Rebased (invocation : Path) (before after : List String) : Prop where
  list : after = before.map (rebased invocation) ++ ["."]
  absolute : invocation.isAbsolute = true →
    ∀ directory ∈ after.dropLast, (⟨directory⟩ : Path).isAbsolute = true
  verbatim : ∀ directory ∈ before, (⟨directory⟩ : Path).isAbsolute = true →
    rebased invocation directory = directory

/-- The support package has its constraint, at its old place if it has one and else at the end. -/
structure Pinned (before after : Json.Members) : Prop where
  support : after.get? supportPackage = some (.string supportConstraint)
  others : after.filter (·.1 != supportPackage) = List.filter (·.1 != supportPackage) before
  order : after.map (·.1) = if supportPackage ∈ before.map (·.1) then before.map (·.1)
    else before.map (·.1) ++ [supportPackage]

structure Patched (invocation : Path) (m m' : Manifest) : Prop where
  sources : ∃ before after, m.sourceDirectories = .ok before ∧
    m'.sourceDirectories = .ok after ∧ Rebased invocation before after
  dependencies : ∃ before after, m.dependencies = .ok before ∧
    m'.dependencies = .ok after ∧ Pinned before after
  nativeModules : m'.field? .nativeModules = some (.bool true)
  others : ∀ name, name ∉ [ManifestField.sourceDirectories, .dependencies, .nativeModules].map
    ManifestField.name → m'.get? name = m.get? name
  order : m'.names = m.names ++
    (if m.field? .dependencies = none then [ManifestField.dependencies.name] else []) ++
    (if m.field? .nativeModules = none then [ManifestField.nativeModules.name] else [])
  projectName : m'.projectName = m.projectName

theorem rebased_rebase (invocation : Path) (directories : List String) :
    Rebased invocation directories (directories.map (rebased invocation) ++ ["."]) := by
  refine ⟨rfl, ?_, ?_⟩
  · intro habsolute directory hdirectory
    rw [List.dropLast_concat] at hdirectory
    obtain ⟨d, -, rfl⟩ := List.mem_map.mp hdirectory
    exact Path.isAbsolute_join habsolute ⟨d⟩
  · intro directory _ habsolute
    rw [rebased, Path.join_of_isAbsolute invocation habsolute]

theorem pinned_insert (dependencies : Json.Members) :
    Pinned dependencies (dependencies.insert supportPackage (.string supportConstraint)) := by
  refine ⟨?_, Json.Members.filter_insert dependencies _ _,
    Json.Members.names_insert dependencies _ _⟩
  rw [Json.Members.get?_insert, if_pos rfl]

/-- The manifest with the three fields set, from what it says in two of them. -/
def patchedWith (m : Manifest) (invocation : Path) (directories : List String)
    (dependencies : Json.Members) : Manifest :=
  ((m.set .sourceDirectories (rebase invocation directories)).set .dependencies
    (.object (dependencies.insert supportPackage (.string supportConstraint)))).set .nativeModules
      (.bool true)

theorem patch_eq_ok_iff : m.patch invocation = .ok m' ↔
    ∃ directories dependencies, m.sourceDirectories = .ok directories ∧
      m.dependencies = .ok dependencies ∧ m' = m.patchedWith invocation directories dependencies := by
  unfold patch
  cases hsources : m.sourceDirectories with
  | error e => simp [bind, Except.bind]
  | ok directories =>
    cases hdependencies : m.dependencies with
    | error e => simp [bind, Except.bind]
    | ok dependencies => simp [bind, Except.bind, pure, Except.pure, patchedWith, eq_comm]

theorem patched_patchedWith {directories : List String} {dependencies : Json.Members}
    (hsources : m.sourceDirectories = .ok directories)
    (hdependencies : m.dependencies = .ok dependencies) :
    Patched invocation m (m.patchedWith invocation directories dependencies) := by
  have hlisted := sourceDirectories_eq_ok_iff.mp hsources
  refine ⟨⟨directories, _, hsources, ?_, rebased_rebase invocation directories⟩,
    ⟨dependencies, _, hdependencies, ?_, pinned_insert dependencies⟩, ?_, ?_, ?_, ?_⟩
  · rw [sourceDirectories_eq_ok_iff]
    simp [patchedWith, field?_set, rebase, rebased]
  · rw [dependencies_eq_ok_iff]
    simp [patchedWith, field?_set]
  · simp [patchedWith, field?_set]
  · intro name hname
    simp only [List.map_cons, List.map_nil, List.mem_cons, List.not_mem_nil, or_false, not_or]
      at hname
    simp [patchedWith, get?_set, Ne.symm hname.1, Ne.symm hname.2.1, Ne.symm hname.2.2]
  · simp [patchedWith, names_set, field?_set, hlisted]
  · simp [projectName, patchedWith, field?_set]

/-- A manifest is patched exactly if it says what patching needs. Then its source directories are
seen from the scratch directory, the support package is pinned, native modules are allowed, and
nothing else is different. -/
theorem patch_changes (m : Manifest) (invocation : Path) :
    ((∃ m', m.patch invocation = .ok m') ↔ m.Patchable) ∧
      ∀ m', m.patch invocation = .ok m' → Patched invocation m m' := by
  refine ⟨⟨?_, ?_⟩, ?_⟩
  · rintro ⟨m', h⟩
    obtain ⟨directories, dependencies, hsources, hdependencies, -⟩ := patch_eq_ok_iff.mp h
    refine ⟨⟨directories, sourceDirectories_eq_ok_iff.mp hsources⟩, ?_⟩
    exact (dependencies_eq_ok_iff.mp hdependencies).imp And.left fun hobject => ⟨_, hobject⟩
  · rintro ⟨⟨directories, hsources⟩, hdependencies⟩
    have hread : ∃ dependencies, m.dependencies = .ok dependencies := by
      rcases hdependencies with hnone | ⟨members, hobject⟩
      · exact ⟨[], dependencies_eq_ok_iff.mpr (Or.inl ⟨hnone, rfl⟩)⟩
      · exact ⟨members, dependencies_eq_ok_iff.mpr (Or.inr hobject)⟩
    obtain ⟨dependencies, hread⟩ := hread
    exact ⟨_, patch_eq_ok_iff.mpr
      ⟨directories, dependencies, sourceDirectories_eq_ok_iff.mpr hsources, hread, rfl⟩⟩
  · intro m' h
    obtain ⟨directories, dependencies, hsources, hdependencies, rfl⟩ := patch_eq_ok_iff.mp h
    exact patched_patchedWith hsources hdependencies

/-- Fields that are there in odd places and with odd values. -/
example :
    (Manifest.mk [("native-modules", .null), ("x", .bool false),
      ("dependencies", .object [(supportPackage, .null), ("a", .array [])]),
      ("source-directories", .array [.string "src", .string "/lib"])]).patch ⟨"/p"⟩ =
    .ok ⟨[("native-modules", .bool true), ("x", .bool false),
      ("dependencies", .object [(supportPackage, .string supportConstraint), ("a", .array [])]),
      ("source-directories", .array [.string "/p/src", .string "/lib", .string "."])]⟩ := by
  rfl

end Manifest

end ElmPrerender
