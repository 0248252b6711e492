import ElmPrerender.Proofs.Path.Join
import ElmPrerender.Proofs.Store.Files
import ElmPrerender.Workspace

/-!
# The generated files are different files

The places in a scratch directory differ in their components, whatever the directory is called.
-/

namespace ElmPrerender.Workspace

open ElmPrerender.Path (IsName)

/-- The names that lead to the generated files, in the order in which these are written. -/
def places : List (List String) :=
  [[manifestFile], [driverFile], [nativeDirectory, shimFile], [runnerFile]]

theorem isName_of_mem_places : ∀ place ∈ places, ∀ name ∈ place, IsName name := by decide

variable (w : Workspace)

/-- The paths of the generated files, in the order in which they are written. -/
def files : List Path := [w.manifest, w.driver, w.shim, w.runner]

theorem files_eq : w.files = places.map w.root.below := rfl

theorem components_place {place : List String} (h : place ∈ places) :
    (w.root.below place).components = w.root.components ++ place.map .normal :=
  Path.components_below w.root (isName_of_mem_places place h)

theorem components_native :
    w.native.components = w.root.components ++ [.normal nativeDirectory] :=
  Path.components_join_name w.root (by decide)

theorem eq_of_same_place {place other : List String} (h : place ∈ places) (hother : other ∈ places)
    (hsame : (w.root.below place).same (w.root.below other) = true) : place = other := by
  rw [Path.same_iff, w.components_place h, w.components_place hother, List.append_right_inj] at hsame
  have hinjective : Function.Injective Path.Component.normal := fun _ _ h => by cases h; rfl
  exact hinjective.list_map hsame

theorem files_distinct : w.files.Pairwise fun p q => p.same q = false := by
  have hplaces : places.Pairwise (· ≠ ·) := by decide
  rw [files_eq, List.pairwise_map]
  refine hplaces.imp_of_mem ?_
  intro place other h hother hne
  exact Bool.eq_false_iff.mpr fun hsame => hne (w.eq_of_same_place h hother hsame)

theorem same_manifest (directory : Path) :
    (directory.join ⟨manifestFile⟩).same w.manifest = directory.same w.root := by
  have hname : IsName manifestFile := by decide
  rw [Bool.eq_iff_iff, Path.same_iff, Path.same_iff, manifest,
    Path.components_join_name w.root hname, Path.components_join_name directory hname]
  exact List.append_left_inj _

/-- It is none of the generated files but the manifest. -/
theorem same_file_iff (directory : Path) {file : Path} (hfile : file ∈ w.files) :
    (directory.join ⟨manifestFile⟩).same file = true ↔
      file = w.manifest ∧ directory.same w.root = true := by
  have hlast : (directory.join ⟨manifestFile⟩).components.getLast? =
      some (.normal manifestFile) := by
    rw [Path.components_join_name directory (by decide), List.getLast?_concat]
  have honly : ∀ place ∈ places, (place.map Path.Component.normal).getLast? =
      some (.normal manifestFile) → place = [manifestFile] := by decide
  have hnonempty : ∀ place ∈ places, place.map Path.Component.normal ≠ [] := by decide
  constructor
  · intro hsame
    rw [files_eq, List.mem_map] at hfile
    obtain ⟨place, hplace, rfl⟩ := hfile
    rw [Path.same_iff.mp hsame, w.components_place hplace,
      List.getLast?_append_of_ne_nil _ (hnonempty place hplace)] at hlast
    obtain rfl := honly place hplace hlast
    exact ⟨rfl, (w.same_manifest directory).symm.trans hsame⟩
  · rintro ⟨rfl, hsame⟩
    rw [same_manifest, hsame]

end ElmPrerender.Workspace
