import ElmPrerender.Proofs.Run.Loading

/-!
# The files that a run reads

Loading reads the list of pages, each source in it, whether it is there or not, and the manifest.
Two stores that have the same texts under these paths are loaded in the same way.
-/

namespace ElmPrerender.Run

/-- The path of the list of pages, if there is one. -/
def listPaths (options : RunOptions) : RunSource → List Path
  | .file _ _ => []
  | .configFile path => [options.invocation.join path]

/-- The paths of the sources that are pending, if it comes to that. -/
def sourcePaths (options : RunOptions) (store : Store) (source : RunSource) : List Path :=
  match pendingIn options store source with
  | .ok pending => pending.map fun s => options.invocation.join s.source
  | .error _ => []

/-- All paths that a run reads. -/
def inputPaths (options : RunOptions) (store : Store) (source : RunSource) : List Path :=
  listPaths options source ++ sourcePaths options store source ++ [manifestPath options]

/-- Two stores have the same texts under some paths. -/
def AgreeOn (paths : List Path) (store store' : Store) : Prop :=
  ∀ p ∈ paths, store'.file? p = store.file? p

variable {options : RunOptions} {store store' : Store}

theorem AgreeOn.mono {paths fewer : List Path} (h : AgreeOn paths store store')
    (sub : fewer ⊆ paths) : AgreeOn fewer store store' :=
  fun p hp => h p (sub hp)

theorem AgreeOn.read {paths : List Path} (h : AgreeOn paths store store') {p : Path}
    (hp : p ∈ paths) : store'.read p = store.read p := by
  rw [Store.read, Store.read, h p hp]

theorem pendingIn_congr {source : RunSource} (h : AgreeOn (listPaths options source) store store') :
    pendingIn options store' source = pendingIn options store source := by
  cases source with
  | file source output => rfl
  | configFile path =>
    have hlist : options.invocation.join path ∈ listPaths options (.configFile path) :=
      List.mem_singleton_self _
    rw [pendingIn, pendingIn, h.read hlist]

theorem moduleIn_congr {source : Path} (h : AgreeOn [options.invocation.join source] store store') :
    moduleIn options store' source = moduleIn options store source := by
  rw [moduleIn, moduleIn, h.read (List.mem_singleton_self _)]

theorem addSourcesIn_congr {pending : List SourceTargets}
    (h : AgreeOn (pending.map fun s => options.invocation.join s.source) store store')
    (loaded : Loaded) :
    addSourcesIn options store' loaded pending = addSourcesIn options store loaded pending := by
  induction pending generalizing loaded with
  | nil => rfl
  | cons s rest ih =>
    rw [List.map_cons] at h
    have hmodule : moduleIn options store' s.source = moduleIn options store s.source := by
      apply moduleIn_congr
      exact h.mono (List.cons_subset_cons _ (List.nil_subset _))
    have hrest := ih (h.mono (List.subset_cons_self _ _))
    rw [addSourcesIn, addSourcesIn, addSourceIn, addSourceIn, hmodule]
    simp only [hrest]

theorem loadIn_congr {source : RunSource}
    (h : AgreeOn (inputPaths options store source) store store') :
    loadIn options store' source = loadIn options store source := by
  have hpending : pendingIn options store' source = pendingIn options store source := by
    apply pendingIn_congr
    intro p hp
    exact h p (by simp [inputPaths, hp])
  rw [loadIn, loadIn, hpending]
  cases hfound : pendingIn options store source with
  | error e => rfl
  | ok pending =>
    have hsources : AgreeOn (pending.map fun s => options.invocation.join s.source) store store' := by
      intro p hp
      exact h p (by simp [inputPaths, sourcePaths, hfound, hp])
    simp only [addSourcesIn_congr hsources]

theorem manifestIn_congr (h : AgreeOn [manifestPath options] store store') :
    manifestIn options store' = manifestIn options store := by
  rw [manifestIn, manifestIn, h.read (List.mem_singleton_self _)]

theorem loadAllIn_congr {source : RunSource}
    (h : AgreeOn (inputPaths options store source) store store') (start : Stage) :
    loadAllIn options store' source start = loadAllIn options store source start := by
  have hmanifest : manifestIn options store' = manifestIn options store := by
    apply manifestIn_congr
    intro p hp
    exact h p (by simp [inputPaths, List.mem_singleton.mp hp])
  rw [loadAllIn, loadAllIn, loadIn_congr h, hmanifest]

end ElmPrerender.Run
