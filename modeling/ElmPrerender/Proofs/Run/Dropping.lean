import ElmPrerender.Proofs.ConfigFile.Form
import ElmPrerender.Proofs.Run.Loaded
import ElmPrerender.Proofs.Run.Steady

/-!
# Sources that are left out do not disturb the others

A list of pages is loaded as if the members were not there whose sources are missing or declare no
module: apart from telling of them, a run does the same with and without these members.
-/

namespace ElmPrerender

open Run

namespace ConfigFile

/-- The members that are not left out. -/
def retained (options : RunOptions) (store : Store) (c : ConfigFile) : ConfigFile :=
  ⟨c.files.filter fun m => (moduleIn options store ⟨m.1⟩).toOption.isSome⟩

theorem source_of_sourceOf {m : String × Json.Value} {s : SourceTargets}
    (h : sourceOf m = .ok s) : s.source = ⟨m.1⟩ := by
  rw [← (sourceOf_eq_ok_iff.mp h).1]

/-- Members are looked at one by one. -/
theorem sources_filter {c : ConfigFile} {pending : List SourceTargets}
    (h : c.sources = .ok pending) (keep : Path → Bool) :
    sources ⟨c.files.filter fun m => keep ⟨m.1⟩⟩ =
      .ok (pending.filter fun s => keep s.source) := by
  rw [sources, mapM_eq_ok_iff] at h ⊢
  simp only
  generalize c.files = files at h
  induction files generalizing pending with
  | nil =>
    rw [List.map_nil, eq_comm, List.map_eq_nil_iff] at h
    rw [h]
    rfl
  | cons m rest ih =>
    cases pending with
    | nil => cases h
    | cons s pending =>
      rw [List.map_cons, List.map_cons, List.cons.injEq] at h
      obtain ⟨hm, hrest⟩ := h
      rw [List.filter_cons, List.filter_cons, source_of_sourceOf hm]
      split
      · rw [List.map_cons, List.map_cons, hm, ih hrest]
      · exact ih hrest

end ConfigFile

/-- The source that an act tells to be left out. -/
def Act.skipped? : Act → Option Path
  | .told (.skipped source _) => some source
  | _ => none

theorem Act.Plain.skipped? {a : Act} (h : a.Plain) : a.skipped? = none := by
  cases a with
  | told event =>
    cases event with
    | skipped => cases h
    | _ => rfl
  | _ => rfl

theorem filterMap_withoutDropped {acts : List Act} (h : ∀ a ∈ acts, a.Plain) :
    acts.filterMap Act.withoutDropped = acts := by
  induction acts with
  | nil => rfl
  | cons a rest ih =>
    rw [List.filterMap_cons_some (h a (List.mem_cons_self ..)),
      ih fun b hb => h b (List.mem_cons_of_mem a hb)]

theorem filterMap_skipped?_of_plain {acts : List Act} (h : ∀ a ∈ acts, a.Plain) :
    acts.filterMap Act.skipped? = [] := by
  rw [List.filterMap_eq_nil_iff]
  exact fun a ha => (h a ha).skipped?

namespace Run

variable {options : RunOptions} {store store' : Store}

theorem filterMap_skippedEvents (pending : List SourceTargets) :
    ((skippedEvents options store pending).map Act.told).filterMap Act.withoutDropped = [] := by
  rw [List.filterMap_eq_nil_iff]
  intro a ha
  obtain ⟨event, hevent, rfl⟩ := List.mem_map.mp ha
  obtain ⟨s, -, hs⟩ := List.mem_filterMap.mp hevent
  unfold skippedIn? at hs
  split at hs
  · cases hs
    rfl
  · cases hs

/-- One event for each source that is left out, in their order. -/
theorem skipped?_skippedEvents (pending : List SourceTargets) :
    ((skippedEvents options store pending).map Act.told).filterMap Act.skipped? =
      droppedSources options store pending := by
  induction pending with
  | nil => rfl
  | cons s rest ih =>
    cases hmodule : moduleIn options store s.source with
    | error problem =>
      rw [skippedEvents_cons_of_error hmodule, droppedSources_cons_of_error hmodule, ← ih]
      rfl
    | ok name =>
      rw [skippedEvents_cons_of_ok hmodule, droppedSources_cons_of_ok hmodule, ih]

/-- The sources that declare a module. -/
def retainedSources (options : RunOptions) (store : Store) (pending : List SourceTargets) :
    List SourceTargets :=
  pending.filter fun s => (moduleIn options store s.source).toOption.isSome

/-- The modules of the retained sources are those that were found before. -/
def SameModules (options : RunOptions) (store store' : Store) (pending : List SourceTargets) :
    Prop :=
  ∀ s ∈ pending, ∀ name, moduleIn options store s.source = .ok name →
    moduleIn options store' s.source = .ok name

theorem loaded_retainedSources {pending : List SourceTargets}
    (same : SameModules options store store' pending) :
    retainedSpecs options store' (retainedSources options store pending) =
        retainedSpecs options store pending ∧
      droppedSources options store' (retainedSources options store pending) = [] ∧
      skippedEvents options store' (retainedSources options store pending) = [] := by
  induction pending with
  | nil => exact ⟨rfl, rfl, rfl⟩
  | cons s rest ih =>
    obtain ⟨hspecs, hdropped, hskipped⟩ := ih fun r hr => same r (List.mem_cons_of_mem s hr)
    cases hmodule : moduleIn options store s.source with
    | error problem =>
      have hretained : retainedSources options store (s :: rest) =
          retainedSources options store rest := by
        rw [retainedSources, List.filter_cons_of_neg (by simp [hmodule, Except.toOption])]
        rfl
      rw [hretained, retainedSpecs_cons_of_error hmodule]
      exact ⟨hspecs, hdropped, hskipped⟩
    | ok name =>
      have hretained : retainedSources options store (s :: rest) =
          s :: retainedSources options store rest := by
        rw [retainedSources, List.filter_cons_of_pos (by simp [hmodule, Except.toOption])]
        rfl
      have hmodule' := same s (List.mem_cons_self ..) name hmodule
      rw [hretained, retainedSpecs_cons_of_ok hmodule, retainedSpecs_cons_of_ok hmodule',
        droppedSources_cons_of_ok hmodule', skippedEvents_cons_of_ok hmodule', hspecs]
      exact ⟨rfl, hdropped, hskipped⟩

/-- Loading finds nothing to leave out, and otherwise the same. -/
theorem loadIn_retainedSources {source : RunSource} {pending : List SourceTargets}
    (found : pendingIn options store' source = .ok (retainedSources options store pending))
    (distinct : (retainedSpecs options store pending).Pairwise
      fun p q => p.source.same q.source = false)
    (same : SameModules options store store' pending) :
    loadIn options store' source =
      (.ok ⟨⟨retainedSpecs options store pending⟩, []⟩, [sourceEvent source]) := by
  obtain ⟨hspecs, hdropped, hskipped⟩ := loaded_retainedSources same
  have hload := loadIn_eq found (by rw [hspecs]; exact distinct)
  rw [hspecs, hdropped, hskipped] at hload
  exact hload

end Run

end ElmPrerender
