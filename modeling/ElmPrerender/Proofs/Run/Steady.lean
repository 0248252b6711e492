import ElmPrerender.Proofs.Run.AbortSafety
import ElmPrerender.Proofs.Run.Acts

/-!
# A run from the first write on does the same whatever a hidden file holds

From its first write on a run reads no file, and it calls the tools only once all generated files
have been written, so the tools may look at those.
-/

namespace ElmPrerender.Run

open Move

variable {options : RunOptions} {moves : List Move} {scaffold : Scaffold}

theorem ScaffoldWritten.overlooked {r : Except RunError Unit}
    (h : ScaffoldWritten options scaffold r moves) (written : List Path) :
    Throughout writes (Overlooked options) written moves := by
  refine throughout_of_forall ?_
  cases h with
  | unmade e => simp [Overlooked]
  | unwritten e part =>
    simp only [List.forall_mem_cons, List.forall_mem_append, List.forall_mem_map]
    simp [Overlooked]
  | written =>
    simp only [List.forall_mem_cons, List.forall_mem_append, List.forall_mem_map]
    simp [Overlooked, Act.Plain, Act.withoutDropped]

theorem ScaffoldWritten.writes_of_ok (h : ScaffoldWritten options scaffold (.ok ()) moves) :
    options.workspace.files ⊆ moves.flatMap writes := by
  cases h with
  | written =>
    rw [← Scaffold.map_fst_files scaffold]
    intro path hpath
    obtain ⟨file, hfile, rfl⟩ := List.mem_map.mp hpath
    have hwrote : wrote file ∈ (scaffold.files options.workspace).map wrote :=
      List.mem_map_of_mem hfile
    exact List.mem_flatMap.mpr ⟨wrote file, by simp [hwrote], List.mem_singleton_self _⟩

theorem Generated.overlooked {r : Except RunError BuildOutcome}
    (h : Generated options scaffold r moves) : Throughout writes (Overlooked options) [] moves := by
  cases h with
  | unwritten scaffolded => exact scaffolded.overlooked []
  | uncompiled scaffolded e =>
    simp [scaffolded.overlooked, Overlooked, writes, scaffolded.writes_of_ok]
  | compiled scaffolded outcome =>
    cases outcome <;>
      simp [scaffolded.overlooked, Overlooked, writes, scaffolded.writes_of_ok, buildRemarks,
        Act.Plain, Act.withoutDropped]

theorem Generated.writes_of_ok {outcome : BuildOutcome}
    (h : Generated options scaffold (.ok outcome) moves) :
    options.workspace.files ⊆ moves.flatMap writes := by
  cases h with
  | compiled scaffolded =>
    rw [List.flatMap_append]
    exact List.subset_append_of_subset_left _ scaffolded.writes_of_ok

theorem Handed.overlooked {done : Delivered} {page : RenderedPage} {r : Except RunError Delivered}
    (h : Handed options done page r moves) (written : List Path) :
    Throughout writes (Overlooked options) written moves := by
  refine throughout_of_forall ?_
  cases h with
  | unprinted | printed | unenclosed => simp [Overlooked]
  | unwritten | saved =>
    rw [enclosing]
    simp only [List.forall_mem_cons, List.forall_mem_append, List.forall_mem_map]
    simp [Overlooked, Act.Plain, Act.withoutDropped]

theorem Distributed.overlooked {batch : Batch} {r : Except RunError Delivered}
    (h : Distributed options batch r moves) (written : List Path) :
    Throughout writes (Overlooked options) written moves := by
  cases h with
  | failed handed => exact handed.throughout Handed.overlooked written
  | unflushed handed | flushed handed =>
    simp [handed.throughout Handed.overlooked written, Overlooked]

theorem Worked.overlooked {r : Except RunError (BuildOutcome × Delivered)}
    (h : Worked options (Generated options scaffold) r moves) :
    Throughout writes (Overlooked options) [] moves := by
  cases h with
  | ungenerated generated => exact generated.overlooked
  | unrendered generated e => simp [generated.overlooked, Overlooked, generated.writes_of_ok]
  | undelivered generated distributed | delivered generated distributed =>
    simp [generated.overlooked, Overlooked, generated.writes_of_ok, distributed.overlooked]

end ElmPrerender.Run
