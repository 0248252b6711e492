import ElmPrerender.Proofs.Run.LoadFailures

/-!
# How a run ends

A run is cut at its milestones: the sources left out, the stages entered, the answers of the tools.
Between two of them it can only fail in the ways of the part that lies there.
-/

namespace ElmPrerender.Run

open Move

variable {σ : Type} (c : Collaborators σ) (options : RunOptions) (s : σ)

/-- The ways in which loading can end, by its result and its milestones. -/
inductive Reading (source : RunSource) : Ends (Loaded × Scaffold)
  | unloaded {opened : List Opened} {e : RunError}
      (failure : LoadFailure c options s source opened e) : Reading source (.error e) (skips opened)
  | unpatched {opened : List Opened} {problem : ManifestProblem}
      (survey : Surveyed c options s source opened) :
      Reading source (.error (.missingManifest (manifestPath options) problem))
        (skips opened ++ [.enter .configLoaded])
  | ready {opened : List Opened} {loaded : Loaded} {scaffold : Scaffold}
      (survey : Surveyed c options s source opened) (dropped : loaded.dropped = unusable opened) :
      Reading source (.ok (loaded, scaffold))
        (skips opened ++ [.enter .configLoaded, .enter .manifestPatched])

/-- The ways in which a run can end, by its result and its milestones. -/
inductive Ending (source : RunSource) : Ends RunReport
  | loading {opened : List Opened} {e : RunError}
      (failure : LoadFailure c options s source opened e) : Ending source (.error e) (skips opened)
  | manifest {opened : List Opened} {problem : ManifestProblem}
      (survey : Surveyed c options s source opened) :
      Ending source (.error (.missingManifest (manifestPath options) problem))
        (skips opened ++ [.enter .configLoaded])
  | writing {opened : List Opened} {cause : IoError}
      (survey : Surveyed c options s source opened) :
      Ending source (.error (.io cause))
        (skips opened ++ [.enter .configLoaded, .enter .manifestPatched])
  | compiling {opened : List Opened} {e : ToolchainError}
      (survey : Surveyed c options s source opened) :
      Ending source (.error (.toolchain e))
        (skips opened ++ [.enter .configLoaded, .enter .manifestPatched, .enter .scaffoldWritten,
          .enter .compiling, .call (.build options.workspace (.error e))])
  | running {opened : List Opened} {outcome : BuildOutcome} {e : ToolchainError}
      (survey : Surveyed c options s source opened) :
      Ending source (.error (.toolchain e))
        (skips opened ++ [.enter .configLoaded, .enter .manifestPatched, .enter .scaffoldWritten,
          .enter .compiling, .call (.build options.workspace (.ok outcome)), .enter .running,
          .call (.render options.workspace (.error e))])
  | distributing {opened : List Opened} {outcome : BuildOutcome} {batch : Batch} {cause : IoError}
      (survey : Surveyed c options s source opened) :
      Ending source (.error (.io cause))
        (skips opened ++ [.enter .configLoaded, .enter .manifestPatched, .enter .scaffoldWritten,
          .enter .compiling, .call (.build options.workspace (.ok outcome)), .enter .running,
          .call (.render options.workspace (.ok batch)), .enter .distributing])
  | done {opened : List Opened} {batch : Batch} {report : RunReport}
      (survey : Surveyed c options s source opened) (dropped : report.dropped = unusable opened) :
      Ending source (.ok report)
        (skips opened ++ [.enter .configLoaded, .enter .manifestPatched, .enter .scaffoldWritten,
          .enter .compiling, .call (.build options.workspace (.ok report.build)), .enter .running,
          .call (.render options.workspace (.ok batch)), .enter .distributing, .enter .done])

variable {c options s} {s' : σ} {source : RunSource} {stage : Stage} {moves : List Move}

theorem LoadedAll.reading {r : Except RunError (Loaded × Scaffold)}
    (h : LoadedAll options source r moves) (follows : Follows c.unwatched stage moves s s') :
    Reading c options s source r (milestones moves) := by
  cases h with
  | unknown known =>
    obtain ⟨hquiet, ⟨_, hok, -⟩ | ⟨e, he, failure⟩⟩ := known.known follows
    · cases hok
    · cases he
      rw [hquiet]
      exact .unloaded failure
  | known known loads =>
    obtain ⟨s₁, hknown, hloads⟩ := Follows.append_iff.mp follows
    obtain ⟨hquiet, ⟨pending, hok, found⟩ | ⟨_, herror, -⟩⟩ := known.known hknown
    swap
    · cases herror
    cases hok
    rw [milestones_append, hquiet, List.nil_append]
    cases loads with
    | unadded added =>
      obtain ⟨opened, hskips, ⟨_, hok, -⟩ | ⟨e, he, failure⟩⟩ := AllAdded.surveyed added found hloads
      · cases hok
      · cases he
        rw [hskips]
        exact .unloaded failure
    | unpatched added refused =>
      obtain ⟨s₂, hadded, -⟩ := Follows.append_iff.mp hloads
      obtain ⟨opened, hskips, ⟨loaded, -, survey, -⟩ | ⟨_, herror, -⟩⟩ :=
        AllAdded.surveyed added found hadded
      · obtain ⟨problem, rfl⟩ := missingManifest_of_manifestRead options refused
        rw [milestones_append, hskips]
        exact .unpatched survey
      · cases herror
    | loaded added accepted =>
      obtain ⟨s₂, hadded, -⟩ := Follows.append_iff.mp hloads
      obtain ⟨opened, hskips, ⟨loaded, hok, survey, dropped⟩ | ⟨_, herror, -⟩⟩ :=
        AllAdded.surveyed added found hadded
      · cases hok
        rw [milestones_append, hskips]
        exact .ready survey dropped
      · cases herror

theorem Generated.milestones_of_ok {scaffold : Scaffold} {outcome : BuildOutcome}
    (h : Generated options scaffold (.ok outcome) moves) :
    milestones moves = [.enter .scaffoldWritten, .enter .compiling,
      .call (.build options.workspace (.ok outcome)), .enter .running] := by
  cases h with
  | compiled scaffolded => simp [(scaffolded.passing options).1, isMilestone]

theorem Executed.ending {r : Except RunError RunReport}
    (h : Executed options (LoadedAll options source) (Generated options) r moves)
    (follows : Follows c.unwatched stage moves s s') :
    Ending c options s source r (milestones moves) := by
  cases h with
  | unloaded loads =>
    have reading := loads.reading follows
    generalize milestones moves = begun at reading ⊢
    cases reading with
    | unloaded failure => exact .loading failure
    | unpatched survey => exact .manifest survey
  | @failed _ _ _ first _ loads worked =>
    obtain ⟨s₁, hfirst, -⟩ := Follows.append_iff.mp follows
    have reading := loads.reading hfirst
    rw [milestones_append]
    generalize milestones first = begun at reading ⊢
    cases reading with
    | ready survey dropped =>
      cases worked with
      | ungenerated generated =>
        cases generated with
        | unwritten scaffolded =>
          obtain ⟨hquiet, hio⟩ := scaffolded.passing
          obtain ⟨cause, rfl⟩ := hio _ rfl
          rw [hquiet, List.append_nil]
          exact .writing survey
        | uncompiled scaffolded e =>
          simpa [(scaffolded.passing options).1, isMilestone] using Ending.compiling survey
      | unrendered generated e =>
        simpa [generated.milestones_of_ok, isMilestone] using Ending.running survey
      | undelivered generated distributed =>
        obtain ⟨hquiet, hio⟩ := distributed.passing
        obtain ⟨cause, rfl⟩ := hio _ rfl
        simpa [generated.milestones_of_ok, hquiet, isMilestone] using Ending.distributing survey
  | @done _ _ _ _ first _ loads worked =>
    obtain ⟨s₁, hfirst, -⟩ := Follows.append_iff.mp follows
    have reading := loads.reading hfirst
    rw [milestones_append]
    generalize milestones first = begun at reading ⊢
    cases reading with
    | ready survey dropped =>
      cases worked with
      | delivered generated distributed =>
        simpa [generated.milestones_of_ok, (distributed.passing options).1, isMilestone]
          using Ending.done survey dropped

end ElmPrerender.Run
