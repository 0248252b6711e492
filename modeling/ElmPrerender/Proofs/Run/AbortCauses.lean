import ElmPrerender.Proofs.Run.Endings
import ElmPrerender.Proofs.Run.Journal

/-!
# What a run can fail over

The stage that a run has reached when it fails leaves few causes. A source without a usable module
is no cause: it is skipped and told, whatever happens later.
-/

namespace ElmPrerender.Run

open Move

variable {σ : Type} (c : Collaborators σ) (options : RunOptions) (s : σ)

/-- The sources that the log says are skipped. -/
def skipped (journal : List Noted) : List (Path × SourceProblem) :=
  journal.filterMap fun
    | .told (.skipped source problem) => some (source, problem)
    | _ => none

/-- The calls of the tools with their answers. -/
def calls (journal : List Noted) : List Noted :=
  journal.filterMap fun
    | .told _ => none
    | entry => some entry

theorem skipped_append (first second : List Noted) :
    skipped (first ++ second) = skipped first ++ skipped second :=
  List.filterMap_append

theorem calls_append (first second : List Noted) :
    calls (first ++ second) = calls first ++ calls second :=
  List.filterMap_append

def skippedBy (moves : List Move) : List (Path × SourceProblem) :=
  moves.filterMap fun
    | .remark (.skipped source problem) _ => some (source, problem)
    | _ => none

def callsBy (moves : List Move) : List Noted :=
  moves.filterMap fun
    | .call (.build _ answer) => some (.compiled answer)
    | .call (.render _ answer) => some (.rendered answer)
    | _ => none

theorem skipped_journal (start : Stage) (moves : List Move) :
    skipped (journal start moves) = skippedBy (milestones moves) := by
  rw [skippedBy, filterMap_milestones]
  · refine filterMap_along ?_ start moves
    intro stage move
    cases move with
    | enter next => rfl
    | remark event plain => cases event <;> rfl
    | call call => cases call <;> rfl
  · intro move passing
    cases move with
    | remark event plain =>
      cases event with
      | skipped => cases passing
      | _ => rfl
    | _ => rfl

theorem calls_journal (start : Stage) (moves : List Move) :
    calls (journal start moves) = callsBy (milestones moves) := by
  rw [callsBy, filterMap_milestones]
  · refine filterMap_along ?_ start moves
    intro stage move
    cases move with
    | enter | remark => rfl
    | call call => cases call <;> rfl
  · intro move passing
    cases move with
    | enter | remark => rfl
    | call call =>
      cases call with
      | build | render => cases passing
      | _ => rfl

@[simp]
theorem skippedBy_skips (opened : List Opened) : skippedBy (skips opened) = problems opened :=
  List.filterMap_map.trans List.filterMap_some

@[simp]
theorem callsBy_skips (opened : List Opened) : callsBy (skips opened) = [] := by
  simp [skips, callsBy]

/-- Why a run can fail at a stage, with the sources opened before and the answers of the tools. -/
inductive AbortCause (source : RunSource) :
    List Opened → List Noted → Stage → RunError → Prop
  | loading {opened : List Opened} {e : RunError}
      (failure : LoadFailure c options s source opened e) : AbortCause source opened [] .init e
  | manifest {opened : List Opened} {problem : ManifestProblem}
      (survey : Surveyed c options s source opened) :
      AbortCause source opened [] .configLoaded
        (.missingManifest (options.invocation.join ⟨"elm-package.json"⟩) problem)
  | writing {opened : List Opened} {cause : IoError}
      (survey : Surveyed c options s source opened) :
      AbortCause source opened [] .manifestPatched (.io cause)
  | compiling {opened : List Opened} {e : ToolchainError}
      (survey : Surveyed c options s source opened) :
      AbortCause source opened [.compiled (.error e)] .compiling (.toolchain e)
  | running {opened : List Opened} {outcome : BuildOutcome} {e : ToolchainError}
      (survey : Surveyed c options s source opened) :
      AbortCause source opened [.compiled (.ok outcome), .rendered (.error e)] .running
        (.toolchain e)
  | distributing {opened : List Opened} {outcome : BuildOutcome} {batch : Batch} {cause : IoError}
      (survey : Surveyed c options s source opened) :
      AbortCause source opened [.compiled (.ok outcome), .rendered (.ok batch)] .distributing
        (.io cause)

variable {c options s}

/-- A missing file name and the settings are no matter of a run, a manifest that was read can be
printed again, and of the domain only a source that is configured twice is a cause. -/
theorem AbortCause.possible {source : RunSource} {opened : List Opened} {called : List Noted}
    {stage : Stage} {e : RunError} (h : AbortCause c options s source opened called stage e) :
    e ≠ .missingFilename ∧ (∀ cause, e ≠ .settings cause) ∧ (∀ cause, e ≠ .unexpected cause) ∧
      ∀ cause, e = .domain cause → ∃ path, cause = .configuredTwice path := by
  cases h with
  | loading failure => cases failure <;> simp
  | manifest | writing | compiling | running | distributing => simp

theorem skippedBy_of_skips (opened : List Opened) {rest : List Move}
    (passing : skippedBy rest = []) :
    skippedBy (skips opened ++ rest) = problems opened := by
  rw [skippedBy, List.filterMap_append, ← skippedBy, skippedBy_skips, ← skippedBy, passing,
    List.append_nil]

/-- A cause is seen behind the sources that are skipped. -/
theorem cause_of_skips {source : RunSource} {opened : List Opened} {rest : List Move} {e : RunError}
    (passing : skippedBy rest = [])
    (cause : AbortCause c options s source opened (callsBy rest) (reached .init (entries rest)) e) :
    ∃ opened', skippedBy (skips opened ++ rest) = problems opened' ∧
      AbortCause c options s source opened' (callsBy (skips opened ++ rest))
        (reached .init (entries (skips opened ++ rest))) e := by
  refine ⟨opened, skippedBy_of_skips opened passing, ?_⟩
  rw [callsBy, List.filterMap_append, ← callsBy, callsBy_skips, List.nil_append, entries_append,
    entries_skips, List.nil_append]
  exact cause

theorem Ending.of_ok {source : RunSource} {r : Except RunError RunReport} {moves : List Move}
    (h : Ending c options s source r moves) {report : RunReport} (hr : r = .ok report) :
    ∃ opened, skippedBy moves = problems opened ∧ Surveyed c options s source opened ∧
      report.dropped = unusable opened := by
  cases h with
  | done survey dropped =>
    cases hr
    exact ⟨_, skippedBy_of_skips _ rfl, survey, dropped⟩
  | loading | manifest | writing | compiling | running | distributing => cases hr

/-- The stage reached at a failure leaves only its causes. -/
theorem Ending.of_error {source : RunSource} {r : Except RunError RunReport} {moves : List Move}
    (h : Ending c options s source r moves) {e : RunError} (hr : r = .error e) :
    ∃ opened, skippedBy moves = problems opened ∧
      AbortCause c options s source opened (callsBy moves) (reached .init (entries moves)) e := by
  cases h with
  | loading failure =>
    cases hr
    have hnone : skippedBy [] = [] := rfl
    have hcause := cause_of_skips hnone (.loading failure)
    rwa [List.append_nil] at hcause
  | manifest survey =>
    cases hr
    exact cause_of_skips rfl (.manifest survey)
  | writing survey =>
    cases hr
    exact cause_of_skips rfl (.writing survey)
  | compiling survey =>
    cases hr
    exact cause_of_skips rfl (.compiling survey)
  | running survey =>
    cases hr
    exact cause_of_skips rfl (.running survey)
  | distributing survey =>
    cases hr
    exact cause_of_skips rfl (.distributing survey)
  | done => cases hr

variable (c options s)

/-- A run that begins afresh tells which sources it skips. It reports them, or it fails at a stage
over a cause that belongs there; some errors are never the cause. -/
theorem watch_abort_causes (source : RunSource) :
    ∃ opened, skipped (watch c options source .init s).journal = problems opened ∧
      match (watch c options source .init s).result with
      | .ok report => Surveyed c options s source opened ∧ report.dropped = unusable opened
      | .error e => ∃ before stage,
          (watch c options source .init s).journal = before ++ [.told (.aborted stage e)] ∧
          AbortCause c options s source opened (calls (watch c options source .init s).journal)
            stage e ∧
          e ≠ .missingFilename ∧ (∀ cause, e ≠ .settings cause) ∧ (∀ cause, e ≠ .unexpected cause) ∧
          ∀ cause, e = .domain cause → ∃ path, cause = .configuredTwice path := by
  obtain ⟨r, moves, s', executed, makes, follows⟩ :=
    execute_leads options source σ c.unwatched .init s
  have hends := executed.ending follows
  rw [watch_of_makes makes follows .init]
  cases r with
  | ok report =>
    obtain ⟨opened, hskipped, survey, hdropped⟩ := hends.of_ok rfl
    refine ⟨opened, ?_, survey, hdropped⟩
    rw [closing, List.append_nil, skipped_journal, hskipped]
  | error e =>
    obtain ⟨opened, hskipped, hcause⟩ := hends.of_error rfl
    rw [entries_milestones, ← stageAfter_eq] at hcause
    refine ⟨opened, ?_, journal .init moves, stageAfter .init moves, rfl, ?_, hcause.possible⟩
    · rw [closing, skipped_append, skipped_journal, hskipped]
      exact List.append_nil _
    · rw [closing, calls_append, calls_journal]
      exact (List.append_nil _).symm ▸ hcause

end ElmPrerender.Run
