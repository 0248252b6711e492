import ElmPrerender.Proofs.Run.Endings
import ElmPrerender.Proofs.Run.Journal
import Mathlib.Data.List.Forall2

/-!
# The stages over many runs

One program may make many runs, each from the stage that the one before has left. In each of them
the log tells the stages in their order, up to the failure if there is one, and the tools are called
in their stages. What else a run does is the same from every stage.
-/

namespace ElmPrerender.Run

open Move

variable {σ : Type}

/-- The tools that are called in the stages that were entered. -/
def toolsIn (entered : List Stage) : List Tool :=
  (if .compiling ∈ entered then [.compiler] else []) ++
    (if .running ∈ entered then [.renderer] else [])

/-- The stages and the tools of a run, as the log and the calls have them. -/
structure Orderly (seen : Seen σ) (entered : List Stage) : Prop where
  order : entered <+: Stage.successful
  target : logged "Stage transition" "to" seen.journal = entered.map Stage.field
  origin : logged "Stage transition" "from" seen.journal =
    (seen.start :: entered).dropLast.map Stage.field
  tools : toolsCalled seen.journal = toolsIn entered
  /-- All stages are entered, or the failure is told at the stage reached, once and at the end. -/
  ending : match seen.result with
    | .ok _ => entered = Stage.successful ∧ seen.stage = .done ∧
        logged "Run aborted" "stage" seen.journal = []
    | .error e => entered ≠ Stage.successful ∧ seen.stage = .aborted ∧
        ∃ before, seen.journal = before ++ [.told (.aborted (reached seen.start entered) e)] ∧
          logged "Run aborted" "stage" before = []

/-- A run as it would be seen if it had begun at another stage. -/
def Seen.beginningAt (start : Stage) (seen : Seen σ) : Seen σ :=
  { seen with start := start, journal := Run.beginningAt start seen.journal }

section One

variable {c : Collaborators σ} {options : RunOptions} {source : RunSource} {s : σ}
  {r : Except RunError RunReport} {moves : List Move}

/-- The route of a run by its milestones: the stages are entered in their order, all of them exactly
when there is a report, and the tools are called in their stages. -/
theorem Ending.route (h : Ending c options s source r moves) :
    entries moves <+: Stage.successful ∧ tools moves = toolsIn (entries moves) ∧
      (entries moves = Stage.successful ↔ r.isOk = true) := by
  cases h with
  | loading failure => simp [toolsIn, Stage.successful, Except.isOk, Except.toBool]
  | manifest survey | writing survey | compiling survey | running survey | distributing survey
    | done survey dropped =>
    rw [entries_append, entries_skips, tools_append, tools_skips]
    simp [entries, tools, toolsIn, Stage.successful, Except.isOk, Except.toBool]

theorem logged_closing (r : Except RunError RunReport) (stage : Stage) (field : String) :
    logged "Stage transition" field (closing r stage) = [] := by
  cases r <;> rfl

theorem toolsCalled_closing (r : Except RunError RunReport) (stage : Stage) :
    toolsCalled (closing r stage) = [] := by
  cases r <;> rfl

theorem beginningAt_closing (r : Except RunError RunReport) (start other : Stage) :
    beginningAt start (closing r other) = closing r start := by
  cases r <;> rfl

/-- A report is only there when the last stage has been entered, whatever the first one was. -/
theorem stageLeft_eq (complete : entries moves = Stage.successful ↔ r.isOk = true)
    (start : Stage) : stageLeft r (stageAfter start moves) = stageLeft r .done := by
  cases r with
  | error e => rfl
  | ok report =>
    rw [stageAfter_eq, complete.mpr rfl]
    rfl

/-- The moves of a run keep to its stages and tools. -/
theorem orderly_of_route {s' : σ} (start : Stage) (order : entries moves <+: Stage.successful)
    (called : tools moves = toolsIn (entries moves))
    (complete : entries moves = Stage.successful ↔ r.isOk = true) :
    Orderly ⟨start, s, r, stageLeft r (stageAfter start moves), s',
      journal start moves ++ closing r (stageAfter start moves)⟩ (entries moves) where
  order := order
  target := by
    rw [logged_append, logged_to, logged_closing, List.append_nil]
  origin := by
    rw [logged_append, logged_from, logged_closing, List.append_nil]
  tools := by
    rw [toolsCalled, List.filterMap_append]
    exact (congrArg₂ _ (toolsCalled_journal start moves) (toolsCalled_closing r _)).trans
      ((List.append_nil _).trans called)
  ending := by
    have hleft := stageLeft_eq complete start
    cases r with
    | ok report =>
      refine ⟨complete.mpr rfl, hleft, ?_⟩
      rw [closing, List.append_nil]
      exact logged_aborted start moves
    | error e =>
      refine ⟨fun hall => ?_, rfl, journal start moves, ?_, logged_aborted start moves⟩
      · cases complete.mp hall
      · rw [closing, stageAfter_eq]

/-- One run, from whatever stage it begins: it keeps to its stages and tools, and but for that first
stage it is the run that begins afresh. -/
theorem watch_orderly (c : Collaborators σ) (options : RunOptions) (source : RunSource)
    (start : Stage) (s : σ) :
    (∃ entered, Orderly (watch c options source start s) entered) ∧
      watch c options source start s = (watch c options source .init s).beginningAt start := by
  obtain ⟨r, moves, s', executed, makes, follows⟩ :=
    execute_leads options source σ c.unwatched start s
  obtain ⟨horder, htools, hcomplete⟩ := (executed.ending follows).route
  rw [entries_milestones] at horder htools hcomplete
  rw [tools_milestones] at htools
  rw [watch_of_makes makes follows start, watch_of_makes makes follows .init]
  refine ⟨⟨entries moves, orderly_of_route start horder htools hcomplete⟩, ?_⟩
  rw [stageLeft_eq hcomplete start, stageLeft_eq hcomplete .init, Seen.beginningAt,
    beginningAt_journal (beginningAt_closing r start _)]

end One

/-- One use of a program: what it is to make, what it works with, and what has happened outside
since the last use. -/
structure Use (σ : Type) where
  source : RunSource
  collaborators : Collaborators σ
  meanwhile : σ → σ

/-- A use that begins afresh, in a state in which another one has begun. -/
def Use.afresh (options : RunOptions) (use : Use σ) (s : σ) : Seen σ :=
  watch use.collaborators options use.source .init s

/-- Uses one after the other, each from the stage that is left. -/
def runAll (options : RunOptions) : List (Use σ) → Stage → σ → List (Seen σ)
  | [], _, _ => []
  | use :: rest, stage, s =>
    let seen := watch use.collaborators options use.source stage (use.meanwhile s)
    seen :: runAll options rest seen.stage seen.left

/-- Any number of runs: each begins at the stage that the one before has left, keeps to its stages
and tools, and is but for that first stage the run that begins afresh in the state that it found. -/
theorem runAll_orderly (options : RunOptions) (uses : List (Use σ)) (start : Stage) (s : σ) :
    (runAll options uses start s).map Seen.start =
        (start :: (runAll options uses start s).map Seen.stage).dropLast ∧
      List.Forall₂ (fun use seen => (∃ entered, Orderly seen entered) ∧
        seen = (use.afresh options seen.found).beginningAt seen.start)
        uses (runAll options uses start s) := by
  -- One run is orderly from any stage, so it does not matter how the run before has ended.
  induction uses generalizing start s with
  | nil => exact ⟨rfl, .nil⟩
  | cons use rest ih =>
    obtain ⟨horder, hfresh⟩ :=
      watch_orderly use.collaborators options use.source start (use.meanwhile s)
    obtain ⟨hstarts, hrest⟩ := ih
      (watch use.collaborators options use.source start (use.meanwhile s)).stage
      (watch use.collaborators options use.source start (use.meanwhile s)).left
    exact ⟨congrArg (start :: ·) hstarts, .cons ⟨horder, hfresh⟩ hrest⟩

/-- Collaborators that find no file. -/
def emptyHanded : Collaborators Unit where
  read path := pure (.error (.missing path))
  write _ _ := pure (.ok ())
  createDirectories _ := pure (.ok ())
  build _ := pure (.ok (.failed 1))
  render _ := pure (.ok [])
  print _ := pure (.ok ())
  flush := pure (.ok ())

/-- Where no stage is entered, a failure is told at the stage that the run before has left. -/
example :
    let use : Use Unit := ⟨.configFile ⟨"pages.json"⟩, emptyHanded, id⟩
    ((runAll ⟨⟨"/site"⟩, ⟨⟨"/scratch"⟩⟩, .standard⟩ [use, use] .init ()).map fun seen =>
      logged "Run aborted" "stage" seen.journal) = [[.quoted "init"], [.quoted "aborted"]] := by
  decide

end ElmPrerender.Run
