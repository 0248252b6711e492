import ElmPrerender.Proofs.Run.Collaborators

/-!
# What is read from the journal of a run

The log is read by the words and fields of its records. What a run tells depends on the stage at
which it begins in one place only: the first stage that it leaves, or the failure before that.
-/

namespace ElmPrerender

namespace Noted

/-- The value of a field, if this is a record with a certain message. -/
def field? (message field : String) : Noted → Option Log.FieldValue
  | .told event =>
    if event.record.message = message then
      (event.record.fields.find? (·.1 = field)).map Prod.snd
    else none
  | .compiled _ | .rendered _ => none

def tool? : Noted → Option Tool
  | .told _ => none
  | .compiled _ => some .compiler
  | .rendered _ => some .renderer

end Noted

/-- What the log has in a field of the records with a certain message. -/
def logged (message field : String) (journal : List Noted) : List Log.FieldValue :=
  journal.filterMap (Noted.field? message field)

theorem logged_append (message field : String) (first second : List Noted) :
    logged message field (first ++ second) =
      logged message field first ++ logged message field second :=
  List.filterMap_append

def toolsCalled (journal : List Noted) : List Tool := journal.filterMap Noted.tool?

/-- A stage in a field of the log. -/
def Stage.field (stage : Stage) : Log.FieldValue := .quoted stage.name

/-- Only the stages that are entered and the failure are told in these words. -/
theorem Event.message_of_isRemark {event : Event} (plain : event.isRemark = true) :
    event.record.message ≠ "Stage transition" ∧ event.record.message ≠ "Run aborted" := by
  cases event with
  | transition | aborted => cases plain
  | buildFailed code =>
    have hfirst : ((Event.buildFailed code).record.message).toList.head? = some 'B' := by
      simp [Event.record, Event.ofRun]
    constructor
    · intro h
      rw [h] at hfirst
      exact absurd hfirst (by decide)
    · intro h
      rw [h] at hfirst
      exact absurd hfirst (by decide)
  | loadingFile | usingConfig | skipped | wroteScaffold | saved | finished | exampleWritten
    | executableMissing | compilerOutput | compiled | compilerFailed | applicationError =>
    exact ⟨by simp [Event.record, Event.ofRun, Event.ofTool],
      by simp [Event.record, Event.ofRun, Event.ofTool]⟩

namespace Run

open Move

variable {σ : Type}

/-- The stage reached behind some entries. -/
def reached (start : Stage) (entered : List Stage) : Stage := entered.getLast?.getD start

theorem stageAfter_eq (start : Stage) (moves : List Move) :
    stageAfter start moves = reached start (entries moves) := by
  induction moves generalizing start with
  | nil => rfl
  | cons move rest ih =>
    refine (ih (move.after start)).trans ?_
    cases move with
    | enter next =>
      change reached next (entries rest) = reached start (next :: entries rest)
      rw [reached, reached, List.getLast?_cons, Option.getD_some]
    | remark | call => rfl

theorem field?_remark {message field : String} {event : Event}
    (h : event.record.message ≠ message) : (Noted.told event).field? message field = none :=
  if_neg h

/-- No call is a record of the log. -/
theorem field?_call (message field : String) (stage : Stage) (call : Call) :
    (noted? stage (.call call)).bind (Noted.field? message field) = none := by
  cases call <;> rfl

/-- The stages that the log says are entered. -/
theorem logged_to (start : Stage) (moves : List Move) :
    logged "Stage transition" "to" (journal start moves) = (entries moves).map Stage.field := by
  rw [logged, entries, List.map_filterMap]
  refine filterMap_along ?_ start moves
  intro stage move
  cases move with
  | enter next => rfl
  | remark event plain => exact field?_remark (Event.message_of_isRemark plain).1
  | call call => exact field?_call _ _ stage call

/-- Each stage is entered from the one that was entered before it. -/
theorem logged_from (start : Stage) (moves : List Move) :
    logged "Stage transition" "from" (journal start moves) =
      (start :: entries moves).dropLast.map Stage.field := by
  induction moves generalizing start with
  | nil => rfl
  | cons move rest ih =>
    have hrest := ih (move.after start)
    rw [journal_cons, logged_append, hrest]
    cases move with
    | enter next => rfl
    | remark event plain =>
      rw [logged, noted?, Option.toList_some, List.filterMap_cons_none
        (field?_remark (Event.message_of_isRemark plain).1)]
      rfl
    | call call => cases call <;> rfl

/-- Moves do not abort a run. -/
theorem logged_aborted (start : Stage) (moves : List Move) :
    logged "Run aborted" "stage" (journal start moves) = [] := by
  have hnone : ∀ stage move,
      (noted? stage move).bind (Noted.field? "Run aborted" "stage") = none := by
    intro stage move
    cases move with
    | enter next => rfl
    | remark event plain => exact field?_remark (Event.message_of_isRemark plain).2
    | call call => exact field?_call _ _ stage call
  exact (filterMap_along hnone start moves).trans (List.filterMap_none moves)

theorem toolsCalled_journal (start : Stage) (moves : List Move) :
    toolsCalled (journal start moves) = tools moves := by
  refine filterMap_along ?_ start moves
  intro stage move
  cases move with
  | enter | remark => rfl
  | call call => cases call <;> rfl

/-- A journal as it would be from another stage on: the first stage that is left, or the stage of a
failure before that, is another one. -/
def beginningAt (start : Stage) : List Noted → List Noted
  | [] => []
  | .told (.transition _ next) :: rest => .told (.transition start next) :: rest
  | .told (.aborted _ e) :: rest => .told (.aborted start e) :: rest
  | entry :: rest => entry :: beginningAt start rest

theorem beginningAt_remark {event : Event} (plain : event.isRemark = true) (start : Stage)
    (rest : List Noted) :
    beginningAt start (.told event :: rest) = .told event :: beginningAt start rest := by
  cases event with
  | transition | aborted => cases plain
  | loadingFile | usingConfig | skipped | wroteScaffold | buildFailed | saved | finished
    | exampleWritten | executableMissing | compilerOutput | compiled | compilerFailed
    | applicationError => rfl

/-- The same moves from another stage on, with what is told when they have been made. -/
theorem beginningAt_journal {closing : Stage → List Noted} {start other : Stage}
    (h : beginningAt start (closing other) = closing start) (moves : List Move) :
    beginningAt start (journal other moves ++ closing (stageAfter other moves)) =
      journal start moves ++ closing (stageAfter start moves) := by
  induction moves with
  | nil => exact h
  | cons move rest ih =>
    cases move with
    | enter next => rfl
    | remark event plain => exact (beginningAt_remark plain _ _).trans (congrArg _ ih)
    | call call =>
      cases call with
      | build | render => exact congrArg _ ih
      | read | write | createDirectories | print | flush => exact ih

/-- One run as it is seen: where it began and what it found, its result, and what it left. -/
structure Seen (σ : Type) where
  start : Stage
  found : σ
  result : Except RunError RunReport
  stage : Stage
  left : σ
  journal : List Noted

/-- A run that is watched from its beginning. -/
def watch (c : Collaborators σ) (options : RunOptions) (source : RunSource) (start : Stage)
    (s : σ) : Seen σ :=
  let ((result, stage), w) := run c.host options source start ⟨s, []⟩
  ⟨start, s, result, stage, w.state, w.journal⟩

/-- What is told of a result behind everything else. -/
def closing : Except RunError RunReport → Stage → List Noted
  | .ok _, _ => []
  | .error e, stage => [.told (.aborted stage e)]

/-- The stage that is left with a result. -/
def stageLeft : Except RunError RunReport → Stage → Stage
  | .ok _, stage => stage
  | .error _, _ => .aborted

/-- A run from any stage on, by the moves that it makes. -/
theorem watch_of_makes {c : Collaborators σ} {options : RunOptions} {source : RunSource}
    {s s' : σ} {r : Except RunError RunReport} {moves : List Move} {stage : Stage}
    (makes : Makes (fun _ host => execute host options source) r moves)
    (follows : Follows c.unwatched stage moves s s') (start : Stage) :
    watch c options source start s = ⟨start, s, r, stageLeft r (stageAfter start moves), s',
      journal start moves ++ closing r (stageAfter start moves)⟩ := by
  rw [watch, run_apply, Collaborators.watched_of_makes makes follows start [], List.nil_append]
  cases r with
  | ok report =>
    rw [closing, List.append_nil]
    rfl
  | error e => rfl

end Run

end ElmPrerender
