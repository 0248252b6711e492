import ElmPrerender.Proofs.Run.Moves

/-!
# Runs with arbitrary collaborators

Files, tools and standard output may behave in any way, and remember what they like in a state of
their own. From outside a run is watched: a journal keeps what it tells and how the tools answer. To
the collaborators it makes no difference what is kept, so their answers depend neither on the stage
nor on the journal.
-/

namespace ElmPrerender

open Move

/-- Everything that a run depends on, apart from the log. -/
structure Collaborators (σ : Type) where
  read : Path → StateM σ (Except IoError String)
  write : Path → String → StateM σ (Except IoError Unit)
  createDirectories : Path → StateM σ (Except IoError Unit)
  build : Workspace → StateM σ (Except ToolchainError BuildOutcome)
  render : Workspace → StateM σ (Except ToolchainError Batch)
  print : String → StateM σ (Except IoError Unit)
  flush : StateM σ (Except IoError Unit)

/-- What is seen of a run: an event that it tells, or a call of a tool with its answer. -/
inductive Noted where
  | told (event : Event)
  | compiled (answer : Except ToolchainError BuildOutcome)
  | rendered (answer : Except ToolchainError Batch)

structure Watched (σ : Type) where
  state : σ
  journal : List Noted

namespace Watched

variable {σ α : Type}

/-- An action of which nothing is seen. -/
def unseen (action : StateM σ α) : StateM (Watched σ) α := fun w =>
  ((action w.state).1, ⟨(action w.state).2, w.journal⟩)

def note (entry : Noted) : StateM (Watched σ) Unit := fun w =>
  ((), ⟨w.state, w.journal ++ [entry]⟩)

/-- An action whose answer is seen. -/
def seen (entry : α → Noted) (action : StateM σ α) : StateM (Watched σ) α := do
  let answer ← unseen action
  note (entry answer)
  pure answer

section Answers

variable {action : StateM σ α} {s s' : σ} {a : α}

theorem unseen_of_eq (h : action s = (a, s')) (journal : List Noted) :
    unseen action ⟨s, journal⟩ = (a, ⟨s', journal⟩) := by
  rw [unseen, h]

theorem seen_of_eq (entry : α → Noted) (h : action s = (a, s')) (journal : List Noted) :
    seen entry action ⟨s, journal⟩ = (a, ⟨s', journal ++ [entry a]⟩) := by
  simp only [seen, bind, StateT.bind, unseen_of_eq h]
  rfl

end Answers

end Watched

/-- The surroundings of a run that is watched. -/
def Collaborators.host {σ : Type} (c : Collaborators σ) : RunHost (StateM (Watched σ)) where
  read path := Watched.unseen (c.read path)
  write path text := Watched.unseen (c.write path text)
  createDirectories path := Watched.unseen (c.createDirectories path)
  build w := Watched.seen .compiled (c.build w)
  render w := Watched.seen .rendered (c.render w)
  print text := Watched.unseen (c.print text)
  flush := Watched.unseen c.flush
  log event := Watched.note (.told event)

/-- The same surroundings when nobody watches. -/
def Collaborators.unwatched {σ : Type} (c : Collaborators σ) : RunHost (StateM σ) where
  read := c.read
  write := c.write
  createDirectories := c.createDirectories
  build := c.build
  render := c.render
  print := c.print
  flush := c.flush
  log _ := pure ()

namespace Move

/-- What is seen of a move that is made at a stage. -/
def noted? (stage : Stage) : Move → Option Noted
  | .enter next => some (.told (.transition stage next))
  | .remark event _ => some (.told event)
  | .call (.build _ answer) => some (.compiled answer)
  | .call (.render _ answer) => some (.rendered answer)
  | .call _ => none

/-- What is seen of moves from a stage on. -/
def journal (stage : Stage) (moves : List Move) : List Noted := along noted? stage moves

@[simp]
theorem journal_nil (stage : Stage) : journal stage [] = [] := rfl

@[simp]
theorem journal_cons (stage : Stage) (move : Move) (rest : List Move) :
    journal stage (move :: rest) =
      (noted? stage move).toList ++ journal (move.after stage) rest := rfl

@[simp]
theorem journal_append (stage : Stage) (first second : List Move) :
    journal stage (first ++ second) =
      journal stage first ++ journal (stageAfter stage first) second :=
  along_append noted? stage first second

end Move

namespace Collaborators

variable {σ : Type} {c : Collaborators σ} {s s' : σ}

@[simp]
theorem allows_unwatched_remark {stage : Stage} {event : Event} {plain : event.isRemark = true} :
    c.unwatched.Allows stage s (.remark event plain) s' ↔ s' = s :=
  ⟨fun h => (congrArg Prod.snd h).symm, fun h => h ▸ rfl⟩

@[simp]
theorem allows_unwatched_read {stage : Stage} {path : Path} {answer : Except IoError String} :
    c.unwatched.Allows stage s (.call (.read path answer)) s' ↔ c.read path s = (answer, s') :=
  Iff.rfl

/-- A move is seen, whatever the stage and what was seen before. -/
theorem allows_host {stage : Stage} {move : Move} (h : c.unwatched.Allows stage s move s')
    (other : Stage) (seen : List Noted) :
    c.host.Allows other ⟨s, seen⟩ move ⟨s', seen ++ (noted? other move).toList⟩ := by
  cases move with
  | enter | remark =>
    obtain rfl : s = s' := congrArg Prod.snd h
    rfl
  | call call =>
    cases call with
    | build w answer => exact Watched.seen_of_eq .compiled h seen
    | render w answer => exact Watched.seen_of_eq .rendered h seen
    | read | write | createDirectories | print | flush =>
      simp only [noted?, Option.toList_none, List.append_nil]
      exact Watched.unseen_of_eq h seen

/-- So are moves one after the other. -/
theorem follows_host {stage : Stage} {moves : List Move}
    (h : Follows c.unwatched stage moves s s') (other : Stage) (seen : List Noted) :
    Follows c.host other moves ⟨s, seen⟩ ⟨s', seen ++ journal other moves⟩ := by
  induction h generalizing other seen with
  | nil =>
    rw [journal_nil, List.append_nil]
    exact .nil
  | @cons _ move _ _ _ _ first _ ih =>
    have hothers := ih (move.after other) (seen ++ (noted? other move).toList)
    rw [List.append_assoc] at hothers
    exact .cons (allows_host first other seen) hothers

/-- A part of a run that nobody watches makes the same moves when it is watched. -/
theorem watched_of_makes {α : Type} {x : Run.Part α} {r : Except RunError α} {stage : Stage}
    {moves : List Move} (makes : Run.Makes x r moves) (h : Follows c.unwatched stage moves s s')
    (other : Stage) (seen : List Noted) :
    x (Watched σ) c.host other ⟨s, seen⟩ =
      ((r, stageAfter other moves), ⟨s', seen ++ journal other moves⟩) :=
  makes (follows_host h other seen)

end Collaborators

end ElmPrerender
