import ElmPrerender.Proofs.Run.Steps
import Mathlib.Data.List.Basic

/-!
# What a part of a run can do

A part of a run enters stages, tells events and asks its surroundings for something, one move after
the other; the answers decide how it goes on. Surroundings that give the same answers see the same
moves and the same end, whatever they are and whatever the stage.
-/

namespace ElmPrerender

/-- Something that is asked of the surroundings, with their answer. -/
inductive Call where
  | read (path : Path) (answer : Except IoError String)
  | write (path : Path) (text : String) (answer : Except IoError Unit)
  | createDirectories (path : Path) (answer : Except IoError Unit)
  | build (w : Workspace) (answer : Except ToolchainError BuildOutcome)
  | render (w : Workspace) (answer : Except ToolchainError Batch)
  | print (text : String) (answer : Except IoError Unit)
  | flush (answer : Except IoError Unit)

/-- Whether an event neither enters a stage nor aborts a run. -/
abbrev Event.isRemark : Event → Bool
  | .transition _ _ | .aborted _ _ => false
  | _ => true

/-- One move, leaving open from which stage another one is entered. -/
inductive Move where
  | enter (next : Stage)
  | remark (event : Event) (plain : event.isRemark = true)
  | call (call : Call)

namespace RunHost

variable {σ : Type} (host : RunHost (StateM σ))

/-- The surroundings give the answer of a call, and are left in another state. -/
def Answers (s : σ) : Call → σ → Prop
  | .read path answer, s' => host.read path s = (answer, s')
  | .write path text answer, s' => host.write path text s = (answer, s')
  | .createDirectories path answer, s' => host.createDirectories path s = (answer, s')
  | .build w answer, s' => host.build w s = (answer, s')
  | .render w answer, s' => host.render w s = (answer, s')
  | .print text answer, s' => host.print text s = (answer, s')
  | .flush answer, s' => host.flush s = (answer, s')

/-- A move can be made at a stage. -/
def Allows (stage : Stage) (s : σ) : Move → σ → Prop
  | .enter next, s' => host.log (.transition stage next) s = ((), s')
  | .remark event _, s' => host.log event s = ((), s')
  | .call call, s' => host.Answers s call s'

end RunHost

namespace Move

variable {α β : Type}

@[simp]
def after (stage : Stage) : Move → Stage
  | .enter next => next
  | .remark _ _ | .call _ => stage

def stageAfter (stage : Stage) (moves : List Move) : Stage := moves.foldl after stage

@[simp]
theorem stageAfter_nil (stage : Stage) : stageAfter stage [] = stage := rfl

@[simp]
theorem stageAfter_cons (stage : Stage) (move : Move) (rest : List Move) :
    stageAfter stage (move :: rest) = stageAfter (move.after stage) rest := rfl

@[simp]
theorem stageAfter_append (stage : Stage) (first second : List Move) :
    stageAfter stage (first ++ second) = stageAfter (stageAfter stage first) second :=
  List.foldl_append

/-- What moves show that are made from a stage on. -/
def along (shown : Stage → Move → Option α) : Stage → List Move → List α
  | _, [] => []
  | stage, move :: rest => (shown stage move).toList ++ along shown (move.after stage) rest

@[simp]
theorem along_append (shown : Stage → Move → Option α) (stage : Stage) (first second : List Move) :
    along shown stage (first ++ second) =
      along shown stage first ++ along shown (stageAfter stage first) second := by
  induction first generalizing stage with
  | nil => rfl
  | cons move rest ih =>
    rw [List.cons_append, along, along, ih, List.append_assoc, stageAfter_cons]

/-- What does not depend on the stage can be told from the moves. -/
theorem filterMap_along {shown : Stage → Move → Option α} {ofShown : α → Option β}
    {ofMove : Move → Option β} (h : ∀ stage move, (shown stage move).bind ofShown = ofMove move)
    (stage : Stage) (moves : List Move) :
    (along shown stage moves).filterMap ofShown = moves.filterMap ofMove := by
  induction moves generalizing stage with
  | nil => rfl
  | cons move rest ih =>
    rw [along, List.filterMap_append, ih, List.filterMap_cons, ← h stage move]
    cases shown stage move with
    | none => rfl
    | some a => cases hshown : ofShown a <;> simp [hshown]

/-- The event that a move tells. -/
def told? (stage : Stage) : Move → Option Event
  | .enter next => some (.transition stage next)
  | .remark event _ => some event
  | .call _ => none

/-- What moves tell from a stage on. -/
def told (stage : Stage) (moves : List Move) : List Event := along told? stage moves

@[simp]
theorem told_append (stage : Stage) (first second : List Move) :
    told stage (first ++ second) = told stage first ++ told (stageAfter stage first) second :=
  along_append told? stage first second

/-- The stages that are entered. -/
def entries (moves : List Move) : List Stage :=
  moves.filterMap fun
    | .enter next => some next
    | .remark _ _ | .call _ => none

/-- The tools that are called. -/
def tools (moves : List Move) : List Tool :=
  moves.filterMap fun
    | .call (.build _ _) => some .compiler
    | .call (.render _ _) => some .renderer
    | _ => none

@[simp]
theorem entries_append (first second : List Move) :
    entries (first ++ second) = entries first ++ entries second :=
  List.filterMap_append

@[simp]
theorem tools_append (first second : List Move) :
    tools (first ++ second) = tools first ++ tools second :=
  List.filterMap_append

/-- Moves that are more than a remark in passing or a matter of files and standard output; that a
source is left out is more. -/
def isMilestone : Move → Bool
  | .enter _ | .remark (.skipped _ _) _ | .call (.build _ _) | .call (.render _ _) => true
  | .remark _ _ | .call _ => false

def milestones (moves : List Move) : List Move := moves.filter isMilestone

@[simp]
theorem milestones_nil : milestones [] = [] := rfl

@[simp]
theorem milestones_cons (move : Move) (rest : List Move) :
    milestones (move :: rest) =
      if isMilestone move then move :: milestones rest else milestones rest :=
  List.filter_cons

@[simp]
theorem milestones_append (first second : List Move) :
    milestones (first ++ second) = milestones first ++ milestones second :=
  List.filter_append ..

theorem milestones_eq_nil_iff {moves : List Move} :
    milestones moves = [] ↔ ∀ move ∈ moves, isMilestone move = false := by
  simp [milestones, List.filter_eq_nil_iff]

/-- What is no matter of other moves can be told from the milestones. -/
theorem filterMap_milestones {ofMove : Move → Option α}
    (h : ∀ move, isMilestone move = false → ofMove move = none) (moves : List Move) :
    (milestones moves).filterMap ofMove = moves.filterMap ofMove := by
  rw [milestones, List.filterMap_filter]
  refine List.filterMap_congr ?_
  intro move _
  cases hmove : isMilestone move with
  | true => exact if_pos rfl
  | false => exact (h move hmove).symm

theorem entries_milestones (moves : List Move) : entries (milestones moves) = entries moves := by
  refine filterMap_milestones ?_ moves
  intro move passing
  cases move with
  | enter next => cases passing
  | remark | call => rfl

theorem tools_milestones (moves : List Move) : tools (milestones moves) = tools moves := by
  refine filterMap_milestones ?_ moves
  intro move passing
  cases move with
  | enter | remark => rfl
  | call call =>
    cases call with
    | build | render => cases passing
    | _ => rfl

theorem entries_of_passing {moves : List Move} (h : milestones moves = []) : entries moves = [] := by
  rw [← entries_milestones, h]
  rfl

/-- Only entering another stage leaves the stage. -/
theorem stageAfter_of_entries {moves : List Move} (h : entries moves = []) (stage : Stage) :
    stageAfter stage moves = stage := by
  induction moves with
  | nil => rfl
  | cons move rest ih =>
    cases move with
    | enter next => cases h
    | remark | call => exact ih h

@[simp]
theorem entered_told (stage : Stage) (moves : List Move) :
    entered (told stage moves) = entries moves := by
  refine filterMap_along ?_ stage moves
  intro stage move
  cases move with
  | enter next => rfl
  | remark event plain =>
    cases event with
    | transition | aborted => cases plain
    | _ => rfl
  | call call => rfl

section Throughout

variable {gather : Move → List α} {fits : List α → Move → Prop}

/-- Each move fits behind the moves before it, by what these have gathered. -/
def Throughout (gather : Move → List α) (fits : List α → Move → Prop) : List α → List Move → Prop
  | _, [] => True
  | got, move :: rest => fits got move ∧ Throughout gather fits (got ++ gather move) rest

@[simp]
theorem throughout_nil (got : List α) : Throughout gather fits got [] := trivial

@[simp]
theorem throughout_cons {got : List α} {move : Move} {rest : List Move} :
    Throughout gather fits got (move :: rest) ↔
      fits got move ∧ Throughout gather fits (got ++ gather move) rest := Iff.rfl

@[simp]
theorem throughout_append {got : List α} {first second : List Move} :
    Throughout gather fits got (first ++ second) ↔
      Throughout gather fits got first ∧
        Throughout gather fits (got ++ first.flatMap gather) second := by
  induction first generalizing got with
  | nil => simp
  | cons move rest ih => simp [ih, and_assoc]

/-- Moves that fit whatever has been gathered besides. -/
theorem throughout_of_forall {got : List α} {moves : List Move}
    (h : ∀ move ∈ moves, ∀ more, fits (got ++ more) move) : Throughout gather fits got moves := by
  induction moves generalizing got with
  | nil => exact trivial
  | cons move rest ih =>
    obtain ⟨hmove, hrest⟩ := List.forall_mem_cons.mp h
    refine ⟨by simpa using hmove [], ih fun next hnext more => ?_⟩
    rw [List.append_assoc]
    exact hrest next hnext _

end Throughout

end Move

open Move

/-- Moves that can be made one after the other. -/
inductive Follows {σ : Type} (host : RunHost (StateM σ)) : Stage → List Move → σ → σ → Prop where
  | nil {stage : Stage} {s : σ} : Follows host stage [] s s
  | cons {stage : Stage} {move : Move} {rest : List Move} {s s₁ s' : σ}
      (first : host.Allows stage s move s₁) (others : Follows host (move.after stage) rest s₁ s') :
      Follows host stage (move :: rest) s s'

namespace Follows

variable {σ : Type} {host : RunHost (StateM σ)} {stage : Stage} {s s' s'' : σ}

@[simp]
theorem nil_iff : Follows host stage [] s s' ↔ s' = s := by
  constructor
  · rintro ⟨⟩
    rfl
  · rintro rfl
    exact .nil

@[simp]
theorem cons_iff {move : Move} {rest : List Move} :
    Follows host stage (move :: rest) s s' ↔
      ∃ s₁, host.Allows stage s move s₁ ∧ Follows host (move.after stage) rest s₁ s' := by
  constructor
  · rintro ⟨⟩
    exact ⟨_, ‹_›, ‹_›⟩
  · rintro ⟨s₁, first, others⟩
    exact .cons first others

theorem singleton_iff {move : Move} :
    Follows host stage [move] s s' ↔ host.Allows stage s move s' := by
  simp

@[simp]
theorem append_iff {first second : List Move} :
    Follows host stage (first ++ second) s s' ↔
      ∃ s₁, Follows host stage first s s₁ ∧
        Follows host (stageAfter stage first) second s₁ s' := by
  induction first generalizing stage s with
  | nil => simp
  | cons move rest ih =>
    simp only [List.cons_append, cons_iff, ih, stageAfter_cons]
    constructor
    · rintro ⟨s₁, hmove, s₂, hrest, hsecond⟩
      exact ⟨s₂, ⟨s₁, hmove, hrest⟩, hsecond⟩
    · rintro ⟨s₂, ⟨s₁, hmove, hrest⟩, hsecond⟩
      exact ⟨s₁, hmove, s₂, hrest, hsecond⟩

end Follows

namespace Run

variable {α β ε : Type}

/-- A part of a run, in any surroundings. -/
abbrev Part (α : Type) := (σ : Type) → RunHost (StateM σ) → Step (StateM σ) α

/-- The ways in which a part can end, by its result and its moves. -/
abbrev Ends (α : Type) := Except RunError α → List Move → Prop

/-- A part has this result and makes these moves wherever they can be made. -/
def Makes (x : Part α) (r : Except RunError α) (moves : List Move) : Prop :=
  ∀ ⦃σ : Type⦄ ⦃host : RunHost (StateM σ)⦄ ⦃stage : Stage⦄ ⦃s s' : σ⦄,
    Follows host stage moves s s' → x σ host stage s = ((r, stageAfter stage moves), s')

namespace Makes

variable {x : Part α} {f : α → Part β}

theorem bind_error {e : RunError} {moves : List Move} (h : Makes x (.error e) moves) :
    Makes (fun σ host => x σ host >>= fun a => f a σ host) (.error e) moves :=
  fun _ _ _ _ _ follows => bind_of_error (h follows)

theorem bind_ok {a : α} {r : Except RunError β} {first second : List Move}
    (h : Makes x (.ok a) first) (goesOn : Makes (f a) r second) :
    Makes (fun σ host => x σ host >>= fun a => f a σ host) r (first ++ second) := by
  intro σ host stage s s' both
  obtain ⟨s₁, follows, follows'⟩ := Follows.append_iff.mp both
  rw [stageAfter_append]
  exact (bind_of_ok (h follows)).trans (goesOn follows')

end Makes

/-- Wherever it begins, a part makes moves that end in one of the ways. -/
def Leads (x : Part α) (ends : Ends α) : Prop :=
  ∀ (σ : Type) (host : RunHost (StateM σ)) (stage : Stage) (s : σ),
    ∃ r moves s', ends r moves ∧ Makes x r moves ∧ Follows host stage moves s s'

namespace Leads

variable {x : Part α} {f : α → Part β} {ends first : Ends α} {final : Ends β}

/-- How a part has come to its end. -/
theorem of_eq {σ : Type} {host : RunHost (StateM σ)} {stage stage' : Stage} {s s' : σ}
    {r : Except RunError α} (h : Leads x ends) (run : x σ host stage s = ((r, stage'), s')) :
    ∃ moves, ends r moves ∧ Makes x r moves ∧ Follows host stage moves s s' ∧
      stage' = stageAfter stage moves := by
  obtain ⟨r', moves, s'', hends, makes, follows⟩ := h σ host stage s
  obtain ⟨rfl, rfl, rfl⟩ := end_inj ((makes follows).symm.trans run)
  exact ⟨moves, hends, makes, follows, rfl⟩

theorem mono {wider : Ends α} (h : Leads x ends) (imp : ∀ r moves, ends r moves → wider r moves) :
    Leads x wider := by
  intro σ host stage s
  obtain ⟨r, moves, s', hends, makes, follows⟩ := h σ host stage s
  exact ⟨r, moves, s', imp r moves hends, makes, follows⟩

theorem makes (h : Leads x ends) : Leads x fun r moves => ends r moves ∧ Makes x r moves := by
  intro σ host stage s
  obtain ⟨r, moves, s', hends, makes, follows⟩ := h σ host stage s
  exact ⟨r, moves, s', ⟨hends, makes⟩, makes, follows⟩

theorem pure {a : α} (h : ends (.ok a) []) : Leads (fun _ _ => pure a) ends := by
  intro σ host stage s
  refine ⟨.ok a, [], s, h, ?_, .nil⟩
  intro σ host stage s s' follows
  rw [Follows.nil_iff.mp follows]
  rfl

/-- The first part fails, or the second one goes on from where it ended. -/
theorem bind (h : Leads x first) (fails : ∀ e moves, first (.error e) moves → final (.error e) moves)
    (goesOn : ∀ a moves, first (.ok a) moves →
      Leads (f a) fun r more => final r (moves ++ more)) :
    Leads (fun σ host => x σ host >>= fun a => f a σ host) final := by
  intro σ host stage s
  obtain ⟨r, moves, s₁, hends, makes, follows⟩ := h σ host stage s
  cases r with
  | error e => exact ⟨.error e, moves, s₁, fails e moves hends, makes.bind_error, follows⟩
  | ok a =>
    obtain ⟨r, more, s₂, hfinal, makes', follows'⟩ :=
      goesOn a moves hends σ host (stageAfter stage moves) s₁
    exact ⟨r, moves ++ more, s₂, hfinal, makes.bind_ok makes',
      Follows.append_iff.mpr ⟨s₁, follows, follows'⟩⟩

theorem decided (onError : ε → RunError) (decision : Except ε α) :
    Leads (fun _ _ => Run.decided onError decision)
      fun r moves => r = decision.mapError onError ∧ moves = [] := by
  intro σ host stage s
  refine ⟨_, [], s, ⟨rfl, rfl⟩, ?_, .nil⟩
  intro σ host stage s s' follows
  rw [Follows.nil_iff.mp follows]
  exact decided_apply onError decision stage s

/-- The ways in which a call ends that finds something in its answer. -/
inductive Asked {γ : Type} (call : γ → Call) (found : γ → α) : Ends α
  | answered (answer : γ) : Asked call found (.ok (found answer)) [.call (call answer)]

theorem ask {γ : Type} (call : γ → Call) (found : γ → α)
    {action : (σ : Type) → RunHost (StateM σ) → StateM σ γ}
    (answers : ∀ σ (host : RunHost (StateM σ)) s answer s',
      host.Answers s (call answer) s' ↔ action σ host s = (answer, s')) :
    Leads (fun σ host => perform (found <$> action σ host)) (Asked call found) := by
  intro σ host stage s
  rcases haction : action σ host s with ⟨answer, s'⟩
  refine ⟨.ok (found answer), [.call (call answer)], s', .answered answer, ?_,
    .cons ((answers σ host s answer s').mpr haction) .nil⟩
  intro σ host stage s s' follows
  obtain ⟨s₁, hcall, hend⟩ := Follows.cons_iff.mp follows
  have hperform := perform_apply (found <$> action σ host) stage s
  have hmap : (found <$> action σ host) s =
      (found (action σ host s).1, (action σ host s).2) := rfl
  rw [hmap, (answers σ host s answer s₁).mp hcall] at hperform
  rw [Follows.nil_iff.mp hend]
  exact hperform

/-- The ways in which a call ends whose failure ends the run. -/
inductive Tried (onError : ε → RunError) (call : Except ε α → Call) : Ends α
  | failed (e : ε) : Tried onError call (.error (onError e)) [.call (call (.error e))]
  | done (a : α) : Tried onError call (.ok a) [.call (call (.ok a))]

theorem attempt (onError : ε → RunError) (call : Except ε α → Call)
    {action : (σ : Type) → RunHost (StateM σ) → StateM σ (Except ε α)}
    (answers : ∀ σ (host : RunHost (StateM σ)) s answer s',
      host.Answers s (call answer) s' ↔ action σ host s = (answer, s')) :
    Leads (fun σ host => Run.attempt onError (action σ host)) (Tried onError call) := by
  have hattempt : (fun σ (host : RunHost (StateM σ)) => Run.attempt onError (action σ host)) =
      fun σ host => perform (id <$> action σ host) >>= fun answer => Run.decided onError answer := by
    funext σ host
    rw [id_map]
    rfl
  rw [hattempt]
  refine bind (ask call id answers) (fun e moves h => by cases h) ?_
  rintro answer moves ⟨answer⟩
  refine mono (decided onError answer) ?_
  rintro r more ⟨rfl, rfl⟩
  cases answer with
  | error e => exact .failed e
  | ok a => exact .done a

theorem told (event : Event) (plain : event.isRemark = true) :
    Leads (fun _ host => perform (host.log event))
      fun r moves => r = .ok () ∧ moves = [.remark event plain] := by
  intro σ host stage s
  rcases hlog : host.log event s with ⟨⟨⟩, s₁⟩
  refine ⟨.ok (), [.remark event plain], s₁, ⟨rfl, rfl⟩, ?_, .cons hlog .nil⟩
  intro σ host stage s s' follows
  obtain ⟨s₁, htold, hend⟩ := Follows.cons_iff.mp follows
  have hperform := perform_apply (host.log event) stage s
  rw [show host.log event s = ((), s₁) from htold] at hperform
  rw [Follows.nil_iff.mp hend]
  exact hperform

/-- Something is told, and the rest goes on. -/
theorem remark {rest : Part β} (event : Event) (plain : event.isRemark = true)
    (h : Leads rest fun r more => final r (.remark event plain :: more)) :
    Leads (fun σ host => perform (host.log event) >>= fun _ => rest σ host) final := by
  refine bind (told event plain) ?_ ?_
  · rintro e moves ⟨hr, -⟩
    cases hr
  · rintro ⟨⟩ moves ⟨-, rfl⟩
    exact h

/-- A stage is entered, and the rest goes on. -/
theorem advance {rest : Part β} (next : Stage)
    (h : Leads rest fun r more => final r (.enter next :: more)) :
    Leads (fun σ host => Run.advance host next >>= fun _ => rest σ host) final := by
  intro σ host stage s
  rcases hlog : host.log (.transition stage next) s with ⟨⟨⟩, s₁⟩
  obtain ⟨r, more, s₂, hfinal, makes, follows⟩ := h σ host next s₁
  refine ⟨r, .enter next :: more, s₂, hfinal, ?_, .cons hlog follows⟩
  intro σ host stage s s' all
  obtain ⟨s₁, htold, follows⟩ := Follows.cons_iff.mp all
  have hadvance := advance_apply host next stage s
  rw [show host.log (.transition stage next) s = ((), s₁) from htold] at hadvance
  exact (bind_of_ok hadvance).trans (makes follows)

/-- The ways in which a fold ends whose steps end in certain ways. -/
inductive Folded (ends : β → α → Ends β) : β → List α → Ends β
  | nil (b : β) : Folded ends b [] (.ok b) []
  | next {b b₁ : β} {a : α} {rest : List α} {r : Except RunError β} {first others : List Move}
      (step : ends b a (.ok b₁) first) (behind : Folded ends b₁ rest r others) :
      Folded ends b (a :: rest) r (first ++ others)
  | failed {b : β} {a : α} {rest : List α} {e : RunError} {moves : List Move}
      (step : ends b a (.error e) moves) : Folded ends b (a :: rest) (.error e) moves

namespace Folded

variable {γ : Type} {ends : β → α → Ends β} {b : β} {items : List α} {moves : List Move}

/-- What every step makes, the fold makes. -/
theorem forall_mem {P : Move → Prop} {r : Except RunError β}
    (step : ∀ {b a r moves}, ends b a r moves → ∀ move ∈ moves, P move)
    (h : Folded ends b items r moves) : ∀ move ∈ moves, P move := by
  induction h with
  | nil => exact fun move hmove => absurd hmove List.not_mem_nil
  | next first _ ih => exact List.forall_mem_append.mpr ⟨step first, ih⟩
  | failed first => exact step first

theorem throughout {gather : Move → List γ} {fits : List γ → Move → Prop} {r : Except RunError β}
    (step : ∀ {b a r moves}, ends b a r moves → ∀ got, Throughout gather fits got moves)
    (h : Folded ends b items r moves) (got : List γ) : Throughout gather fits got moves := by
  induction h generalizing got with
  | nil => exact trivial
  | next first _ ih => exact throughout_append.mpr ⟨step first got, ih _⟩
  | failed first => exact step first got

/-- A fold only fails as one of its steps does. -/
theorem exists_of_error {e : RunError} (h : Folded ends b items (.error e) moves) :
    ∃ before a after b₁ first last, items = before ++ a :: after ∧ moves = first ++ last ∧
      Folded ends b before (.ok b₁) first ∧ ends b₁ a (.error e) last := by
  generalize hr : (Except.error e : Except RunError β) = r at h
  induction h with
  | nil b => cases hr
  | @next b b₁ a rest r first others step behind ih =>
    obtain ⟨before, a', after, b₂, second, last, rfl, rfl, folded, fails⟩ := ih hr
    exact ⟨a :: before, a', after, b₂, first ++ second, last, rfl, (List.append_assoc ..).symm,
      .next step folded, fails⟩
  | @failed b a rest e' moves step =>
    cases hr
    exact ⟨[], a, rest, b, [], moves, rfl, rfl, .nil b, step⟩

end Folded

theorem foldlM {f : β → α → Part β} {ends : β → α → Ends β} (h : ∀ b a, Leads (f b a) (ends b a))
    (items : List α) (b : β) :
    Leads (fun σ host => items.foldlM (fun b a => f b a σ host) b) (Folded ends b items) := by
  induction items generalizing b with
  | nil => exact pure (.nil b)
  | cons a rest ih =>
    simp only [List.foldlM_cons]
    refine bind (h b a) (fun e moves step => .failed step) ?_
    intro b₁ first step
    exact mono (ih b₁) fun r others behind => .next step behind

end Leads

end Run

end ElmPrerender
