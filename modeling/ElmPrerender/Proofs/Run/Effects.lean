import ElmPrerender.Proofs.Run.Course
import ElmPrerender.Proofs.Store.Files

/-!
# What moves do on a bench

A bench tells how it answers each call, and each move does one thing to it. So what a part of a run
has done can be read from its moves, if they have been made.
-/

namespace ElmPrerender

open Move

/-- The bench after a call of a tool. -/
def Run.called (b : Bench) (tool : Tool) : Bench := { b with calls := b.calls ++ [tool] }

@[simp]
theorem Run.called_store (b : Bench) (tool : Tool) : (Run.called b tool).store = b.store := rfl

@[simp]
theorem Run.called_output (b : Bench) (tool : Tool) : (Run.called b tool).output = b.output := rfl

@[simp]
theorem Run.called_log (b : Bench) (tool : Tool) : (Run.called b tool).log = b.log := rfl

theorem Run.apply_eq_iff {σ α : Type} {action : StateM σ α} {s s' : σ} {a : α} :
    action s = (a, s') ↔ a = (action s).1 ∧ s' = (action s).2 := by
  constructor
  · intro h
    rw [h]
    exact ⟨rfl, rfl⟩
  · rintro ⟨rfl, rfl⟩
    rfl

section Answers

variable {s : Surroundings} {b b' : Bench}

@[simp]
theorem answers_read {path : Path} {answer : Except IoError String} :
    s.host.Answers b (.read path answer) b' ↔ answer = b.store.read path ∧ b' = b :=
  Run.apply_eq_iff

@[simp]
theorem answers_write {path : Path} {text : String} {answer : Except IoError Unit} :
    s.host.Answers b (.write path text answer) b' ↔
      (∃ e, s.writeFault? b path text = some e ∧ answer = .error e ∧ b' = b) ∨
        (s.writeFault? b path text = none ∧ answer = .ok () ∧
          b' = { b with store := b.store.write path text }) := by
  rw [RunHost.Answers, Run.apply_eq_iff, Surroundings.host]
  cases hfault : s.writeFault? b path text <;> simp [hfault]

@[simp]
theorem answers_createDirectories {path : Path} {answer : Except IoError Unit} :
    s.host.Answers b (.createDirectories path answer) b' ↔
      (∃ e, s.directoryFault? b path = some e ∧ answer = .error e ∧ b' = b) ∨
        (s.directoryFault? b path = none ∧ answer = .ok () ∧
          b' = { b with store := b.store.createDirectories path }) := by
  rw [RunHost.Answers, Run.apply_eq_iff, Surroundings.host]
  cases hfault : s.directoryFault? b path <;> simp [hfault]

@[simp]
theorem answers_build {w : Workspace} {answer : Except ToolchainError BuildOutcome} :
    s.host.Answers b (.build w answer) b' ↔
      answer = s.build b w ∧ b' = Run.called b .compiler :=
  Run.apply_eq_iff

@[simp]
theorem answers_render {w : Workspace} {answer : Except ToolchainError Batch} :
    s.host.Answers b (.render w answer) b' ↔
      answer = s.render b w ∧ b' = Run.called b .renderer :=
  Run.apply_eq_iff

@[simp]
theorem answers_print {text : String} {answer : Except IoError Unit} :
    s.host.Answers b (.print text answer) b' ↔
      answer = (s.print b text).1 ∧ b' = { b with output := b.output ++ (s.print b text).2 } :=
  Run.apply_eq_iff

@[simp]
theorem answers_flush {answer : Except IoError Unit} :
    s.host.Answers b (.flush answer) b' ↔
      answer = (s.flush b).1 ∧ b' = { b with output := b.output ++ (s.flush b).2 } :=
  Run.apply_eq_iff

@[simp]
theorem allows_enter {stage next : Stage} :
    s.host.Allows stage b (.enter next) b' ↔ b' = b.tell [.transition stage next] :=
  Run.apply_eq_iff.trans (and_iff_right rfl)

@[simp]
theorem allows_remark {stage : Stage} {event : Event} {plain : event.isRemark = true} :
    s.host.Allows stage b (.remark event plain) b' ↔ b' = b.tell [event] :=
  Run.apply_eq_iff.trans (and_iff_right rfl)

@[simp]
theorem allows_call {stage : Stage} {call : Call} :
    s.host.Allows stage b (.call call) b' ↔ s.host.Answers b call b' := Iff.rfl

end Answers

namespace Move

/-- What a move does to the files and directories. -/
def onStore (store : Store) : Move → Store
  | .call (.write path text (.ok _)) => store.write path text
  | .call (.createDirectories path (.ok _)) => store.createDirectories path
  | _ => store

def storeAfter (store : Store) (moves : List Move) : Store := moves.foldl onStore store

@[simp]
theorem storeAfter_nil (store : Store) : storeAfter store [] = store := rfl

@[simp]
theorem storeAfter_cons (store : Store) (move : Move) (rest : List Move) :
    storeAfter store (move :: rest) = storeAfter (onStore store move) rest := rfl

@[simp]
theorem storeAfter_append (store : Store) (first second : List Move) :
    storeAfter store (first ++ second) = storeAfter (storeAfter store first) second :=
  List.foldl_append

@[simp]
theorem storeAfter_wrote (store : Store) (files : List (Path × String)) :
    storeAfter store (files.map wrote) = store.writeAll files := by
  rw [storeAfter, List.foldl_map]
  rfl

theorem wrote_of_onStore {store : Store} {move : Move} {p : Path}
    (h : (onStore store move).file? p ≠ store.file? p) :
    ∃ file : Path × String, move = wrote file ∧ p.same file.1 = true := by
  unfold onStore at h
  split at h
  · rename_i path text _
    refine ⟨(path, text), rfl, ?_⟩
    by_contra hother
    rw [Store.file?_write, if_neg hother] at h
    exact h rfl
  · exact absurd (Store.file?_congr (Store.files_createDirectories store _) p) h
  · exact absurd rfl h

/-- A text only changes under a path that is written. -/
theorem exists_wrote {store : Store} {moves : List Move} {p : Path}
    (h : (storeAfter store moves).file? p ≠ store.file? p) :
    ∃ file : Path × String, wrote file ∈ moves ∧ p.same file.1 = true := by
  induction moves generalizing store with
  | nil => exact absurd rfl h
  | cons move rest ih =>
    by_cases hmove : (onStore store move).file? p = store.file? p
    · have hrest : (storeAfter (onStore store move) rest).file? p ≠ (onStore store move).file? p :=
        fun hsame => h (hsame.trans hmove)
      obtain ⟨file, hfile, hsame⟩ := ih hrest
      exact ⟨file, List.mem_cons_of_mem move hfile, hsame⟩
    · obtain ⟨file, rfl, hsame⟩ := wrote_of_onStore hmove
      exact ⟨file, List.mem_cons_self, hsame⟩

/-- Whether a move looks around and tells, and no more. -/
def looks : Move → Bool
  | .enter _ | .remark _ _ | .call (.read _ _) => true
  | .call _ => false

/-- Whether a move prints. -/
def prints : Move → Bool
  | .call (.print _ _) | .call (.flush _) => true
  | _ => false

end Move

/-- What moves have done that were made from a stage on. -/
structure Effect (stage : Stage) (moves : List Move) (b b' : Bench) : Prop where
  store : b'.store = storeAfter b.store moves
  log : b'.log = b.log ++ told stage moves
  calls : b'.calls = b.calls ++ tools moves
  output : moves.any Move.prints = false → b'.output = b.output

variable {s : Surroundings} {stage : Stage} {b b' : Bench} {moves : List Move}

theorem Effect.append {first second : List Move} {b₁ : Bench} (h : Effect stage first b b₁)
    (h' : Effect (stageAfter stage first) second b₁ b') : Effect stage (first ++ second) b b' := by
  refine ⟨?_, ?_, ?_, ?_⟩
  · rw [h'.store, h.store, storeAfter_append]
  · rw [h'.log, h.log, told_append, List.append_assoc]
  · rw [h'.calls, h.calls, tools_append, List.append_assoc]
  · intro quiet
    rw [List.any_append, Bool.or_eq_false_iff] at quiet
    rw [h'.output quiet.2, h.output quiet.1]

/-- One move. -/
theorem effect_of_allows {move : Move} (h : s.host.Allows stage b move b') :
    Effect stage [move] b b' := by
  cases move with
  | enter next =>
    rw [allows_enter.mp h]
    exact ⟨rfl, rfl, (List.append_nil _).symm, fun _ => rfl⟩
  | remark event plain =>
    rw [allows_remark.mp h]
    exact ⟨rfl, rfl, (List.append_nil _).symm, fun _ => rfl⟩
  | call call =>
    rw [allows_call] at h
    cases call with
    | read path answer =>
      simp only [answers_read] at h
      rw [h.2]
      exact ⟨rfl, (List.append_nil _).symm, (List.append_nil _).symm, fun _ => rfl⟩
    | write path text answer =>
      rcases answers_write.mp h with ⟨e, -, rfl, rfl⟩ | ⟨-, rfl, rfl⟩
      · exact ⟨rfl, (List.append_nil _).symm, (List.append_nil _).symm, fun _ => rfl⟩
      · exact ⟨rfl, (List.append_nil _).symm, (List.append_nil _).symm, fun _ => rfl⟩
    | createDirectories path answer =>
      rcases answers_createDirectories.mp h with ⟨e, -, rfl, rfl⟩ | ⟨-, rfl, rfl⟩
      · exact ⟨rfl, (List.append_nil _).symm, (List.append_nil _).symm, fun _ => rfl⟩
      · exact ⟨rfl, (List.append_nil _).symm, (List.append_nil _).symm, fun _ => rfl⟩
    | build w answer =>
      rw [(answers_build.mp h).2]
      exact ⟨rfl, (List.append_nil _).symm, rfl, fun _ => rfl⟩
    | render w answer =>
      rw [(answers_render.mp h).2]
      exact ⟨rfl, (List.append_nil _).symm, rfl, fun _ => rfl⟩
    | print text answer =>
      rw [(answers_print.mp h).2]
      exact ⟨rfl, (List.append_nil _).symm, (List.append_nil _).symm,
        fun quiet => by cases quiet⟩
    | flush answer =>
      rw [(answers_flush.mp h).2]
      exact ⟨rfl, (List.append_nil _).symm, (List.append_nil _).symm,
        fun quiet => by cases quiet⟩

/-- All moves, one after the other. -/
theorem Follows.effect (h : Follows s.host stage moves b b') : Effect stage moves b b' := by
  induction h with
  | nil => exact ⟨rfl, (List.append_nil _).symm, (List.append_nil _).symm, fun _ => rfl⟩
  | cons first _ ih => exact (effect_of_allows first).append ih

/-- Moves that only look around and tell. -/
theorem Follows.eq_tell (h : Follows s.host stage moves b b')
    (looks : moves.all Move.looks = true) : b' = b.tell (told stage moves) := by
  induction h with
  | nil => exact (Bench.tell_nil _).symm
  | @cons stage move rest b b₁ b' first others ih =>
    obtain ⟨hmove, hrest⟩ := Bool.and_eq_true_iff.mp looks
    rw [ih hrest]
    cases move with
    | enter next =>
      rw [allows_enter.mp first, Bench.tell_tell]
      rfl
    | remark event plain =>
      rw [allows_remark.mp first, Bench.tell_tell]
      rfl
    | call call =>
      cases call with
      | read path answer =>
        rw [(answers_read.mp first).2]
        rfl
      | write | createDirectories | build | render | print | flush => cases hmove

/-- The store with the directory that a file needs. -/
def Run.enclosed (store : Store) (path : Path) : Store :=
  match Run.enclosing? path with
  | some directory => store.createDirectories directory
  | none => store

@[simp]
theorem Run.files_enclosed (store : Store) (path : Path) :
    (Run.enclosed store path).files = store.files := by
  unfold Run.enclosed
  split
  · exact Store.files_createDirectories store _
  · rfl

theorem Follows.eq_enclosed {path : Path} (h : Follows s.host stage (Run.enclosing path) b b') :
    b' = { b with store := Run.enclosed b.store path } := by
  rw [Run.enclosing] at h
  rw [Run.enclosed]
  cases hneeded : Run.enclosing? path with
  | none =>
    rw [hneeded] at h
    exact Follows.nil_iff.mp h
  | some directory =>
    rw [hneeded] at h
    obtain ⟨e, -, hmade, -⟩ | ⟨-, -, rfl⟩ := answers_createDirectories.mp (Follows.singleton_iff.mp h)
    · cases hmade
    · rfl

end ElmPrerender
