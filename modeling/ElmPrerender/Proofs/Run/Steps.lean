import ElmPrerender.Proofs.Run.Surroundings

/-!
# Parts of a run

A part of a run takes a stage and a state of its surroundings to a result, a stage and a state.
Parts that follow each other are taken apart at the first failure. On a bench the state is the
bench.
-/

namespace ElmPrerender

/-- The bench after some events. -/
def Bench.tell (b : Bench) (events : List Event) : Bench := { b with log := b.log ++ events }

@[simp]
theorem Bench.tell_nil (b : Bench) : b.tell [] = b := by
  rw [tell, List.append_nil]

@[simp]
theorem Bench.tell_tell (b : Bench) (first second : List Event) :
    (b.tell first).tell second = b.tell (first ++ second) := by
  simp only [tell, List.append_assoc]

@[simp]
theorem Bench.tell_store (b : Bench) (events : List Event) : (b.tell events).store = b.store := rfl

@[simp]
theorem Bench.tell_output (b : Bench) (events : List Event) : (b.tell events).output = b.output :=
  rfl

@[simp]
theorem Bench.tell_calls (b : Bench) (events : List Event) : (b.tell events).calls = b.calls := rfl

@[simp]
theorem Bench.tell_log (b : Bench) (events : List Event) : (b.tell events).log = b.log ++ events :=
  rfl

/-- The stage that an event says is entered. -/
def Event.entered? : Event → Option Stage
  | .transition _ after => some after
  | _ => none

/-- The stages entered, by what was told. -/
def entered (told : List Event) : List Stage := told.filterMap Event.entered?

@[simp]
theorem entered_append (first second : List Event) :
    entered (first ++ second) = entered first ++ entered second :=
  List.filterMap_append

/-- A failure that is told enters no stage. -/
theorem entered_concat_aborted (told : List Event) (stage : Stage) (e : RunError) :
    entered (told ++ [.aborted stage e]) = entered told := by
  rw [entered_append]
  exact List.append_nil _

namespace Run

variable {σ α β ε : Type} {stage stage' : Stage}

section Parts

variable {b b' : σ}

theorem pure_apply (a : α) (stage : Stage) (b : σ) :
    (pure a : Step (StateM σ) α) stage b = ((.ok a, stage), b) := rfl

theorem perform_apply (action : StateM σ α) (stage : Stage) (b : σ) :
    perform action stage b = ((.ok (action b).1, stage), (action b).2) := rfl

/-- Two descriptions of one end. -/
theorem end_inj {r r' : Except RunError α} (h : ((r, stage), b) = ((r', stage'), b')) :
    r = r' ∧ stage = stage' ∧ b = b' := by
  cases h
  exact ⟨rfl, rfl, rfl⟩

section Bind

variable {x : Step (StateM σ) α} {f : α → Step (StateM σ) β}

theorem bind_apply (x : Step (StateM σ) α) (f : α → Step (StateM σ) β) (stage : Stage)
    (b : σ) :
    (x >>= f) stage b =
      ExceptT.bindCont f (x stage b).1.1 (x stage b).1.2 (x stage b).2 := rfl

theorem bind_of_ok {a : α} (h : x stage b = ((.ok a, stage'), b')) :
    (x >>= f) stage b = f a stage' b' := by
  rw [bind_apply, h]
  rfl

theorem bind_of_error {e : RunError} (h : x stage b = ((.error e, stage'), b')) :
    (x >>= f) stage b = ((.error e, stage'), b') := by
  rw [bind_apply, h]
  rfl

/-- The first part fails, or it succeeds and the second part goes on from there. -/
theorem bind_cases {r : Except RunError β} (h : (x >>= f) stage b = ((r, stage'), b')) :
    (∃ e, x stage b = ((.error e, stage'), b') ∧ r = .error e) ∨
      ∃ a stage₁ b₁, x stage b = ((.ok a, stage₁), b₁) ∧ f a stage₁ b₁ = ((r, stage'), b') := by
  rcases hx : x stage b with ⟨⟨e | a, stage₁⟩, b₁⟩
  · rw [bind_of_error hx] at h
    cases h
    exact Or.inl ⟨e, rfl, rfl⟩
  · rw [bind_of_ok hx] at h
    exact Or.inr ⟨a, stage₁, b₁, rfl, h⟩

/-- A last part that only puts results together does not change how the first part ends. -/
theorem bind_pure_cases {g : α → β} {r : Except RunError β}
    (h : (x >>= fun a => pure (g a)) stage b = ((r, stage'), b')) :
    ∃ r₁, x stage b = ((r₁, stage'), b') ∧ r = r₁.map g := by
  rcases bind_cases h with ⟨e, hx, rfl⟩ | ⟨a, stage₁, b₁, hx, hpure⟩
  · exact ⟨.error e, hx, rfl⟩
  · rw [pure_apply] at hpure
    cases hpure
    exact ⟨.ok a, hx, rfl⟩

end Bind

theorem decided_apply (onError : ε → RunError) (decision : Except ε α) (stage : Stage)
    (b : σ) :
    (decided onError decision : Step (StateM σ) α) stage b =
      ((decision.mapError onError, stage), b) := by
  cases decision with
  | ok a => rfl
  | error e => rfl

theorem advance_apply (host : RunHost (StateM σ)) (next stage : Stage) (b : σ) :
    advance host next stage b =
      ((.ok (), next), (host.log (.transition stage next) b).2) := rfl

end Parts

variable {b b' : Bench}

theorem log_apply (s : Surroundings) (event : Event) (stage : Stage) (b : Bench) :
    perform (s.host.log event) stage b = ((.ok (), stage), b.tell [event]) := rfl

/-- What a run does when it has ended. -/
def conclude (host : RunHost (StateM σ)) (r : Except RunError RunReport) (stage : Stage) :
    StateM σ (Except RunError RunReport × Stage) :=
  match r with
  | .ok report => pure (.ok report, stage)
  | .error e => do
    host.log (.aborted stage e)
    pure (.error e, .aborted)

theorem run_apply (host : RunHost (StateM σ)) (options : RunOptions) (source : RunSource)
    (stage : Stage) (b : σ) :
    run host options source stage b =
      conclude host (execute host options source stage b).1.1
        (execute host options source stage b).1.2 (execute host options source stage b).2 := rfl

theorem run_of_ok {host : RunHost (StateM σ)} {options : RunOptions} {source : RunSource}
    {report : RunReport} {b b' : σ}
    (h : execute host options source stage b = ((.ok report, stage'), b')) :
    run host options source stage b = ((.ok report, stage'), b') := by
  rw [run_apply, h]
  rfl

theorem run_of_error {s : Surroundings} {options : RunOptions} {source : RunSource} {e : RunError}
    (h : execute s.host options source stage b = ((.error e, stage'), b')) :
    run s.host options source stage b = ((.error e, .aborted), b'.tell [.aborted stage' e]) := by
  rw [run_apply, h]
  rfl

end Run

end ElmPrerender
