import ElmPrerender.Proofs.ConfigFile.Schema
import ElmPrerender.Proofs.Elm.DriverReadBack

/-!
# Configurations after any attempts

Modules are added one after the other from arbitrary texts. An attempt may fail over a name, a
destination, a view, a module without pages, or a source that is there already; it then changes
nothing. So a source is rendered as the first attempt with admitted texts has asked for it, and the
generated program has one page for each target.
-/

namespace ElmPrerender

/-- A module as it is asked for. Its name is an arbitrary text, and so are the destination and the
view of each of its pages. -/
structure Attempt where
  source : Path
  name : String
  pages : List (String × String)

/-- Why an attempt fails. -/
inductive Refusal where
  | name (cause : ModuleNameError)
  | domain (cause : DomainError)
  deriving DecidableEq

namespace Attempt

def page (texts : String × String) : Except DomainError RenderTarget := do
  let destination ← Destination.parse texts.1
  let entry ← EntryFunction.parse texts.2
  pure ⟨destination, entry⟩

/-- The module that is asked for, if its texts are admitted. -/
def spec (a : Attempt) : Except Refusal ModuleSpec := do
  let name ← (ModuleName.parse a.name).mapError .name
  let targets ← (a.pages.mapM page).mapError .domain
  (ModuleSpec.make a.source name targets).mapError .domain

theorem page_eq_ok_iff {texts : String × String} {target : RenderTarget} :
    page texts = .ok target ↔ Destination.parse texts.1 = .ok target.destination ∧
      EntryFunction.parse texts.2 = .ok target.entry := by
  obtain ⟨destination, entry⟩ := target
  unfold page
  cases Destination.parse texts.1 with
  | error e => simp [bind, Except.bind]
  | ok d =>
    cases EntryFunction.parse texts.2 with
    | error e => simp [bind, Except.bind]
    | ok f => simp [bind, Except.bind, pure, Except.pure]

theorem spec_eq_ok_iff {a : Attempt} {s : ModuleSpec} :
    a.spec = .ok s ↔ ∃ name targets, ModuleName.parse a.name = .ok name ∧
      a.pages.mapM page = .ok targets ∧ ModuleSpec.make a.source name targets = .ok s := by
  have hbind : a.spec = ((ModuleName.parse a.name).mapError Refusal.name).bind fun name =>
      ((a.pages.mapM page).mapError Refusal.domain).bind fun targets =>
        (ModuleSpec.make a.source name targets).mapError .domain := rfl
  simp only [hbind, bind_eq_ok_iff, mapError_eq_ok_iff]
  constructor
  · rintro ⟨name, hname, targets, htargets, hmake⟩
    exact ⟨name, targets, hname, htargets, hmake⟩
  · rintro ⟨name, targets, hname, htargets, hmake⟩
    exact ⟨name, hname, targets, htargets, hmake⟩

end Attempt

/-- A parsed destination is written as its key. -/
theorem Destination.written_key {raw : String} {d : Destination}
    (h : Destination.parse raw = .ok d) : Written d.key d := by
  have hwritten := parse_eq_ok_iff.mp h
  cases hwritten with
  | standardOutput => exact .standardOutput
  | file nonempty other => exact .file nonempty other

namespace RenderConfiguration

/-- A source is refused if it is there already, and for no other reason. -/
theorem push_eq_error_iff {config : RenderConfiguration} {spec : ModuleSpec} {e : DomainError} :
    config.push spec = .error e ↔ e = .configuredTwice spec.source ∧
      ∃ old ∈ config.specs, old.source.same spec.source = true := by
  rw [← List.any_eq_true, push, hasSource]
  cases config.specs.any (·.source.same spec.source) with
  | true => simp [eq_comm]
  | false => simp

def attempt (config : RenderConfiguration) (a : Attempt) :
    Except Refusal RenderConfiguration := do
  let spec ← a.spec
  (config.push spec).mapError .domain

/-- What there is after an attempt. -/
def attempted (config : RenderConfiguration) (a : Attempt) : RenderConfiguration :=
  match config.attempt a with
  | .ok next => next
  | .error _ => config

/-- What there is after several attempts, of which some may have failed. -/
def afterAll (history : List Attempt) : RenderConfiguration := history.foldl attempted .empty

theorem attempt_eq_ok_iff {config next : RenderConfiguration} {a : Attempt} :
    config.attempt a = .ok next ↔ ∃ spec, a.spec = .ok spec ∧ config.push spec = .ok next := by
  have hbind : config.attempt a = a.spec.bind fun spec => (config.push spec).mapError .domain := rfl
  simp only [hbind, bind_eq_ok_iff, mapError_eq_ok_iff]

/-- A module is added at the end, or nothing changes. -/
theorem attempted_cases (config : RenderConfiguration) (a : Attempt) :
    (∃ spec, a.spec = .ok spec ∧ config.push spec = .ok (config.attempted a) ∧
      (config.attempted a).specs = config.specs ++ [spec]) ∨
    ∃ refusal, config.attempt a = .error refusal ∧ config.attempted a = config := by
  rw [attempted]
  cases hattempt : config.attempt a with
  | error refusal => exact Or.inr ⟨refusal, rfl, rfl⟩
  | ok next =>
    obtain ⟨spec, hspec, hpush⟩ := attempt_eq_ok_iff.mp hattempt
    refine Or.inl ⟨spec, hspec, hpush, ?_⟩
    rw [(push_eq_ok_iff.mp hpush).2]

theorem Built.attempted {config : RenderConfiguration}
    (h : config.Built fun d => Destination.Written d.key d) (a : Attempt) :
    (config.attempted a).Built fun d => Destination.Written d.key d := by
  rcases config.attempted_cases a with ⟨spec, hspec, hpush, -⟩ | ⟨refusal, -, hsame⟩
  · obtain ⟨name, targets, hname, htargets, hmake⟩ := Attempt.spec_eq_ok_iff.mp hspec
    refine h.push hname ?_ ?_ hmake hpush
    · intro t ht
      obtain ⟨texts, -, hpage⟩ := exists_of_mem_mapM htargets ht
      exact ⟨texts.2, (Attempt.page_eq_ok_iff.mp hpage).2⟩
    · intro t ht
      obtain ⟨texts, -, hpage⟩ := exists_of_mem_mapM htargets ht
      exact Destination.written_key (Attempt.page_eq_ok_iff.mp hpage).1
  · rw [hsame]
    exact h

theorem afterAll_concat (history : List Attempt) (a : Attempt) :
    afterAll (history ++ [a]) = (afterAll history).attempted a := List.foldl_append

theorem Built.foldl_attempted {config : RenderConfiguration}
    (h : config.Built fun d => Destination.Written d.key d) (history : List Attempt) :
    (history.foldl RenderConfiguration.attempted config).Built fun d => Destination.Written d.key d := by
  induction history generalizing config with
  | nil => exact h
  | cons a rest ih => exact ih (h.attempted a)

/-- Whatever has been tried, what there is has been built. -/
theorem built_afterAll (history : List Attempt) :
    (afterAll history).Built fun d => Destination.Written d.key d :=
  Built.empty.foldl_attempted history

/-- The modules with other sources than those before them. -/
def firstOfSources (specs : List ModuleSpec) : List ModuleSpec :=
  specs.eraseDupsBy fun later spec => spec.source.same later.source

/-- The modules that are asked for with admitted texts. -/
def admitted (history : List Attempt) : List ModuleSpec :=
  history.filterMap fun a => a.spec.toOption

theorem firstOfSources_cons (spec : ModuleSpec) (rest : List ModuleSpec) :
    firstOfSources (spec :: rest) =
      spec :: firstOfSources (rest.filter fun later => !spec.source.same later.source) := by
  simp [firstOfSources, List.eraseDupsBy_cons]

/-- Sources that are there already hide those that are asked for later. -/
theorem specs_foldl (config : RenderConfiguration) (history : List Attempt) :
    (history.foldl attempted config).specs = config.specs ++
      firstOfSources ((admitted history).filter fun spec => !config.hasSource spec.source) := by
  induction history generalizing config with
  | nil => exact (List.append_nil _).symm
  | cons a rest ih =>
    rw [List.foldl_cons, ih]
    cases hspec : a.spec with
    | error refusal =>
      have hattempted : config.attempted a = config := by
        rw [attempted, attempt, hspec]
        rfl
      have hadmitted : admitted (a :: rest) = admitted rest := by
        simp [admitted, hspec, Except.toOption]
      rw [hattempted, hadmitted]
    | ok spec =>
      have hadmitted : admitted (a :: rest) = spec :: admitted rest := by
        simp [admitted, hspec, Except.toOption]
      have hpush : config.attempt a = (config.push spec).mapError .domain := by
        rw [attempt, hspec]
        rfl
      rw [hadmitted, List.filter_cons]
      cases hthere : config.hasSource spec.source with
      | true =>
        have hattempted : config.attempted a = config := by
          rw [attempted, hpush, push, hthere]
          rfl
        rw [hattempted]
        rfl
      | false =>
        have hattempted : config.attempted a = ⟨config.specs ++ [spec]⟩ := by
          rw [attempted, hpush, push, hthere]
          rfl
        have hsource : ∀ later : ModuleSpec,
            hasSource ⟨config.specs ++ [spec]⟩ later.source =
              (config.hasSource later.source || spec.source.same later.source) := by
          intro later
          simp [hasSource]
        rw [hattempted, Bool.not_false, if_pos rfl, firstOfSources_cons, List.filter_filter]
        simp only [hsource, Bool.not_or, List.append_assoc, List.singleton_append, Bool.and_comm]

open Elm.Driver (textLines isPageLine)

/-- Whatever has been tried, the configuration is well formed, and no module has the name of the
generated program. An addition fails just over a source that is there, and a failed attempt changes
nothing. The modules are those of the successful attempts, in order: for each source the first that
was asked for with admitted texts. The generated program has one page for each target, each on a
line of its own. -/
theorem wellFormed_afterAll (history : List Attempt) :
    (afterAll history).WellFormed (fun d => Destination.Written d.key d) ∧
    (∀ spec ∈ (afterAll history).specs, spec.moduleName.text ≠ reservedModuleName) ∧
    (∀ spec e, (afterAll history).push spec = .error e ↔ e = .configuredTwice spec.source ∧
      ∃ old ∈ (afterAll history).specs, old.source.same spec.source = true) ∧
    (∀ a, (∃ spec, a.spec = .ok spec ∧
        (afterAll history).push spec = .ok (afterAll (history ++ [a])) ∧
        (afterAll (history ++ [a])).specs = (afterAll history).specs ++ [spec]) ∨
      ∃ refusal, (afterAll history).attempt a = .error refusal ∧
        afterAll (history ++ [a]) = afterAll history) ∧
    (afterAll history).specs = firstOfSources (admitted history) ∧
    (afterAll history).size = (afterAll history).specs.length ∧
    ∀ format, (Elm.Driver.ofConfiguration (afterAll history) format).bindings.length =
        (afterAll history).targetCount ∧
      (textLines (afterAll history) format).countP isPageLine =
        (afterAll history).targetCount := by
  have hwellFormed := (built_afterAll history).wellFormed
  refine ⟨hwellFormed, fun spec hspec => (hwellFormed.specs spec hspec).name.2,
    fun _ _ => push_eq_error_iff, ?_, ?_, rfl, fun format => ⟨Elm.Driver.length_bindings _ format,
      Elm.Driver.countP_textLines hwellFormed format⟩⟩
  · intro a
    rw [afterAll_concat]
    exact attempted_cases _ a
  · have hnone : (admitted history).filter (fun spec => !empty.hasSource spec.source) =
        admitted history := List.filter_eq_self.mpr fun _ _ => rfl
    rw [afterAll, specs_foldl, hnone]
    rfl

/-- Two modules, and an attempt to fail in each way. -/
def attempts : List Attempt :=
  [⟨⟨"src/A.elm"⟩, "A", [("::stdout", "view"), ("a.html", "page")]⟩,
    ⟨⟨"src/M.elm"⟩, "PrivateMain", [("m.html", "view")]⟩,
    ⟨⟨"src/D.elm"⟩, "D", [("", "view")]⟩,
    ⟨⟨"src/E.elm"⟩, "E", [("e.html", "port")]⟩,
    ⟨⟨"src/N.elm"⟩, "N", []⟩,
    ⟨⟨"src//./A.elm"⟩, "Other", [("other.html", "view")]⟩,
    ⟨⟨"src/E.elm"⟩, " Deep.E ", [("e.html", "view")]⟩]

theorem wellFormed_afterAll_attempts :
    (afterAll attempts).WellFormed (fun d => Destination.Written d.key d) ∧
    (afterAll attempts).push ⟨⟨"src/./E.elm"⟩, ⟨"E"⟩, []⟩ =
      .error (.configuredTwice ⟨"src/./E.elm"⟩) ∧
    (afterAll attempts).specs.map (·.moduleName.text) = ["A", "Deep.E"] ∧
    (∀ spec ∈ (afterAll attempts).specs, spec.moduleName.text ≠ "PrivateMain") ∧
    (textLines (afterAll attempts) .standard).countP isPageLine = 3 := by
  obtain ⟨hwellFormed, hnames, hpush, -, -, -, hpages⟩ := wellFormed_afterAll attempts
  have hthere : (afterAll attempts).hasSource ⟨"src/./E.elm"⟩ = true := by decide +kernel
  refine ⟨hwellFormed, ?_, by decide +kernel, hnames, ?_⟩
  · exact (hpush _ _).mpr ⟨rfl, List.any_eq_true.mp hthere⟩
  · rw [(hpages .standard).2]
    decide +kernel

end RenderConfiguration

end ElmPrerender
