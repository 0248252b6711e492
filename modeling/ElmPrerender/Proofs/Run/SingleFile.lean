import ElmPrerender.Proofs.ConfigFile.PlainEntry
import ElmPrerender.Proofs.Run.Endings
import ElmPrerender.Proofs.Run.Journal

/-!
# A single file and a list of one page

What a run does once its sources are known does not depend on where they come from. So a run from a
single file and a run from a list of that one page differ in nothing but what they tell first.
-/

namespace ElmPrerender.Run

open Move
open ConfigFile (PlainEntry)

variable {σ : Type} {c : Collaborators σ} {options : RunOptions} {source : RunSource}

/-- The first words of a run are the same from every stage. -/
theorem SourcesKnown.journal {r : Except RunError (List SourceTargets)} {moves : List Move}
    (h : SourcesKnown options source r moves) (stage : Stage) :
    journal stage moves = [.told (sourceEvent source)] ∧ stageAfter stage moves = stage := by
  cases h <;> exact ⟨rfl, rfl⟩

/-- From a state the sources come to be known in another one. -/
def Knows (c : Collaborators σ) (options : RunOptions) (source : RunSource) (s : σ)
    (known : Except RunError (List SourceTargets)) (s' : σ) : Prop :=
  ∃ moves, SourcesKnown options source known moves ∧
    Makes (fun _ host => pendingSources host options source) known moves ∧
    ∀ stage, Follows c.unwatched stage moves s s'

theorem knows_file (source : Path) (output : Option String) (s : σ) :
    Knows c options (.file source output) s ((SourceTargets.ofFile source output).mapError .config)
      s := by
  obtain ⟨r, moves, s', known, makes, -⟩ :=
    pendingSources_leads options (.file source output) σ c.unwatched .init s
  cases known with
  | file accepted =>
    subst accepted
    exact ⟨_, .file rfl, makes, fun stage => .cons rfl .nil⟩

theorem knows_configFile {path : Path} {text : String} {s s' : σ}
    (read : c.read (options.invocation.join path) s = (.ok text, s')) :
    Knows c options (.configFile path) s (listRead path (.ok text)) s' := by
  obtain ⟨r, moves, s₁, known, makes, follows⟩ :=
    pendingSources_leads options (.configFile path) σ c.unwatched .init s
  cases known with
  | configFile answer accepted =>
    simp only [Follows.cons_iff, Follows.nil_iff, Collaborators.allows_unwatched_remark,
      Collaborators.allows_unwatched_read] at follows
    obtain ⟨_, rfl, _, hanswer, -⟩ := follows
    rw [read] at hanswer
    cases hanswer
    subst accepted
    exact ⟨_, .configFile _ rfl, makes, fun stage => .cons rfl (.cons read .nil)⟩

/-- Runs with the same sources, known in the same state, end in the same way and are told alike but
for the first words. -/
theorem exists_watch_of_knows (c : Collaborators σ) (options : RunOptions)
    (known : Except RunError (List SourceTargets)) (start : Stage) (s s' : σ) :
    ∃ result stage left journal, ∀ source, Knows c options source s known s' →
      watch c options source start s =
        ⟨start, s, result, stage, left, .told (sourceEvent source) :: journal⟩ := by
  cases known with
  | error e =>
    refine ⟨.error e, .aborted, s', closing (.error e) start, ?_⟩
    rintro source ⟨moves, known, makes, follows⟩
    obtain ⟨hjournal, hstage⟩ := known.journal start
    have hrun : Makes (fun _ host => execute host options source) (.error e) moves := by
      simp only [execute_eq_executeFrom]
      exact makes.bind_error
    rw [watch_of_makes hrun (follows start) start, hjournal, hstage]
    rfl
  | ok pending =>
    obtain ⟨r, moves, left, -, behind, goesOn⟩ :=
      executeFrom_leads options pending σ c.unwatched start s'
    refine ⟨r, stageLeft r (stageAfter start moves), left,
      journal start moves ++ closing r (stageAfter start moves), ?_⟩
    rintro source ⟨first, known, makes, follows⟩
    obtain ⟨hjournal, hstage⟩ := known.journal start
    have hrun : Makes (fun _ host => execute host options source) r (first ++ moves) := by
      simp only [execute_eq_executeFrom]
      exact makes.bind_ok behind
    have hfollows : Follows c.unwatched start (first ++ moves) s left :=
      Follows.append_iff.mpr ⟨s', follows start, by rwa [hstage]⟩
    rw [watch_of_makes hrun hfollows start, stageAfter_append, journal_append, hjournal, hstage]
    rfl

/-- Whichever way an entry for one page with the default view is written, the file has the same
sources or is refused for the same reason. Alone in a file it stands for the single file with that
output, where no output is standard output, and both are run in the same way: nothing differs but
the first words that are told. -/
theorem plain_spellings_agree {output : String} {v : Json.Value} (plain : PlainEntry output v)
    (name : String) :
    (∀ w, PlainEntry output w → ∀ before after : Json.Members,
      ConfigFile.sources ⟨before ++ (name, v) :: after⟩ =
        ConfigFile.sources ⟨before ++ (name, w) :: after⟩) ∧
    ConfigFile.sources ⟨[(name, v)]⟩ = SourceTargets.ofFile ⟨name⟩ (some output) ∧
    SourceTargets.ofFile ⟨name⟩ none = SourceTargets.ofFile ⟨name⟩ (some "::stdout") ∧
    ∀ {σ : Type} (c : Collaborators σ) (options : RunOptions) (path : Path) (text : String)
      (start : Stage) (s : σ), c.read (options.invocation.join path) s = (.ok text, s) →
      ConfigFile.parse text = .ok ⟨[(name, v)]⟩ →
      ∃ result stage left journal,
        watch c options (.configFile path) start s =
          ⟨start, s, result, stage, left, .told (.usingConfig path) :: journal⟩ ∧
        watch c options (.file ⟨name⟩ (some output)) start s =
          ⟨start, s, result, stage, left, .told (.loadingFile ⟨name⟩ (some output)) :: journal⟩ ∧
        (output = "::stdout" → watch c options (.file ⟨name⟩ none) start s =
          ⟨start, s, result, stage, left, .told (.loadingFile ⟨name⟩ none) :: journal⟩) := by
  refine ⟨fun w hw => plain.sources_exchange hw name, plain.sources_singleton name,
    SourceTargets.ofFile_none ⟨name⟩, ?_⟩
  intro σ c options path text start s read parsed
  obtain ⟨result, stage, left, journal, watched⟩ := exists_watch_of_knows c options
    ((SourceTargets.ofFile ⟨name⟩ (some output)).mapError .config) start s s
  refine ⟨result, stage, left, journal, watched _ ?_, watched _ (knows_file ..), ?_⟩
  · have knows := knows_configFile read
    rwa [listRead, parsed, Except.bind, plain.sources_singleton] at knows
  · rintro rfl
    have knows : Knows c options (.file ⟨name⟩ none) s _ s := knows_file ⟨name⟩ none s
    rw [SourceTargets.ofFile_none] at knows
    exact watched _ knows

/-- A bench that is worked with; what is told on it is left to the journal. -/
def onBench (rules : BenchRules) : Collaborators Bench where
  read := (Bench.host rules).read
  write := (Bench.host rules).write
  createDirectories := (Bench.host rules).createDirectories
  build := (Bench.host rules).build
  render := (Bench.host rules).render
  print := (Bench.host rules).print
  flush := (Bench.host rules).flush

def noteRules : BenchRules where
  unwritable := []
  uncreatable := []
  build _ _ := .ok (.failed 1)
  render _ _ := .ok [⟨"::stdout", "<p></p>"⟩]
  outputLimit := none
  flushFails := false

/-- A page is printed, by a list of one record with its view first. -/
def noteList : String :=
  r#"{"files":{"Note.elm":[{"viewFunction":"view","output":"::stdout"}]}}"#

def noteBench : Bench := .ofStore {
  files := [
    (⟨"/d/Note.elm"⟩, "module Note exposing (..)\n"),
    (⟨"/d/elm-package.json"⟩, r#"{"source-directories":["src"],"repository":"u/p"}"#),
    (⟨"/d/note.json"⟩, noteList)]
  directories := [] }

def noteOptions : RunOptions := ⟨⟨"/d"⟩, ⟨⟨"/w"⟩⟩, .standard⟩

theorem note_spellings_agree :
    ∃ result stage left journal,
      watch (onBench noteRules) noteOptions (.configFile ⟨"note.json"⟩) .init noteBench =
        ⟨.init, noteBench, result, stage, left, .told (.usingConfig ⟨"note.json"⟩) :: journal⟩ ∧
      watch (onBench noteRules) noteOptions (.file ⟨"Note.elm"⟩ none) .init noteBench =
        ⟨.init, noteBench, result, stage, left, .told (.loadingFile ⟨"Note.elm"⟩ none) :: journal⟩ ∧
      left.output = Text.Utf8.ofString "<p></p>\n\n" := by
  have hentry : PlainEntry "::stdout" (.array
      [.object [("viewFunction", .string "view"), ("output", .string "::stdout")]]) :=
    .list .viewFirst
  have hread : (onBench noteRules).read (noteOptions.invocation.join ⟨"note.json"⟩) noteBench =
      (.ok noteList, noteBench) := by
    have hfound : noteBench.store.read (noteOptions.invocation.join ⟨"note.json"⟩) =
        .ok noteList := by decide +kernel
    exact congrArg (·, noteBench) hfound
  have hprinted : (watch (onBench noteRules) noteOptions (.configFile ⟨"note.json"⟩) .init
      noteBench).left.output = Text.Utf8.ofString "<p></p>\n\n" := by decide +kernel
  obtain ⟨-, -, -, hruns⟩ := plain_spellings_agree hentry "Note.elm"
  obtain ⟨result, stage, left, journal, hlist, -, hfile⟩ := hruns (onBench noteRules) noteOptions
    ⟨"note.json"⟩ noteList .init noteBench hread (by decide +kernel)
  rw [hlist] at hprinted
  exact ⟨result, stage, left, journal, hlist, hfile rfl, hprinted⟩

end ElmPrerender.Run
