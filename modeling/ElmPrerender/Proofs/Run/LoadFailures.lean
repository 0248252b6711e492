import ElmPrerender.Proofs.ConfigFile.WrittenSources
import ElmPrerender.Proofs.Run.Survey

/-!
# How loading can fail

Loading only fails over a configuration file that is no list of pages, over an empty output, or over
two sources that it keeps and that are one file in two spellings: the names in a configuration file
differ, and each source has a page.
-/

namespace ElmPrerender.Run

open Move

variable {σ : Type} (c : Collaborators σ) (options : RunOptions)

/-- The sources that a run is to open, and the state in which it begins to. -/
inductive Pending (s : σ) : RunSource → List SourceTargets → σ → Prop
  | file {source : Path} {output : Option String} {pending : List SourceTargets}
      (accepted : SourceTargets.ofFile source output = .ok pending) :
      Pending s (.file source output) pending s
  | configFile {path : Path} {text : String} {file : ConfigFile} {pending : List SourceTargets}
      {s' : σ} (read : c.read (options.invocation.join path) s = (.ok text, s'))
      (parsed : ConfigFile.parse text = .ok file) (accepted : file.sources = .ok pending) :
      Pending s (.configFile path) pending s'

/-- Why loading can fail, with the sources opened before. -/
inductive LoadFailure (s : σ) : RunSource → List Opened → RunError → Prop
  | unreadable {path : Path} {cause : IoError} {s' : σ}
      (read : c.read (options.invocation.join path) s = (.error cause, s')) :
      LoadFailure s (.configFile path) [] (.configUnreadable path cause)
  | notFile {path : Path} {text : String} {e : Json.SyntaxError} {s' : σ}
      (read : c.read (options.invocation.join path) s = (.ok text, s'))
      (parsed : ConfigFile.parse text = .error (.syntaxError e)) :
      LoadFailure s (.configFile path) [] (.config (.syntaxError e))
  | malformed {path : Path} {text name : String} {file : ConfigFile} {v : Json.Value}
      {problem : EntryProblem} {s' : σ}
      (read : c.read (options.invocation.join path) s = (.ok text, s'))
      (parsed : ConfigFile.parse text = .ok file) (entry : (name, v) ∈ file.files)
      (refused : ConfigFile.entryTargets v = .error problem) :
      LoadFailure s (.configFile path) [] (.config (.malformed name problem))
  | output {source : Path} {output : String} {e : DomainError}
      (refused : Destination.parse output = .error e) :
      LoadFailure s (.file source (some output)) []
        (.config (.malformed source.text (.domain e)))
  | twice {path : Path} {pending read : List SourceTargets} {s₁ : σ} {first second : Path}
      (found : Pending c options s (.configFile path) pending s₁) (part : read <+: pending)
      (earlier : first ∈ kept (openAll c options read s₁).1)
      (later : second ∈ kept (openAll c options read s₁).1)
      (same : first.same second = true) (spelled : first.text ≠ second.text) :
      LoadFailure s (.configFile path) (openAll c options read s₁).1
        (.domain (.configuredTwice second))

/-- All sources that a run is to open, with what was found in them. -/
def Surveyed (s : σ) (source : RunSource) (opened : List Opened) : Prop :=
  ∃ pending s', Pending c options s source pending s' ∧ opened = (openAll c options pending s').1

variable {c options} {s s' s'' : σ} {source : RunSource} {pending : List SourceTargets}
  {stage : Stage} {moves : List Move}

theorem Pending.nonempty (h : Pending c options s source pending s') :
    ∀ t ∈ pending, t.targets ≠ [] := by
  intro t ht
  cases h with
  | file accepted => exact (SourceTargets.wellFormed_of_ofFile accepted t ht).nonempty
  | configFile read parsed accepted =>
    exact (ConfigFile.wellFormed_of_sources accepted t ht).nonempty

/-- No source is pending twice in one spelling. -/
theorem Pending.nodup (h : Pending c options s source pending s') :
    (pending.map (·.source.text)).Nodup := by
  cases h with
  | file accepted =>
    obtain ⟨target, rfl⟩ := SourceTargets.eq_singleton_of_ofFile accepted
    exact List.nodup_singleton _
  | configFile read parsed accepted =>
    obtain ⟨written, -, hfiles⟩ := ConfigFile.exists_writesFiles parsed
    rw [ConfigFile.names_of_mapM accepted, hfiles]
    exact Json.Members.nodup_names_ofList written

/-- Adding the sources only fails over two of them that are one file. -/
theorem failure_of_collect {read : List SourceTargets} {e : RunError}
    (found : Pending c options s source pending s') (part : read <+: pending)
    (h : collect ⟨.empty, []⟩ (openAll c options read s').1 = .error e) :
    LoadFailure c options s source (openAll c options read s').1 e := by
  have hnames := map_fst_openAll c options read s'
  have hnonempty : ∀ o ∈ (openAll c options read s').1, o.1.targets ≠ [] := fun o ho =>
    found.nonempty o.1 (part.subset (hnames ▸ List.mem_map_of_mem ho))
  have htexts : (openAll c options read s').1.map (·.1.source.text) =
      read.map (·.source.text) := by
    conv_rhs => rw [← hnames, List.map_map]
    rfl
  have hdistinct : (read.map (·.source.text)).Nodup :=
    found.nodup.sublist (part.sublist.map _)
  obtain ⟨before, after, second, hopened, rfl, hclash⟩ :=
    collect_error [] hnonempty rfl h
  rw [List.nil_append] at hclash
  rw [← htexts, hopened] at hdistinct
  obtain ⟨hlater, first, hearlier, hsame, hspelled⟩ := hclash.spelled hdistinct
  rw [← hopened] at hlater hearlier
  cases source with
  | configFile path => exact .twice found part hearlier hlater hsame hspelled
  | file source output =>
    -- A single source has one spelling.
    have htext : ∀ q ∈ kept (openAll c options read s').1, q.text = source.text := by
      intro q hq
      have hmem := mem_of_kept hq
      rw [htexts] at hmem
      obtain ⟨t, ht, htext⟩ := List.mem_map.mp hmem
      cases found with
      | file accepted =>
        obtain ⟨target, rfl⟩ := SourceTargets.eq_singleton_of_ofFile accepted
        rw [← htext, List.mem_singleton.mp (part.subset ht)]
    exact absurd ((htext first hearlier).trans (htext second hlater).symm) hspelled

/-- A list of pages that is read is a list of sources, or loading fails over it. -/
theorem known_of_listRead {path : Path} {answer : Except IoError String}
    (read : c.read (options.invocation.join path) s = (answer, s')) :
    (∃ pending, listRead path answer = .ok pending ∧
        Pending c options s (.configFile path) pending s') ∨
      ∃ e, listRead path answer = .error e ∧ LoadFailure c options s (.configFile path) [] e := by
  cases answer with
  | error cause => exact Or.inr ⟨_, rfl, .unreadable read⟩
  | ok text =>
    cases hparse : ConfigFile.parse text with
    | error e =>
      obtain ⟨e', rfl⟩ := ConfigFile.syntaxError_of_parse hparse
      exact Or.inr ⟨_, by rw [listRead, hparse]; rfl, .notFile read hparse⟩
    | ok file =>
      have hlist : listRead path (.ok text) = file.sources.mapError .config := by
        rw [listRead, hparse]
        rfl
      cases hsources : file.sources with
      | ok pending => exact Or.inl ⟨pending, by rw [hlist, hsources]; rfl,
          .configFile read hparse hsources⟩
      | error e =>
        obtain ⟨name, v, problem, hentry, hrefused, rfl⟩ :=
          ConfigFile.malformed_of_sources hsources
        exact Or.inr ⟨_, by rw [hlist, hsources]; rfl, .malformed read hparse hentry hrefused⟩

/-- The sources are known, or there is a reason why they are not. -/
theorem SourcesKnown.known {r : Except RunError (List SourceTargets)}
    (h : SourcesKnown options source r moves) (follows : Follows c.unwatched stage moves s s') :
    milestones moves = [] ∧
      ((∃ pending, r = .ok pending ∧ Pending c options s source pending s') ∨
        ∃ e, r = .error e ∧ LoadFailure c options s source [] e) := by
  cases h with
  | @file source output r accepted =>
    obtain rfl := Collaborators.allows_unwatched_remark.mp (Follows.singleton_iff.mp follows)
    refine ⟨rfl, ?_⟩
    subst accepted
    cases hmake : SourceTargets.ofFile source output with
    | ok pending => exact Or.inl ⟨pending, rfl, .file hmake⟩
    | error e =>
      obtain ⟨text, cause, rfl, hrefused, rfl⟩ := SourceTargets.refused_of_ofFile hmake
      exact Or.inr ⟨_, rfl, .output hrefused⟩
  | configFile answer accepted =>
    simp only [Follows.cons_iff, Follows.nil_iff, Collaborators.allows_unwatched_remark,
      Collaborators.allows_unwatched_read] at follows
    obtain ⟨_, rfl, _, read, rfl⟩ := follows
    subst accepted
    exact ⟨rfl, known_of_listRead read⟩

/-- What is found in the sources that are pending, and how that can fail. -/
theorem AllAdded.surveyed {r : Except RunError Loaded}
    (h : AllAdded options ⟨.empty, []⟩ pending r moves)
    (found : Pending c options s source pending s')
    (follows : Follows c.unwatched stage moves s' s'') :
    ∃ opened, milestones moves = skips opened ∧
      ((∃ loaded, r = .ok loaded ∧ Surveyed c options s source opened ∧
          loaded.dropped = unusable opened) ∨
        ∃ e, r = .error e ∧ LoadFailure c options s source opened e) := by
  obtain ⟨read, rest, hread, hcollect, -, hskips, hends⟩ := AllAdded.eq_openAll h follows
  refine ⟨_, hskips, ?_⟩
  cases r with
  | ok loaded =>
    rcases hends with rfl | ⟨e, herror⟩
    · rw [List.append_nil] at hread
      exact Or.inl ⟨loaded, rfl, ⟨pending, s', found, by rw [hread]⟩,
        (collect_ok hcollect.symm).2⟩
    · cases herror
  | error e => exact Or.inr ⟨e, rfl, failure_of_collect found ⟨rest, hread.symm⟩ hcollect.symm⟩

end ElmPrerender.Run
