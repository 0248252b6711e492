import ElmPrerender.Proofs.Configuration.Built
import ElmPrerender.Proofs.Results
import ElmPrerender.Proofs.Run.Collaborators
import ElmPrerender.Proofs.Run.Course

/-!
# What is found in the sources

The sources are opened one after the other, each in the state that the one before has left. A source
without a usable module is left out and nothing more; a source is only refused if it is the same
file as one that is kept.
-/

namespace ElmPrerender.Run

open Move

variable {σ : Type} (c : Collaborators σ) (options : RunOptions)

/-- The module that a source declares when it is opened. -/
def openSource (source : Path) : StateM σ (Except SourceProblem ModuleName) :=
  moduleRead <$> c.read (options.invocation.join source)

def openAll : List SourceTargets → StateM σ (List Opened)
  | [], s => ([], s)
  | t :: rest, s =>
    let (found, s₁) := openSource c options t.source s
    let (others, s₂) := openAll rest s₁
    ((t, found) :: others, s₂)

/-- The sources whose module was found. -/
def kept (opened : List Opened) : List Path :=
  opened.filterMap fun
    | (t, .ok _) => some t.source
    | (_, .error _) => none

theorem kept_append (first second : List Opened) :
    kept (first ++ second) = kept first ++ kept second :=
  List.filterMap_append

theorem problems_append (first second : List Opened) :
    problems (first ++ second) = problems first ++ problems second :=
  List.filterMap_append

def unusable (opened : List Opened) : List Path := (problems opened).map Prod.fst

theorem unusable_append (first second : List Opened) :
    unusable (first ++ second) = unusable first ++ unusable second := by
  rw [unusable, problems_append, List.map_append]
  rfl

theorem skips_append (first second : List Opened) :
    skips (first ++ second) = skips first ++ skips second := by
  rw [skips, problems_append, List.map_append]
  rfl

theorem openAll_cons (t : SourceTargets) (rest : List SourceTargets) (s : σ) :
    openAll c options (t :: rest) s =
      ((t, (openSource c options t.source s).1) ::
        (openAll c options rest (openSource c options t.source s).2).1,
        (openAll c options rest (openSource c options t.source s).2).2) := rfl

theorem map_fst_openAll (sources : List SourceTargets) (s : σ) :
    (openAll c options sources s).1.map Prod.fst = sources := by
  induction sources generalizing s with
  | nil => rfl
  | cons t rest ih => exact congrArg (t :: ·) (ih _)

def collect (loaded : Loaded) (opened : List Opened) : Except RunError Loaded :=
  opened.foldlM collectOne loaded

theorem collect_cons (loaded : Loaded) (o : Opened) (rest : List Opened) :
    collect loaded (o :: rest) = collectOne loaded o >>= fun next => collect next rest :=
  List.foldlM_cons ..

/-- The sources of the modules that are loaded. -/
def Loaded.sources (loaded : Loaded) : List Path := loaded.config.specs.map (·.source)

theorem collectOne_ok {loaded next : Loaded} {o : Opened} (h : collectOne loaded o = .ok next) :
    next.sources = loaded.sources ++ kept [o] ∧ next.dropped = loaded.dropped ++ unusable [o] := by
  obtain ⟨t, found⟩ := o
  cases found with
  | error problem =>
    cases h
    exact ⟨(List.append_nil _).symm, rfl⟩
  | ok name =>
    cases hadd : addModule loaded.config t name with
    | error e =>
      simp only [collectOne, hadd] at h
      cases h
    | ok config =>
      simp only [collectOne, hadd] at h
      cases h
      obtain ⟨spec, hmake, hpush⟩ := bind_eq_ok_iff.mp hadd
      obtain ⟨-, rfl⟩ := ModuleSpec.make_eq_ok_iff.mp hmake
      obtain ⟨-, rfl⟩ := RenderConfiguration.push_eq_ok_iff.mp hpush
      exact ⟨List.map_append, (List.append_nil _).symm⟩

/-- A source with pages is only refused if it is there already. -/
theorem collectOne_error {loaded : Loaded} {o : Opened} {e : RunError}
    (nonempty : o.1.targets ≠ []) (h : collectOne loaded o = .error e) :
    e = .domain (.configuredTwice o.1.source) ∧ kept [o] = [o.1.source] ∧
      ∃ q ∈ loaded.sources, q.same o.1.source = true := by
  obtain ⟨t, found⟩ := o
  cases found with
  | error problem => cases h
  | ok name =>
    have hmake : ModuleSpec.make t.source name t.targets = .ok ⟨t.source, name, t.targets⟩ :=
      ModuleSpec.make_eq_ok_iff.mpr ⟨nonempty, rfl⟩
    have hadd : addModule loaded.config t name =
        loaded.config.push ⟨t.source, name, t.targets⟩ := by
      rw [addModule, hmake]
      rfl
    by_cases htwice : loaded.config.hasSource t.source = true
    · simp only [collectOne, hadd, RenderConfiguration.push, if_pos htwice] at h
      cases h
      obtain ⟨spec, hspec, hsame⟩ := List.any_eq_true.mp htwice
      exact ⟨rfl, rfl, spec.source, List.mem_map_of_mem hspec, hsame⟩
    · simp only [collectOne, hadd, RenderConfiguration.push, if_neg htwice] at h
      cases h

theorem collect_ok {loaded final : Loaded} {opened : List Opened}
    (h : collect loaded opened = .ok final) :
    final.sources = loaded.sources ++ kept opened ∧
      final.dropped = loaded.dropped ++ unusable opened := by
  induction opened generalizing loaded with
  | nil =>
    cases h
    exact ⟨(List.append_nil _).symm, (List.append_nil _).symm⟩
  | cons o rest ih =>
    rw [collect_cons] at h
    cases hfirst : collectOne loaded o with
    | error e =>
      rw [hfirst] at h
      cases h
    | ok next =>
      rw [hfirst] at h
      obtain ⟨hsources, hdropped⟩ := collectOne_ok hfirst
      obtain ⟨hrestSources, hrestDropped⟩ := ih h
      constructor
      · rw [hrestSources, hsources, List.append_assoc, ← kept_append]
        rfl
      · rw [hrestDropped, hdropped, List.append_assoc, ← unusable_append]
        rfl

/-- The last of some opened sources is kept, and so is an earlier one that is the same file. -/
def Clash (opened : List Opened) (source : Path) : Prop :=
  ∃ before o, opened = before ++ [o] ∧ o.1.source = source ∧ kept [o] = [source] ∧
    ∃ q ∈ kept before, q.same source = true

/-- Collecting fails at the first source that is there already. -/
theorem collect_error {opened : List Opened} (done : List Opened) {loaded : Loaded} {e : RunError}
    (nonempty : ∀ o ∈ opened, o.1.targets ≠ []) (hloaded : loaded.sources = kept done)
    (h : collect loaded opened = .error e) :
    ∃ before after source, opened = before ++ after ∧ e = .domain (.configuredTwice source) ∧
      Clash (done ++ before) source := by
  induction opened generalizing done loaded with
  | nil => cases h
  | cons o rest ih =>
    rw [collect_cons] at h
    cases hfirst : collectOne loaded o with
    | error e' =>
      rw [hfirst] at h
      cases h
      obtain ⟨rfl, hkept, q, hq, hsame⟩ :=
        collectOne_error (nonempty o List.mem_cons_self) hfirst
      exact ⟨[o], rest, o.1.source, rfl, rfl, done, o, rfl, rfl, hkept, q, hloaded ▸ hq, hsame⟩
    | ok next =>
      rw [hfirst] at h
      have hnext : next.sources = kept (done ++ [o]) := by
        rw [(collectOne_ok hfirst).1, hloaded, kept_append]
      obtain ⟨before, after, source, rfl, rfl, hclash⟩ :=
        ih _ (fun p hp => nonempty p (List.mem_cons_of_mem _ hp)) hnext h
      refine ⟨o :: before, after, source, rfl, rfl, ?_⟩
      rwa [List.append_assoc, List.singleton_append] at hclash

theorem mem_of_kept {opened : List Opened} {q : Path} (h : q ∈ kept opened) :
    q.text ∈ opened.map (·.1.source.text) := by
  obtain ⟨⟨t, found⟩, hmem, hsome⟩ := List.mem_filterMap.mp h
  cases found with
  | error problem => cases hsome
  | ok name =>
    cases hsome
    exact List.mem_map_of_mem (f := fun o : Opened => o.1.source.text) hmem

/-- Sources without a repeated spelling that clash are spelled differently. -/
theorem Clash.spelled {opened after : List Opened} {second : Path} (h : Clash opened second)
    (distinct : ((opened ++ after).map (·.1.source.text)).Nodup) :
    second ∈ kept (opened ++ after) ∧ ∃ first ∈ kept (opened ++ after),
      first.same second = true ∧ first.text ≠ second.text := by
  obtain ⟨before, o, rfl, rfl, hkept, first, hfirst, hsame⟩ := h
  have hall : kept (before ++ [o] ++ after) = kept before ++ [o.1.source] ++ kept after := by
    rw [← hkept, kept_append, kept_append]
  rw [hall]
  refine ⟨by simp, first, by simp [hfirst], hsame, ?_⟩
  intro htext
  rw [List.append_assoc, List.map_append, List.nodup_append] at distinct
  exact distinct.2.2 _ (mem_of_kept hfirst) o.1.source.text (by simp) htext

section Adding

variable {c options} {stage : Stage} {s s' : σ} {moves : List Move}

/-- One source is opened, and told if it is left out. -/
theorem Added.eq_openSource {loaded : Loaded} {t : SourceTargets} {r : Except RunError Loaded}
    (h : Added options loaded t r moves) (follows : Follows c.unwatched stage moves s s') :
    r = collectOne loaded (t, (openSource c options t.source s).1) ∧
      s' = (openSource c options t.source s).2 ∧
      milestones moves = skips [(t, (openSource c options t.source s).1)] := by
  obtain ⟨answer, rfl⟩ := h
  obtain ⟨s₁, hread, hskips⟩ := Follows.cons_iff.mp follows
  have hopen : openSource c options t.source s = (moduleRead answer, s₁) :=
    congrArg (Prod.map moduleRead id) hread
  rw [hopen]
  refine ⟨rfl, ?_, milestones_skips _⟩
  cases hfound : moduleRead answer with
  | ok name =>
    rw [hfound] at hskips
    exact Follows.nil_iff.mp hskips
  | error problem =>
    rw [hfound] at hskips
    exact Collaborators.allows_unwatched_remark.mp (Follows.singleton_iff.mp hskips)

/-- The sources are opened up to the first that cannot be added. -/
theorem AllAdded.eq_openAll {loaded : Loaded} {pending : List SourceTargets}
    {r : Except RunError Loaded} (h : AllAdded options loaded pending r moves)
    (follows : Follows c.unwatched stage moves s s') :
    ∃ read rest, pending = read ++ rest ∧ r = collect loaded (openAll c options read s).1 ∧
      s' = (openAll c options read s).2 ∧ milestones moves = skips (openAll c options read s).1 ∧
      (rest = [] ∨ ∃ e, r = .error e) := by
  induction h generalizing stage s with
  | nil loaded => exact ⟨[], [], rfl, rfl, Follows.nil_iff.mp follows, rfl, Or.inl rfl⟩
  | @next loaded next t rest r first others step behind ih =>
    obtain ⟨s₁, hfirst, hothers⟩ := Follows.append_iff.mp follows
    obtain ⟨hnext, rfl, hskips⟩ := step.eq_openSource hfirst
    obtain ⟨read, unread, rfl, rfl, rfl, hmore, hends⟩ := ih hothers
    refine ⟨t :: read, unread, rfl, ?_, rfl, ?_, hends⟩
    · rw [openAll_cons, collect_cons, ← hnext]
      rfl
    · rw [milestones_append, hskips, hmore, ← skips_append]
      rfl
  | @failed loaded t rest e moves step =>
    obtain ⟨herror, rfl, hskips⟩ := step.eq_openSource follows
    refine ⟨[t], rest, rfl, ?_, rfl, hskips, Or.inr ⟨e, rfl⟩⟩
    rw [openAll_cons, collect_cons, ← herror]
    rfl

end Adding

end ElmPrerender.Run
