import ElmPrerender.Proofs.Configuration.Built
import ElmPrerender.Proofs.Elm.DriverReader

/-!
# Nothing can be injected into a generated program

Every built configuration is read back from its program, for all destinations. All other text is
the same for every configuration, so the program determines its imports, its pages and its format.
-/

namespace ElmPrerender.Elm

/-- `once` lists the members of `all`, each once, in the order of their first occurrences: the
members of a prefix are a prefix. -/
structure FirstOccurrences {α : Type} (all once : List α) : Prop where
  nodup : once.Nodup
  mem_iff : ∀ a, a ∈ once ↔ a ∈ all
  order : ∀ p, p <+: all → ∃ q, q <+: once ∧ ∀ a, a ∈ q ↔ a ∈ p

theorem nodup_eraseDups {α : Type} [DecidableEq α] (all : List α) : all.eraseDups.Nodup := by
  match all with
  | [] => simp
  | a :: rest =>
    rw [List.eraseDups_cons, List.nodup_cons]
    refine ⟨?_, nodup_eraseDups _⟩
    intro ha
    simp [List.mem_eraseDups] at ha
termination_by all.length
decreasing_by exact Nat.lt_succ_of_le (List.length_filter_le _ _)

theorem firstOccurrences_eraseDups {α : Type} [DecidableEq α] (all : List α) :
    FirstOccurrences all all.eraseDups := by
  refine ⟨nodup_eraseDups all, fun a => List.mem_eraseDups, ?_⟩
  rintro p ⟨rest, rfl⟩
  exact ⟨p.eraseDups, by rw [List.eraseDups_append]; exact List.prefix_append .., fun a =>
    List.mem_eraseDups⟩

namespace Driver

variable {admits : Destination → Prop} {config : RenderConfiguration}

theorem ofConfiguration_imports_grammatical (h : config.WellFormed admits) (format : Format) :
    ∀ m ∈ (ofConfiguration config format).imports, m.Grammatical := by
  intro m hm
  obtain ⟨spec, hspec, rfl⟩ := List.mem_map.mp (List.mem_eraseDups.mp hm)
  exact (h.specs spec hspec).name

theorem ofConfiguration_bindings_grammatical (h : config.WellFormed admits) (format : Format) :
    ∀ b ∈ (ofConfiguration config format).bindings, b.Grammatical := by
  intro b hb
  obtain ⟨spec, hspec, hb⟩ := List.mem_flatMap.mp hb
  obtain ⟨target, htarget, rfl⟩ := List.mem_map.mp hb
  exact ⟨(h.specs spec hspec).name, (h.specs spec hspec).entries target htarget⟩

theorem read?_render_ofConfiguration (h : config.WellFormed admits) (format : Format) :
    DriverReader.read? (ofConfiguration config format).render =
      some (ofConfiguration config format) :=
  DriverReader.read?_render (ofConfiguration_imports_grammatical h format)
    (ofConfiguration_bindings_grammatical h format)

theorem length_bindings (config : RenderConfiguration) (format : Format) :
    (ofConfiguration config format).bindings.length = config.targetCount := by
  cases config with
  | mk specs =>
    induction specs with
    | nil => rfl
    | cons spec rest ih =>
      simp only [ofConfiguration, RenderConfiguration.targetCount, List.flatMap_cons, bindingsOf,
        List.length_append, List.length_map, List.map_cons, List.foldr_cons] at ih ⊢
      rw [ih]

/-- Each module has a page, so only the empty configuration has none. -/
theorem bindings_eq_nil_iff (h : config.WellFormed admits) (format : Format) :
    (ofConfiguration config format).bindings = [] ↔ config = .empty := by
  constructor
  · intro hb
    cases hspecs : config.specs with
    | nil => rw [RenderConfiguration.empty, ← hspecs]
    | cons spec rest =>
      have hspec : spec ∈ config.specs := by simp [hspecs]
      have hnil := List.flatMap_eq_nil_iff.mp hb spec hspec
      exact absurd (List.map_eq_nil_iff.mp hnil) (h.specs spec hspec).nonempty
  · rintro rfl
    rfl

/-- The lines of a generated program. -/
def textLines (config : RenderConfiguration) (format : Format) : List (List Char) :=
  List.splitOn '\n' (ofConfiguration config format).render.toList

theorem textLines_eq (h : config.WellFormed admits) (format : Format) :
    textLines config format = (ofConfiguration config format).lines.map String.toList ++ [[]] :=
  splitOn_render (ofConfiguration_imports_grammatical h format)
    (ofConfiguration_bindings_grammatical h format)

theorem countP_textLines (h : config.WellFormed admits) (format : Format) :
    (textLines config format).countP isPageLine = config.targetCount := by
  have hempty : isPageLine [] = false := rfl
  rw [textLines_eq h, List.countP_append,
    countP_lines (ofConfiguration_imports_grammatical h format), length_bindings]
  simp [hempty]

theorem emptyListLine_mem_textLines (h : config.WellFormed admits) (format : Format) :
    emptyListLine ∈ textLines config format ↔ config = .empty := by
  rw [textLines_eq h, List.mem_append, emptyListLine_mem_lines
    (ofConfiguration_imports_grammatical h format), bindings_eq_nil_iff h]
  simp [emptyListLine]

/-- The pages of a configuration, file by file and then target by target. -/
def pagesOf (config : RenderConfiguration) : List Binding :=
  config.specs.flatMap fun spec =>
    spec.targets.map fun t => ⟨t.destination.key, spec.moduleName, t.entry⟩

/-- A generated program is read back for arbitrary destinations: its imports, its pages, each on
one line, and its format. The rest of its text is fixed, so the text determines all three, and the
empty list of pages belongs to the empty configuration only. -/
theorem program_determines_pages :
    (∀ config : RenderConfiguration, config.Built (fun _ => True) → ∀ format : Format,
      ∃ modules, FirstOccurrences (config.specs.map (·.moduleName)) modules ∧
        DriverReader.read? (ofConfiguration config format).render =
          some ⟨modules, pagesOf config, format⟩ ∧
        (textLines config format).countP isPageLine = config.targetCount ∧
        (emptyListLine ∈ textLines config format ↔ config = .empty)) ∧
    (∃ first second third fourth : List (List Char),
      ∀ config : RenderConfiguration, config.Built (fun _ => True) → ∀ format : Format,
        textLines config format =
          first ++ (importLines (ofConfiguration config format).imports).map String.toList ++
          second ++ [(formatLine format).toList] ++
          third ++ (elementLines ((pagesOf config).map expression)).map String.toList ++ fourth) ∧
    (∀ config other : RenderConfiguration, config.Built (fun _ => True) →
      other.Built (fun _ => True) → ∀ format otherFormat : Format,
        (ofConfiguration config format).render = (ofConfiguration other otherFormat).render →
          (ofConfiguration config format).imports = (ofConfiguration other otherFormat).imports ∧
          pagesOf config = pagesOf other ∧ format = otherFormat) := by
  refine ⟨?_, ?_, ?_⟩
  · intro config built format
    have h := built.wellFormed
    exact ⟨(ofConfiguration config format).imports, firstOccurrences_eraseDups _,
      read?_render_ofConfiguration h format, countP_textLines h format,
      emptyListLine_mem_textLines h format⟩
  · refine ⟨opening.map String.toList, middle.map String.toList, beforePages.map String.toList,
      ending.map String.toList ++ [[]], ?_⟩
    intro config built format
    rw [textLines_eq built.wellFormed, lines_eq]
    simp only [List.map_append, List.map_cons, List.map_nil, List.append_assoc]
    rfl
  · intro config other built builtOther format otherFormat same
    have hread := read?_render_ofConfiguration built.wellFormed format
    rw [same, read?_render_ofConfiguration builtOther.wellFormed otherFormat] at hread
    have heq := Option.some.inj hread
    exact ⟨congrArg Driver.imports heq.symm, congrArg Driver.bindings heq.symm,
      congrArg Driver.format heq.symm⟩

/-- A page whose destination looks like the end of its element and the start of another. -/
def intrusiveTarget : RenderTarget :=
  ⟨.file ⟨"a.html\", Main.view )\n    , decode ( \"\\"⟩, .view⟩

def intrusiveConfiguration : RenderConfiguration :=
  ⟨[⟨⟨"src/Main.elm"⟩, ⟨"Main"⟩, [intrusiveTarget]⟩]⟩

theorem intrusiveConfiguration_reads_back :
    intrusiveConfiguration.Built (fun _ => True) ∧
      (∃ modules, FirstOccurrences [⟨"Main"⟩] modules ∧
        DriverReader.read? (ofConfiguration intrusiveConfiguration .standard).render =
          some ⟨modules, pagesOf intrusiveConfiguration, .standard⟩ ∧
        (textLines intrusiveConfiguration .standard).countP isPageLine = 1 ∧
        (emptyListLine ∈ textLines intrusiveConfiguration .standard ↔
          intrusiveConfiguration = .empty)) := by
  have built : intrusiveConfiguration.Built (fun _ => True) := by
    have named : ModuleName.parse "Main" = .ok ⟨"Main"⟩ := by decide
    have made : ModuleSpec.make ⟨"src/Main.elm"⟩ ⟨"Main"⟩ [intrusiveTarget] =
        .ok ⟨⟨"src/Main.elm"⟩, ⟨"Main"⟩, [intrusiveTarget]⟩ := rfl
    refine .push .empty named ?_ (fun _ _ => trivial) made rfl
    intro t ht
    rw [List.mem_singleton.mp ht]
    exact ⟨"view", rfl⟩
  exact ⟨built, program_determines_pages.1 intrusiveConfiguration built .standard⟩

end Driver

end ElmPrerender.Elm
