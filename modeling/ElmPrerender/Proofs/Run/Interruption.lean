import ElmPrerender.Proofs.Run.Willing

/-!
# Batches that are handed out in part

Any write and any new directory may fail, and standard output may take a limited number of bytes.
Whatever the keys of a batch are, the pages before the first failure have had their effect, the page
at which it lies has changed no text, and the pages behind it have had no effect at all.
-/

namespace ElmPrerender

namespace Surroundings

/-- Surroundings that print as a bench does: standard output takes so many bytes, and flushing it
may fail. -/
def printingBy (s : Surroundings) (rules : BenchRules) : Surroundings :=
  { s with print := (ofRules rules).print, flush := (ofRules rules).flush }

variable (rules : BenchRules) (b : Bench) (text : String)

theorem isPrefix_printed : printed rules b text <+: Text.Utf8.ofString text := by
  unfold printed
  split
  · exact List.prefix_refl _
  · exact List.take_prefix _ _

variable {rules b text}

theorem printed_of_printed_ok (h : ((ofRules rules).print b text).1 = .ok ()) :
    ((ofRules rules).print b text).2 = Text.Utf8.ofString text := by
  simp only [ofRules] at h ⊢
  split at h
  · rename_i hlength
    exact (isPrefix_printed rules b text).eq_of_length hlength
  · cases h

/-- A text that is not printed as a whole does not fit into what standard output still takes. -/
theorem printed_of_printed_error {e : IoError}
    (h : ((ofRules rules).print b text).1 = .error e) :
    e = .outputClosed ∧ ((ofRules rules).print b text).2 ≠ Text.Utf8.ofString text ∧
      ∃ limit, rules.outputLimit = some limit ∧
        limit < b.output.length + (Text.Utf8.ofString text).length := by
  simp only [ofRules] at h ⊢
  split at h
  · cases h
  · rename_i hlength
    cases h
    refine ⟨rfl, fun hwhole => hlength (congrArg List.length hwhole), ?_⟩
    cases hlimit : rules.outputLimit with
    | none => simp [printed, hlimit] at hlength
    | some limit =>
      refine ⟨limit, rfl, ?_⟩
      simp only [printed, hlimit, List.length_take] at hlength
      omega

theorem flush_printingBy (s : Surroundings) (rules : BenchRules) (b : Bench) :
    (s.printingBy rules).flush b =
      (if rules.flushFails then .error .outputUnflushable else .ok (), []) := rfl

end Surroundings

namespace Run

open Move

variable {s : Surroundings} {rules : BenchRules} {options : RunOptions} {stage : Stage}
  {batch : Batch} {page : RenderedPage} {b b' : Bench} {moves : List Move}

/-- What a batch leaves if each of its pages takes effect, one after the other. -/
structure TakesEffect (options : RunOptions) (batch : Batch) (b b' : Bench) : Prop where
  output : b'.output = b.output ++ (printedPages batch).flatMap fun page =>
    Text.Utf8.ofString (page.html ++ "\n\n")
  /-- The last of several pages with one path counts. -/
  saved : ∀ p page, (filedPages batch).reverse.find? (fun page => p.same (outputPath options page)) =
    some page → b'.store.file? p = some (page.html ++ "\n")
  others : ∀ p, (∀ page ∈ filedPages batch, p.same (outputPath options page) = false) →
    b'.store.file? p = b.store.file? p
  directories : b'.store.directories =
    (b.store.createAll (outputDirectories options batch)).directories
  log : b'.log = b.log ++ (filedPages batch).map fun page => .saved (outputPath options page)
  calls : b'.calls = b.calls

theorem takesEffect_distributedOn (options : RunOptions) (batch : Batch) (b : Bench) :
    TakesEffect options batch b (distributedOn options batch b) := by
  have hfiles : ∀ p, (distributedIn options b.store batch).file? p =
      (b.store.writeAll ((filedPages batch).map (pageFile options))).file? p :=
    Store.file?_congr (files_distributedIn b.store batch)
  refine ⟨rfl, ?_, ?_, Store.directories_writeAll _ _, rfl, rfl⟩
  · intro p page hlast
    have hfound : (filedPages batch).reverse.find?
        ((fun f : Path × String => p.same f.1) ∘ pageFile options) = some page := hlast
    rw [distributedOn, hfiles, Store.file?_writeAll, ← List.map_reverse, List.find?_map, hfound]
    rfl
  · intro p hother
    rw [distributedOn, hfiles]
    refine Store.file?_writeAll_of_forall b.store ?_
    intro f hf
    obtain ⟨page, hpage, rfl⟩ := List.mem_map.mp hf
    exact hother page hpage

/-- Why a page cannot be handed out. -/
inductive Obstacle (s : Surroundings) (rules : BenchRules) (options : RunOptions)
    (page : RenderedPage) (b : Bench) : IoError → Prop where
  | closed (key : page.key = Destination.standardOutputKey) {limit : Nat}
      (limited : rules.outputLimit = some limit)
      (full : limit < b.output.length + (Text.Utf8.ofString (page.html ++ "\n\n")).length) :
      Obstacle s rules options page b .outputClosed
  | directory (key : page.key ≠ Destination.standardOutputKey) {directory : Path} {e : IoError}
      (needed : enclosing? (outputPath options page) = some directory)
      (fault : s.directoryFault? b directory = some e) : Obstacle s rules options page b e
  | file (key : page.key ≠ Destination.standardOutputKey) {e : IoError}
      (fault : s.writeFault? { b with store := enclosed b.store (outputPath options page) }
        (outputPath options page) (page.html ++ "\n") = some e) : Obstacle s rules options page b e

/-- What a page has done that has not been handed out. -/
structure CutShort (options : RunOptions) (page : RenderedPage) (b b' : Bench) : Prop where
  files : b'.store.files = b.store.files
  /-- At most the directory of its file is new, with those that enclose it. -/
  store : b'.store = b.store ∨ page.key ≠ Destination.standardOutputKey ∧
    ∃ directory, enclosing? (outputPath options page) = some directory ∧
      b'.store = b.store.createDirectories directory
  /-- At most a part of its text is printed, and never the whole. -/
  output : b'.output = b.output ∨ page.key = Destination.standardOutputKey ∧
    ∃ taken, taken <+: Text.Utf8.ofString (page.html ++ "\n\n") ∧
      taken ≠ Text.Utf8.ofString (page.html ++ "\n\n") ∧ b'.output = b.output ++ taken
  log : b'.log = b.log
  calls : b'.calls = b.calls

theorem enclosed_cases (store : Store) (path : Path) :
    enclosed store path = store ∨
      ∃ directory, enclosing? path = some directory ∧
        enclosed store path = store.createDirectories directory := by
  rw [enclosed]
  cases h : enclosing? path with
  | none => exact Or.inl rfl
  | some directory => exact Or.inr ⟨directory, rfl, rfl⟩

theorem Handed.cutShort {done : Delivered} {e : RunError}
    (h : Handed options done page (.error e) moves)
    (follows : Follows (s.printingBy rules).host stage moves b b') :
    ∃ cause, e = .io cause ∧ Obstacle s rules options page b cause ∧
      CutShort options page b b' := by
  cases h with
  | unprinted key e =>
    obtain ⟨refused, rfl⟩ := answers_print.mp (Follows.singleton_iff.mp follows)
    obtain ⟨rfl, hpart, limit, hlimit, hfull⟩ :=
      Surroundings.printed_of_printed_error refused.symm
    have hprefix := Surroundings.isPrefix_printed rules b (printedText page)
    exact ⟨_, rfl, .closed key hlimit hfull,
      ⟨rfl, Or.inl rfl, Or.inr ⟨key, _, hprefix, hpart, rfl⟩, rfl, rfl⟩⟩
  | unenclosed key needed e =>
    obtain ⟨e', fault, hcause, rfl⟩ | ⟨-, hmade, -⟩ :=
      answers_createDirectories.mp (Follows.singleton_iff.mp follows)
    · cases hcause
      exact ⟨_, rfl, .directory key needed fault, ⟨rfl, Or.inl rfl, Or.inl rfl, rfl, rfl⟩⟩
    · cases hmade
  | unwritten key e =>
    obtain ⟨b₁, hdirectory, hwrite⟩ := Follows.append_iff.mp follows
    rw [hdirectory.eq_enclosed] at hwrite
    obtain ⟨e', fault, hcause, rfl⟩ | ⟨-, hwritten, -⟩ :=
      answers_write.mp (Follows.singleton_iff.mp hwrite)
    · cases hcause
      refine ⟨_, rfl, .file key fault, ⟨files_enclosed _ _, ?_, Or.inl rfl, rfl, rfl⟩⟩
      exact (enclosed_cases b.store (outputPath options page)).imp_right fun hnew => ⟨key, hnew⟩
    · cases hwritten

/-- The ways in which the handing out of a batch ends. -/
inductive DistributionEnds (s : Surroundings) (rules : BenchRules) (options : RunOptions)
    (batch : Batch) (b : Bench) : Except RunError Delivered → Bench → Prop where
  | delivered {done : Delivered} {b' : Bench} (flushed : rules.flushFails = false)
      (effect : TakesEffect options batch b b')
      (files : done.filesWritten = (filedPages batch).map (outputPath options))
      (printed : done.printed = (printedPages batch).length)
      (counted : done.printed + done.filesWritten.length = batch.length) :
      DistributionEnds s rules options batch b (.ok done) b'
  | unflushed {b' : Bench} (fault : rules.flushFails = true)
      (effect : TakesEffect options batch b b') :
      DistributionEnds s rules options batch b (.error (.io .outputUnflushable)) b'
  | interrupted {before after : Batch} {page : RenderedPage} {b₁ b' : Bench} {e : IoError}
      (split : batch = before ++ page :: after) (effect : TakesEffect options before b b₁)
      (cause : Obstacle s rules options page b₁ e) (rest : CutShort options page b₁ b') :
      DistributionEnds s rules options batch b (.error (.io e)) b'

/-- Every page is printed or filed. -/
theorem length_printedPages_add (batch : Batch) :
    (printedPages batch).length + (filedPages batch).length = batch.length := by
  have hsplit : ∀ p : RenderedPage → Bool,
      (batch.filter p).length + (batch.filter fun page => !p page).length = batch.length := by
    intro p
    simpa [List.countP_eq_length_filter] using (List.length_eq_countP_add_countP p (l := batch)).symm
  exact hsplit _

/-- Whatever the pages of a batch are, and whichever files, directories and bytes are refused, the
batch is handed out in full, or up to its first page that is refused, or in full but for the flushing
of standard output. -/
theorem distribute_ends (s : Surroundings) (rules : BenchRules) (options : RunOptions)
    (batch : Batch) (stage : Stage) (b : Bench) :
    ∃ r b', distribute (s.printingBy rules).host options batch stage b = ((r, stage), b') ∧
      DistributionEnds s rules options batch b r b' := by
  have whole : ∀ b text, ((s.printingBy rules).print b text).1 = .ok () →
      ((s.printingBy rules).print b text).2 = Text.Utf8.ofString text :=
    fun _ _ taken => Surroundings.printed_of_printed_ok taken
  obtain ⟨r, moves, b', distributed, makes, follows⟩ :=
    distribute_leads options batch Bench (s.printingBy rules).host stage b
  have hstage := stageAfter_of_entries (entries_of_passing (distributed.passing options).1) stage
  refine ⟨r, b', (makes follows).trans (by rw [hstage]), ?_⟩
  cases distributed with
  | failed handed =>
    obtain ⟨before, page, after, next, first, last, rfl, rfl, hbefore, fails⟩ :=
      handed.exists_of_error
    obtain ⟨b₁, hfirst, hlast⟩ := Follows.append_iff.mp follows
    obtain ⟨-, rfl⟩ := HandedOut.eq_of_ok whole hbefore hfirst
    obtain ⟨cause, rfl, obstacle, rest⟩ := fails.cutShort hlast
    exact .interrupted rfl (takesEffect_distributedOn options before b) obstacle rest
  | unflushed handed e =>
    obtain ⟨b₁, hpages, hflush⟩ := Follows.append_iff.mp follows
    obtain ⟨-, rfl⟩ := HandedOut.eq_of_ok whole handed hpages
    obtain ⟨hfault, rfl⟩ := answers_flush.mp (Follows.singleton_iff.mp hflush)
    rw [Surroundings.flush_printingBy] at hfault ⊢
    split at hfault
    · rename_i fault
      cases hfault
      rw [List.append_nil]
      exact .unflushed fault (takesEffect_distributedOn options batch b)
    · cases hfault
  | flushed handed =>
    obtain ⟨b₁, hpages, hflush⟩ := Follows.append_iff.mp follows
    obtain ⟨rfl, rfl⟩ := HandedOut.eq_of_ok whole handed hpages
    obtain ⟨hflushed, rfl⟩ := answers_flush.mp (Follows.singleton_iff.mp hflush)
    rw [Surroundings.flush_printingBy] at hflushed ⊢
    split at hflushed
    · cases hflushed
    · rename_i quiet
      rw [List.append_nil]
      refine .delivered (Bool.eq_false_iff.mpr quiet) (takesEffect_distributedOn options batch b)
        (List.nil_append _) (Nat.zero_add _) ?_
      rw [List.nil_append, Nat.zero_add, List.length_map]
      exact length_printedPages_add batch

/-- Standard output has room for the first text and for two bytes of the second one. -/
example :
    (fun left : Bench => (left.output, left.store.files))
      (distribute
        (Bench.host ⟨[], [], fun _ _ => .ok (.failed 1), fun _ _ => .ok [], some 6, false⟩)
        ⟨⟨"/d"⟩, ⟨⟨"/w"⟩⟩, .standard⟩
        [⟨"::stdout", "ab"⟩, ⟨"x/y.html", "c"⟩, ⟨"::stdout", "def"⟩, ⟨"z", ""⟩] .distributing
        (.ofStore .empty)).2 =
      (Text.Utf8.ofString "ab\n\nde", [(⟨"/d/x/y.html"⟩, "c\n")]) := by
  decide +kernel

end Run

end ElmPrerender
