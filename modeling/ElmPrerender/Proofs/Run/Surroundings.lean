import ElmPrerender.Run.Bench

/-!
# Arbitrary surroundings of a run

Any writes and any new directories may fail, the tools answer as they like, and standard output
takes what it likes. All of this may depend on everything that has happened before. The rules of a
bench are one kind of surroundings.
-/

namespace ElmPrerender

structure Surroundings where
  writeFault? : Bench → Path → String → Option IoError
  directoryFault? : Bench → Path → Option IoError
  build : Bench → Workspace → Except ToolchainError BuildOutcome
  render : Bench → Workspace → Except ToolchainError Batch
  /-- Whether a text is printed, and the bytes that are taken of it. -/
  print : Bench → String → Except IoError Unit × List UInt8
  flush : Bench → Except IoError Unit × List UInt8

namespace Surroundings

/-- The host that behaves so, on a bench that keeps the store and what was printed and told. -/
def host (s : Surroundings) : RunHost (StateM Bench) where
  read path := fun b => (b.store.read path, b)
  write path text := fun b =>
    match s.writeFault? b path text with
    | some e => (.error e, b)
    | none => (.ok (), { b with store := b.store.write path text })
  createDirectories path := fun b =>
    match s.directoryFault? b path with
    | some e => (.error e, b)
    | none => (.ok (), { b with store := b.store.createDirectories path })
  build w := fun b => (s.build b w, { b with calls := b.calls ++ [.compiler] })
  render w := fun b => (s.render b w, { b with calls := b.calls ++ [.renderer] })
  print text := fun b => ((s.print b text).1, { b with output := b.output ++ (s.print b text).2 })
  flush := fun b => ((s.flush b).1, { b with output := b.output ++ (s.flush b).2 })
  log event := fun b => ((), { b with log := b.log ++ [event] })

def printed (rules : BenchRules) (b : Bench) (text : String) : List UInt8 :=
  match rules.outputLimit with
  | none => Text.Utf8.ofString text
  | some limit => (Text.Utf8.ofString text).take (limit - b.output.length)

def ofRules (rules : BenchRules) : Surroundings where
  writeFault? _ path _ := if rules.unwritable.any path.same then some (.unwritable path) else none
  directoryFault? _ path :=
    if rules.uncreatable.any path.same then some (.uncreatable path) else none
  build b w := rules.build w b.store
  render b w := rules.render w b.store
  print b text :=
    (if (printed rules b text).length = (Text.Utf8.ofString text).length then .ok ()
      else .error .outputClosed, printed rules b text)
  flush _ := (if rules.flushFails then .error .outputUnflushable else .ok (), [])

/-- A bench is the host of its rules. -/
theorem host_ofRules (rules : BenchRules) : (ofRules rules).host = Bench.host rules := by
  have hwrite : (ofRules rules).host.write = (Bench.host rules).write := by
    funext path text b
    simp only [host, ofRules, Bench.host, Bench.write]
    by_cases h : rules.unwritable.any path.same <;> simp [h]
  have hcreate : (ofRules rules).host.createDirectories = (Bench.host rules).createDirectories := by
    funext path b
    simp only [host, ofRules, Bench.host, Bench.createDirectories]
    by_cases h : rules.uncreatable.any path.same <;> simp [h]
  have hprint : (ofRules rules).host.print = (Bench.host rules).print := by
    funext text b
    have hbench : (Bench.host rules).print text b =
        if (printed rules b text).length = (Text.Utf8.ofString text).length then
          (.ok (), { b with output := b.output ++ printed rules b text })
        else (.error .outputClosed, { b with output := b.output ++ printed rules b text }) := rfl
    rw [hbench]
    by_cases h : (printed rules b text).length = (Text.Utf8.ofString text).length <;>
      simp [host, ofRules, h]
  have hflush : (ofRules rules).host.flush = (Bench.host rules).flush := by
    funext b
    simp [host, ofRules, Bench.host]
  have heta : ∀ h : RunHost (StateM Bench), h = ⟨h.read, h.write, h.createDirectories, h.build,
      h.render, h.print, h.flush, h.log⟩ := fun _ => rfl
  rw [heta (ofRules rules).host, hwrite, hcreate, hprint, hflush]
  rfl

end Surroundings

theorem Bench.run_eq (rules : BenchRules) (options : RunOptions) (source : RunSource)
    (start : Stage) (b : Bench) :
    Bench.run rules options source start b =
      Run.run (Surroundings.ofRules rules).host options source start b := by
  rw [Surroundings.host_ofRules, Bench.run]

end ElmPrerender
