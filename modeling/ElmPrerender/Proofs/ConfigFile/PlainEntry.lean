import ElmPrerender.Proofs.ConfigFile.Schema

/-!
# Spellings of one page with the default view

A bare output, a record that names the default view, and a list of this one record are entries of
the same page, or are refused for the same reason. None of them can be told from the others in a
file, and alone in a file they stand for the single file with that output.
-/

namespace ElmPrerender

namespace ConfigFile

/-- The ways to write an entry for one page with the default view. -/
inductive PlainEntry (output : String) : Json.Value → Prop
  | text : PlainEntry output (.string output)
  | record {members : Json.Members} (fields : Fields output "view" members) :
      PlainEntry output (.object members)
  | list {members : Json.Members} (fields : Fields output "view" members) :
      PlainEntry output (.array [.object members])

variable {output : String} {v w : Json.Value}

/-- A record is looked at like a bare output once its view is known to be the default one. -/
theorem recordTarget_of_fields {members : Json.Members} (fields : Fields output "view" members) :
    recordTarget members = plainTarget output := by
  have hrecord : TargetRecord.ofMembers members = .ok ⟨output, "view"⟩ := by
    cases fields <;> rfl
  have hview : EntryFunction.parse "view" = .ok .view := EntryFunction.grammatical_view.parse
  simp only [recordTarget, plainTarget, hrecord, hview]

theorem PlainEntry.entryTargets (h : PlainEntry output v) :
    entryTargets v = (plainTarget output).map fun page => [page] := by
  cases h with
  | text => cases hpage : plainTarget output <;> simp only [ConfigFile.entryTargets, hpage] <;> rfl
  | record fields =>
    rw [ConfigFile.entryTargets, recordTarget_of_fields fields]
    cases plainTarget output <;> rfl
  | list fields =>
    have hitem : itemTarget (.object _) = plainTarget output := recordTarget_of_fields fields
    rw [ConfigFile.entryTargets, List.mapM_cons, hitem]
    · cases plainTarget output <;> rfl
    · simp

theorem PlainEntry.sourceOf (h : PlainEntry output v) (name : String) :
    sourceOf (name, v) =
      match plainTarget output with
      | .ok page => .ok ⟨⟨name⟩, [page]⟩
      | .error problem => .error (.malformed name problem) := by
  rw [ConfigFile.sourceOf, h.entryTargets]
  cases plainTarget output <;> rfl

/-- Spellings can be exchanged, whatever stands before and behind them. -/
theorem PlainEntry.sources_exchange (hv : PlainEntry output v) (hw : PlainEntry output w)
    (name : String) (before after : Json.Members) :
    sources ⟨before ++ (name, v) :: after⟩ = sources ⟨before ++ (name, w) :: after⟩ := by
  rw [sources, sources, List.mapM_append, List.mapM_append, List.mapM_cons, List.mapM_cons,
    hv.sourceOf, hw.sourceOf]

/-- Alone in a file, an entry stands for a single file with its output. -/
theorem PlainEntry.sources_singleton (h : PlainEntry output v) (name : String) :
    sources ⟨[(name, v)]⟩ = SourceTargets.ofFile ⟨name⟩ (some output) := by
  rw [sources, List.mapM_cons, List.mapM_nil, h.sourceOf, SourceTargets.ofFile]
  cases plainTarget output <;> rfl

end ConfigFile

theorem SourceTargets.ofFile_none (source : Path) :
    SourceTargets.ofFile source none = SourceTargets.ofFile source (some "::stdout") := rfl

end ElmPrerender
