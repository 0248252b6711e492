import ElmPrerender.Settings.Resolve
import Mathlib.Logic.Function.Basic

/-!
Settings as layers. A layer gives values to some of the keys; a key takes its value from the highest
layer that gives one, whatever the other keys do, and a standard value stands below all layers. Only
the values that come out of this are accepted or refused.
-/

namespace ElmPrerender.Settings

namespace Key

/-- What a setting holds. -/
@[reducible] def Value : Key → Type
  | .level | .directory | .elmMakePath | .nodePath => String
  | .json | .newLines => Bool
  | .indent => Nat

instance decidableEqValue : (k : Key) → DecidableEq k.Value
  | .level | .directory | .elmMakePath | .nodePath => inferInstanceAs (DecidableEq String)
  | .json | .newLines => inferInstanceAs (DecidableEq Bool)
  | .indent => inferInstanceAs (DecidableEq Nat)

/-- All settings, in the order in which their values are checked. -/
def all : List Key := [.level, .json, .directory, .elmMakePath, .nodePath, .indent, .newLines]

theorem mem_all (k : Key) : k ∈ all := by
  cases k <;> decide

/-- The value that a tree has for a setting. -/
def read : (k : Key) → Tree → Except (Unexpected × String) k.Value
  | .level | .directory | .elmMakePath | .nodePath => Tree.asText
  | .json | .newLines => Tree.asBool
  | .indent => Tree.asNat

/-- The value where no layer gives one. -/
def standard : (k : Key) → k.Value
  | .level => "warn"
  | .json => false
  | .directory => Workspace.defaultDirectory.text
  | .elmMakePath => Draft.standardElmMake
  | .nodePath => Draft.standardNode
  | .indent => Elm.Format.standard.indent
  | .newLines => Elm.Format.standard.newLines

/-- Levels have to be known, paths must not be empty and the indentation is limited. -/
def accepts : (k : Key) → k.Value → Bool
  | .level, s => (Log.Threshold.parse? s).isSome
  | .directory, s | .elmMakePath, s | .nodePath, s => !s.isEmpty
  | .indent, n => n ≤ maxIndent
  | .json, _ | .newLines, _ => true

end Key

/-- A layer: values for some of the settings. -/
abbrev Assignment := (k : Key) → Option k.Value

namespace Assignment

def empty : Assignment := fun _ => none

/-- One layer above another. -/
def laidOver (above below : Assignment) : Assignment := fun k => (above k).or (below k)

/-- What the options of the command line give. Line breaks have none. -/
def ofOptions (a : Arguments) : Assignment
  | .level => a.logLevel
  | .json => a.logJson
  | .directory => a.workspaceDir
  | .elmMakePath => a.elmMakePath
  | .nodePath => a.nodePath
  | .indent => a.indent
  | .newLines => none

/-- Being verbose is a layer of its own. -/
def ofVerbosity (a : Arguments) : Assignment
  | .level => if a.verbose then some "debug" else none
  | .json | .directory | .elmMakePath | .nodePath | .indent | .newLines => none

end Assignment

/-- The value of each setting in the first layer that gives one. -/
def valuesOf (layers : List Assignment) (k : Key) : k.Value :=
  (layers.findSome? fun layer => layer k).getD k.standard

/-- The first of some settings whose value is not accepted. -/
def firstRefused (keys : List Key) (v : (k : Key) → k.Value) : Option Key :=
  keys.find? fun k => !k.accepts (v k)

theorem firstRefused_cons (k : Key) (keys : List Key) (v : (k : Key) → k.Value) :
    firstRefused (k :: keys) v =
      if k.accepts (v k) = true then firstRefused keys v else some k := by
  cases h : k.accepts (v k) <;> simp [firstRefused, h]

/-- Nothing is refused exactly when every value is accepted. -/
theorem firstRefused_all_eq_none_iff (v : (k : Key) → k.Value) :
    firstRefused Key.all v = none ↔ ∀ k : Key, k.accepts (v k) = true := by
  simp only [firstRefused, List.find?_eq_none, Bool.not_eq_true, Bool.not_eq_false']
  constructor
  · intro h k
    exact h k (Key.mem_all k)
  · intro h k _
    exact h k

/-- Accepted settings hold these values. -/
structure Carries (s : Settings) (v : (k : Key) → k.Value) : Prop where
  threshold : Log.Threshold.parse? (v .level) = some s.threshold
  json : s.json = v .json
  workspace : s.workspace.text = v .directory
  elmMake : s.elmMake.text = v .elmMakePath
  node : s.node.text = v .nodePath
  indent : s.format.indent = v .indent
  newLines : s.format.newLines = v .newLines

/-- What values come to when some settings are checked in turn: settings that hold the values, or
the first setting that is refused. -/
def Judged (keys : List Key) (v : (k : Key) → k.Value) (result : Except SettingsError Settings) :
    Prop :=
  match firstRefused keys v with
  | none => ∃ s, result = .ok s ∧ Carries s v
  | some k => ∃ r : Refusal, result = .error (.refused r) ∧ r.key = k

/-- A check of one value: it goes through with a good result, or its setting is the one refused. -/
def Checked {α : Type} (k : Key) (value : k.Value) (good : α → Prop)
    (result : Except SettingsError α) : Prop :=
  (k.accepts value = true ∧ ∃ x, result = .ok x ∧ good x) ∨
    (k.accepts value = false ∧ ∃ r : Refusal, result = .error (.refused r) ∧ r.key = k)

section Judged

variable {k : Key} {keys : List Key} {v : (k : Key) → k.Value}

theorem Judged.done {s : Settings} (h : Carries s v) : Judged [] v (.ok s) :=
  ⟨s, rfl, h⟩

/-- A setting of which every value is accepted needs no check. -/
theorem Judged.pass {result : Except SettingsError Settings} (hk : k.accepts (v k) = true)
    (h : Judged keys v result) : Judged (k :: keys) v result := by
  rw [Judged, firstRefused_cons, if_pos hk]
  exact h

/-- One check, and then the others if it goes through. -/
theorem Judged.step {α : Type} {good : α → Prop} {result : Except SettingsError α}
    {rest : α → Except SettingsError Settings} (hk : Checked k (v k) good result)
    (h : ∀ x, good x → Judged keys v (rest x)) : Judged (k :: keys) v (result >>= rest) := by
  rcases hk with ⟨haccepts, x, hresult, hgood⟩ | ⟨hrefuses, r, hresult, hr⟩
  · rw [hresult]
    exact Judged.pass haccepts (h x hgood)
  · rw [Judged, firstRefused_cons, if_neg (Bool.eq_false_iff.mp hrefuses), hresult]
    exact ⟨r, rfl, hr⟩

/-- Settings come about exactly when every value is accepted. -/
theorem Judged.ok_iff {result : Except SettingsError Settings} (h : Judged Key.all v result) :
    (∃ s, result = .ok s) ↔ ∀ k : Key, k.accepts (v k) = true := by
  rw [← firstRefused_all_eq_none_iff]
  unfold Judged at h
  cases hrefused : firstRefused Key.all v with
  | none =>
    rw [hrefused] at h
    obtain ⟨s, hs, _⟩ := h
    exact ⟨fun _ => rfl, fun _ => ⟨s, hs⟩⟩
  | some k =>
    rw [hrefused] at h
    obtain ⟨r, hr, _⟩ := h
    constructor
    · rintro ⟨s, hs⟩
      cases hs.symm.trans hr
    · intro hnone
      cases hnone

end Judged

namespace Draft

/-- The draft of a layer. -/
def ofAssignment (A : Assignment) : Draft :=
  { level := A .level
    json := A .json
    directory := A .directory
    elmMakePath := A .elmMakePath
    nodePath := A .nodePath
    indent := A .indent
    newLines := A .newLines }

theorem override_ofAssignment (A : Assignment) (a : Arguments) :
    (ofAssignment A).override a =
      ofAssignment ((Assignment.ofOptions a).laidOver ((Assignment.ofVerbosity a).laidOver A)) := by
  have hLevel : (if a.verbose then some "debug" else A .level) =
      (if a.verbose then some "debug" else none : Option String).or (A .level) := by
    cases a.verbose <;> rfl
  simp [override, ofAssignment, Assignment.laidOver, Assignment.ofOptions, Assignment.ofVerbosity,
    hLevel]

/-- A value of the right kind is taken over. -/
theorem brought_of_ok {α : Type} {kind : Tree → Except (Unexpected × String) α}
    {label : String} {t : Tree} {v : α} (hNothing : ∀ origin, ∃ e, kind (.scalar origin .nothing) = .error e)
    (h : kind t = .ok v) : brought kind label t = .ok (some v) := by
  unfold brought
  split
  · rename_i origin
    obtain ⟨e, he⟩ := hNothing origin
    rw [he] at h
    cases h
  · rw [h]

/-- Taking over the value of one setting leaves the others as they are. -/
theorem setValue_of_read {k : Key} {t : Tree} {v : k.Value} (A : Assignment) (label : String)
    (h : k.read t = .ok v) :
    (ofAssignment A).setValue k label t = .ok (ofAssignment (Function.update A k (some v))) := by
  have hbrought : brought k.read label t = .ok (some v) :=
    brought_of_ok (by intro origin; cases k <;> exact ⟨_, rfl⟩) h
  have hset : (ofAssignment A).setValue k label t =
      brought k.read label t >>= fun v => pure (ofAssignment (Function.update A k v)) := by
    cases k <;> rfl
  rw [hset, hbrought]
  rfl

theorem checkedThreshold_checked (value : Option String) :
    Checked .level (value.getD Key.level.standard)
      (fun t => Log.Threshold.parse? (value.getD Key.level.standard) = some t)
      (checkedThreshold value) := by
  have hWarn : Log.Threshold.parse? "warn" = some (.atLeast .warn) := by decide +kernel
  cases value with
  | none => exact Or.inl ⟨by decide +kernel, _, rfl, hWarn⟩
  | some s =>
    cases h : Log.Threshold.parse? s with
    | some t => exact Or.inl ⟨by simp [Key.accepts, h], t, by simp [checkedThreshold, h], h⟩
    | none =>
      exact Or.inr ⟨by simp [Key.accepts, h], .level, by simp [checkedThreshold, h], rfl⟩

/-- The three paths are checked alike, each against its own standard. -/
theorem checkedPath_checked {k : Key} {v : k.Value} {value : Option String} {standard : String}
    {r : Refusal} (hr : r.key = k) (hAccepts : k.accepts v = !(value.getD standard).isEmpty) :
    Checked k v (fun p => p = ⟨value.getD standard⟩) (checkedPath value standard r) := by
  cases h : (value.getD standard).isEmpty with
  | false => exact Or.inl ⟨by simp [hAccepts, h], _, by simp [checkedPath, h], rfl⟩
  | true => exact Or.inr ⟨by simp [hAccepts, h], r, by simp [checkedPath, h], hr⟩

theorem checkedIndent_checked (value : Option Nat) :
    Checked .indent (value.getD Key.indent.standard)
      (fun n => n = value.getD Key.indent.standard) (checkedIndent value) := by
  by_cases h : value.getD Elm.Format.standard.indent ≤ maxIndent
  · refine Or.inl ⟨decide_eq_true h, value.getD Elm.Format.standard.indent, ?_, rfl⟩
    rw [checkedIndent, if_neg (Nat.not_lt.mpr h)]
  · refine Or.inr ⟨decide_eq_false h, .indentTooLarge, ?_, rfl⟩
    rw [checkedIndent, if_pos (Nat.lt_of_not_le h)]

/-- The check goes through the settings in order and stops at the first one that is refused. -/
theorem check_ofAssignment (A : Assignment) :
    Judged Key.all (fun k => (A k).getD k.standard) (ofAssignment A).check := by
  refine Judged.step (checkedThreshold_checked (A .level)) ?_
  intro threshold hThreshold
  refine Judged.pass rfl ?_
  refine Judged.step (checkedPath_checked rfl rfl) ?_
  rintro _ rfl
  refine Judged.step (checkedPath_checked rfl rfl) ?_
  rintro _ rfl
  refine Judged.step (checkedPath_checked rfl rfl) ?_
  rintro _ rfl
  refine Judged.step (checkedIndent_checked (A .indent)) ?_
  rintro _ rfl
  refine Judged.pass rfl (Judged.done ?_)
  exact ⟨hThreshold, rfl, rfl, rfl, rfl, rfl, rfl⟩

end Draft

end ElmPrerender.Settings
