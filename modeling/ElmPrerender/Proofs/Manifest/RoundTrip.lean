import ElmPrerender.Proofs.Json.NumberLiterals
import ElmPrerender.Proofs.Manifest.Patching

/-!
# Written manifests are read back

A manifest whose text writes whole numbers only is read back from its own text, and so is the
manifest that patching makes of it.
-/

namespace ElmPrerender

namespace Json

/-- Another member does no harm if it is not nested too deeply. -/
theorem Value.readable_insert {depth : Nat} {members : Members} {name : String} {v : Value}
    (readable : (Value.object members).Readable (depth + 1)) (hv : v.Readable depth) :
    (Value.object (members.insert name v)).Readable (depth + 1) := by
  obtain ⟨distinct, hmembers⟩ := readable
  refine ⟨?_, ?_⟩
  · rw [Members.names_insert]
    by_cases h : name ∈ members.map Prod.fst
    · rwa [if_pos h]
    · rw [if_neg h]
      exact List.concat_eq_append ▸ distinct.concat h
  · intro m hm
    rcases Members.mem_insert hm with rfl | hold
    · exact hv
    · exact hmembers m hold

theorem Members.readable_of_get? {depth : Nat} {members : Members} {name : String} {v : Value}
    (readable : (Value.object members).Readable (depth + 1)) (h : members.get? name = some v) :
    v.Readable depth := by
  obtain ⟨m, hfound, rfl⟩ := Option.map_eq_some_iff.mp h
  exact readable.2 m (List.mem_of_find?_eq_some hfound)

end Json

namespace Manifest

variable {m m' : Manifest} {invocation : Path}

/-- A manifest that the reader of values can meet. -/
def Readable (m : Manifest) : Prop := (Json.Value.object m.fields).Readable Json.Reader.maxDepth

theorem Readable.parse_text (readable : m.Readable) : Manifest.parse m.text = .ok m := by
  rw [Manifest.parse, text, Json.Value.parse_prettyText readable]

theorem parse_eq_ok_iff {text : String} :
    Manifest.parse text = .ok m ↔ Json.Value.parse text = .ok (.object m.fields) := by
  unfold Manifest.parse
  split
  · rename_i e hparse
    simp [hparse]
  · rename_i fields hparse
    obtain ⟨fields'⟩ := m
    simp [hparse]
  · rename_i v hother hparse
    simp only [hparse, reduceCtorEq, Except.ok.injEq, false_iff]
    exact hother _

theorem readable_of_parse {text : String} (h : Manifest.parse text = .ok m)
    (whole : Json.WholeNumbers (Text.Utf8.ofString text)) : m.Readable :=
  Json.Value.readable_of_parse (parse_eq_ok_iff.mp h) whole

/-- A field may hold values with one level less than the manifest. -/
theorem Readable.set (readable : m.Readable) {v : Json.Value}
    (hv : v.Readable (Json.Reader.maxDepth - 1)) (f : ManifestField) : (m.set f v).Readable :=
  Json.Value.readable_insert readable hv

theorem Readable.dependencies (readable : m.Readable) {dependencies : Json.Members}
    (h : m.dependencies = .ok dependencies) :
    (Json.Value.object dependencies).Readable (Json.Reader.maxDepth - 1) := by
  rcases dependencies_eq_ok_iff.mp h with ⟨-, rfl⟩ | hfield
  · exact ⟨List.nodup_nil, List.forall_mem_nil _⟩
  · exact Json.Members.readable_of_get? readable hfield

/-- Patching adds texts only, and none of them lies deeper than the lists and objects that a
manifest with source directories has. -/
theorem Readable.patch (readable : m.Readable) (h : m.patch invocation = .ok m') :
    m'.Readable := by
  obtain ⟨directories, dependencies, -, hdependencies, rfl⟩ := patch_eq_ok_iff.mp h
  have hsources : (rebase invocation directories).Readable (Json.Reader.maxDepth - 1) := by
    intro v hv
    rcases List.mem_append.mp hv with hdirectory | hroot
    · obtain ⟨d, -, rfl⟩ := List.mem_map.mp hdirectory
      trivial
    · rw [List.mem_singleton.mp hroot]
      trivial
  have hpinned : (Json.Value.object
      (dependencies.insert supportPackage (.string supportConstraint))).Readable
        (Json.Reader.maxDepth - 1) :=
    Json.Value.readable_insert (readable.dependencies hdependencies) trivial
  have hnative : (Json.Value.bool true).Readable (Json.Reader.maxDepth - 1) := trivial
  exact ((readable.set hsources _).set hpinned _).set hnative _

/-- A manifest whose text writes whole numbers only, and what patching makes of it, are read back
from their texts: the same fields in the same order with the same values, and so the same text. -/
theorem reads_back {text : String} (h : Manifest.parse text = .ok m)
    (whole : Json.WholeNumbers (Text.Utf8.ofString text)) (invocation : Path) :
    (∃ again, Manifest.parse m.text = .ok again ∧ again.fields = m.fields ∧
      again.text = m.text) ∧
    ∀ m', m.patch invocation = .ok m' → ∃ again, Manifest.parse m'.text = .ok again ∧
      again.fields = m'.fields ∧ again.text = m'.text := by
  have readable := readable_of_parse h whole
  refine ⟨⟨m, readable.parse_text, rfl, rfl⟩, ?_⟩
  intro m' hpatch
  exact ⟨m', (readable.patch hpatch).parse_text, rfl, rfl⟩

/-- A manifest with numbers at both limits, a name that is written twice, escapes, and what looks
like a fraction in a string. -/
def oddText : String :=
  r#"{"source-directories":["s\u00e9","\"-0.5"],"n":[18446744073709551615,[],{}],"# ++
    r#""d":{"x":-9223372036854775808,"y":true,"x":0}}"#

def oddManifest : Manifest where
  fields := [("source-directories", .array [.string "sé", .string "\"-0.5"]),
    ("n", .array [.number (.integer 18446744073709551615), .array [], .object []]),
    ("d", .object [("x", .number (.integer 0)), ("y", .bool true)])]

theorem oddText_reads_back :
    Manifest.parse oddText = .ok oddManifest ∧
      Json.WholeNumbers (Text.Utf8.ofString oddText) ∧
      (∃ again, Manifest.parse oddManifest.text = .ok again ∧ again.fields = oddManifest.fields ∧
        again.text = oddManifest.text) ∧
      ∃ m', oddManifest.patch ⟨"/p"⟩ = .ok m' ∧ ∃ again, Manifest.parse m'.text = .ok again ∧
        again.fields = m'.fields ∧ again.text = m'.text := by
  have hparse : Manifest.parse oddText = .ok oddManifest := by decide +kernel
  have hliterals : Json.numberLiterals .outside (Text.Utf8.ofString oddText) =
      [18446744073709551615, -9223372036854775808, 0].map
        (fun i => Text.Utf8.encode (Json.integerText i)) := by
    decide +kernel
  have hwhole : Json.WholeNumbers (Text.Utf8.ofString oddText) := by
    intro literal hliteral
    rw [hliterals] at hliteral
    obtain ⟨i, hi, rfl⟩ := List.mem_map.mp hliteral
    refine ⟨i, ?_, rfl⟩
    simp only [List.mem_cons, List.not_mem_nil, or_false] at hi
    rcases hi with rfl | rfl | rfl <;> exact ⟨by decide, by decide⟩
  obtain ⟨hback, hpatched⟩ := reads_back hparse hwhole ⟨"/p"⟩
  exact ⟨hparse, hwhole, hback, _, rfl, hpatched _ rfl⟩

end Manifest

end ElmPrerender
