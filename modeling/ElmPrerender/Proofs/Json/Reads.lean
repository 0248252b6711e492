import ElmPrerender.Json.Typed
import ElmPrerender.Proofs.Text.Utf8

/-!
# What readers of JSON do with a written text

`Reads r text a rest` says that a reader gives a value and leaves a rest. Readers composed one after
the other read texts written one after the other.
-/

namespace ElmPrerender.Json.Reader

open Text.Utf8

variable {α β : Type}

/-- Reading `text` gives `a` and leaves `rest`. -/
def Reads (r : Reader α) (text : Bytes) (a : α) (rest : Bytes) : Prop :=
  r text = .ok (a, rest)

theorem reads_pure (a : α) (rest : Bytes) : Reads (pure a : Reader α) rest a rest := rfl

theorem Reads.bind {r : Reader α} {f : α → Reader β} {text middle rest : Bytes} {a : α} {b : β}
    (first : Reads r text a middle) (second : Reads (f a) middle b rest) :
    Reads (r >>= f) text b rest := by
  have hbind : (r >>= f) text = (r text >>= fun p => f p.1 p.2) := rfl
  rw [Reads, hbind, first]
  exact second

theorem Reads.map {r : Reader α} {f : α → β} {text rest : Bytes} {a : α}
    (h : Reads r text a rest) : Reads (f <$> r) text (f a) rest := by
  have hmap : (f <$> r) text = (r text >>= fun p => pure (f p.1, p.2)) := rfl
  rw [Reads, hmap, h]
  rfl

/-- What two readers have read, one after the other. -/
theorem Reads.of_bind {r : Reader α} {f : α → Reader β} {text rest : Bytes} {b : β}
    (h : Reads (r >>= f) text b rest) :
    ∃ a middle, Reads r text a middle ∧ Reads (f a) middle b rest := by
  have hbind : (r >>= f) text = (r text >>= fun p => f p.1 p.2) := rfl
  rw [Reads, hbind] at h
  rcases hr : r text with fault | ⟨a, middle⟩
  · rw [hr] at h
    cases h
  · rw [hr] at h
    exact ⟨a, middle, hr, h⟩

theorem Reads.of_map {r : Reader α} {f : α → β} {text rest : Bytes} {b : β}
    (h : Reads (f <$> r) text b rest) : ∃ a, Reads r text a rest ∧ f a = b := by
  have hmap : (f <$> r) text = (r text >>= fun p => pure (f p.1, p.2)) := rfl
  rw [Reads, hmap] at h
  rcases hr : r text with fault | ⟨a, middle⟩
  · rw [hr] at h
    cases h
  · rw [hr] at h
    cases h
    exact ⟨a, hr, rfl⟩

theorem not_reads_fail (cause : Cause) (text rest : Bytes) (a : α) :
    ¬ Reads (fail cause) text a rest := by
  intro h
  cases h

theorem not_reads_failAtNext (cause : Cause) (text rest : Bytes) (a : α) :
    ¬ Reads (failAtNext cause) text a rest := by
  intro h
  cases h

theorem not_reads_wrongKind (expected : String) (text rest : Bytes) (a : α) :
    ¬ Reads (wrongKind expected) text a rest := by
  intro h
  obtain ⟨kind, middle, -, hfail⟩ := h.of_bind
  exact not_reads_fail _ _ _ _ hfail

theorem reads_get (rest : Bytes) : Reads (get : Reader Bytes) rest rest rest := rfl

theorem reads_skipByte (b : UInt8) (rest : Bytes) : Reads skipByte (b :: rest) () rest := rfl

theorem Reads.of_skip {f : Unit → Reader α} {b : UInt8} {text rest : Bytes} {a : α}
    (h : Reads (skipByte >>= f) (b :: text) a rest) : Reads (f ()) text a rest := by
  obtain ⟨⟨⟩, _, hskip, hrest⟩ := h.of_bind
  cases hskip
  exact hrest

theorem encode_nil : encode [] = [] := rfl

theorem encode_ascii {c : Char} (h : c.val.toNat < 128) (text : List Char) :
    encode (c :: text) = byte c :: encode text := by
  rw [encode, List.flatMap_cons, encodeChar_ascii h]
  rfl

theorem byte_toNat {c : Char} (h : c.val.toNat < 128) : (byte c).toNat = c.val.toNat :=
  toNat_ofNat_of_lt (by omega)

theorem byte_inj {c d : Char} (hc : c.val.toNat < 128) (hd : d.val.toNat < 128) :
    byte c = byte d ↔ c = d := by
  rw [← UInt8.toNat_inj, byte_toNat hc, byte_toNat hd]
  exact ⟨fun h => Char.ext (UInt32.toNat_inj.mp h), fun h => by rw [h]⟩

def Blank (text : Bytes) : Prop := ∀ b ∈ text, isBlank b = true

theorem dropWhile_blank {blanks : Bytes} (h : Blank blanks) {b : UInt8} (hb : isBlank b = false)
    (rest : Bytes) : (blanks ++ b :: rest).dropWhile isBlank = b :: rest := by
  rw [List.dropWhile_append_of_pos h, List.dropWhile_cons, hb]
  rfl

theorem reads_peek? {blanks : Bytes} (h : Blank blanks) {b : UInt8} (hb : isBlank b = false)
    (rest : Bytes) : Reads peek? (blanks ++ b :: rest) (some b) (b :: rest) := by
  simp only [Reads, peek?, dropWhile_blank h hb, List.head?_cons]

theorem reads_peekValue {blanks : Bytes} (h : Blank blanks) {b : UInt8} (hb : isBlank b = false)
    (rest : Bytes) : Reads peekValue (blanks ++ b :: rest) b (b :: rest) :=
  (reads_peek? h hb rest).bind rfl

theorem Reads.of_peekValue {text rest : Bytes} {b : UInt8} (h : Reads peekValue text b rest) :
    (text.dropWhile isBlank).head? = some b ∧ rest = text.dropWhile isBlank := by
  obtain ⟨next, middle, hpeek, hvalue⟩ := h.of_bind
  cases hpeek
  cases hhead : (text.dropWhile isBlank).head? with
  | none =>
    rw [hhead] at hvalue
    exact absurd hvalue (not_reads_failAtNext _ _ _ _)
  | some c =>
    rw [hhead] at hvalue
    cases hvalue
    exact ⟨rfl, rfl⟩

theorem Blank.nil : Blank [] := by
  intro b hb
  cases hb

end ElmPrerender.Json.Reader
