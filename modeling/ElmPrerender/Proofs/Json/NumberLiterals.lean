import ElmPrerender.Proofs.Json.Accepted
import ElmPrerender.Proofs.Results

/-!
# The numbers that a text writes

A text whose numbers are written as whole numbers that fit a word is read as a value without any
other numbers, so the value is read back from its indented text.
-/

namespace ElmPrerender.Json

/-- What a byte of a text belongs to. -/
inductive Place where
  | outside
  | quoted
  /-- Behind a backslash. -/
  | escaped
  /-- In a number, with the bytes of it that have been met. -/
  | number (met : Bytes)

/-- Whether a byte goes on with a number. -/
def isNumberByte (b : UInt8) : Bool :=
  Reader.isDigit b || b == byte '-' || b == byte '+' || b == byte '.' || Reader.isExponentMark b

/-- What follows a byte that is in no string and no number before it. -/
def Place.behind (b : UInt8) : Place :=
  if b = byte '"' then .quoted
  else if b = byte '-' ∨ Reader.isDigit b then .number [b]
  else .outside

/-- The numbers of a text as they are written: outside of strings, from a sign or a digit on. -/
def numberLiterals : Place → Bytes → List Bytes
  | .number met, [] => [met]
  | _, [] => []
  | .outside, b :: r => numberLiterals (.behind b) r
  | .quoted, b :: r =>
    if b = byte '"' then numberLiterals .outside r
    else if b = byte '\\' then numberLiterals .escaped r
    else numberLiterals .quoted r
  | .escaped, _ :: r => numberLiterals .quoted r
  | .number met, b :: r =>
    if isNumberByte b then numberLiterals (.number (met ++ [b])) r
    else met :: numberLiterals (.behind b) r

/-- All numbers of a text are whole and fit a word, with sign or without; minus zero is not one. -/
def WholeNumbers (text : Bytes) : Prop :=
  ∀ literal ∈ numberLiterals .outside text,
    ∃ i : Int, (Number.integer i).Exact ∧ literal = Text.Utf8.encode (integerText i)

theorem numberLiterals_number (met text : Bytes) :
    numberLiterals (.number met) text =
      (met ++ text.takeWhile isNumberByte) ::
        numberLiterals .outside (text.dropWhile isNumberByte) := by
  induction text generalizing met with
  | nil => simp [numberLiterals]
  | cons b r ih =>
    by_cases hb : isNumberByte b = true
    · rw [numberLiterals, if_pos hb, ih, List.takeWhile_cons, if_pos hb, List.dropWhile_cons,
        if_pos hb, List.append_assoc, List.singleton_append]
    · rw [numberLiterals, if_neg hb, List.takeWhile_cons, if_neg hb, List.dropWhile_cons,
        if_neg hb, List.append_nil, numberLiterals]

namespace Reader

variable {text rest : Bytes}

/-- A byte that means nothing to a string. -/
theorem numberLiterals_quoted {b : UInt8} (hquote : b ≠ byte '"') (hescape : b ≠ byte '\\')
    (r : Bytes) : numberLiterals .quoted (b :: r) = numberLiterals .quoted r := by
  rw [numberLiterals, if_neg hquote, if_neg hescape]

theorem ne_of_hexValue? {b : UInt8} {n : Nat} (h : hexValue? b = some n) :
    b ≠ byte '"' ∧ b ≠ byte '\\' := by
  have hquote : hexValue? (byte '"') = none := by decide
  have hescape : hexValue? (byte '\\') = none := by decide
  refine ⟨?_, ?_⟩
  · rintro rfl
    rw [hquote] at h
    cases h
  · rintro rfl
    rw [hescape] at h
    cases h

theorem numberLiterals_hexUnit {n : Nat} (h : Reads hexUnit text n rest) :
    numberLiterals .quoted text = numberLiterals .quoted rest := by
  unfold Reads hexUnit at h
  split at h
  · split at h
    · rename_i ha hb hc hd
      cases h
      rw [numberLiterals_quoted (ne_of_hexValue? ha).1 (ne_of_hexValue? ha).2,
        numberLiterals_quoted (ne_of_hexValue? hb).1 (ne_of_hexValue? hb).2,
        numberLiterals_quoted (ne_of_hexValue? hc).1 (ne_of_hexValue? hc).2,
        numberLiterals_quoted (ne_of_hexValue? hd).1 (ne_of_hexValue? hd).2]
    · cases h
  · cases h

theorem numberLiterals_unicodeEscape {c : Char} (h : Reads unicodeEscape text c rest) :
    numberLiterals .quoted text = numberLiterals .quoted rest := by
  obtain ⟨first, middle, hfirst, h⟩ := h.of_bind
  rw [numberLiterals_hexUnit hfirst]
  by_cases hlow : isLowSurrogate first = true
  · rw [if_pos hlow] at h
    exact absurd h (not_reads_fail _ _ _ _)
  rw [if_neg hlow] at h
  by_cases hhigh : isHighSurrogate first = true
  · rw [if_pos hhigh] at h
    obtain ⟨⟨⟩, _, hbackslash, hpair⟩ := h.of_bind
    obtain ⟨⟨⟩, inner, hletter, hpair⟩ := hpair.of_bind
    obtain ⟨second, behind, hsecond, hpair⟩ := hpair.of_bind
    have hmarks : numberLiterals .quoted (byte '\\' :: byte 'u' :: inner) =
        numberLiterals .quoted inner := rfl
    rw [hbackslash.of_surrogateMark, hletter.of_surrogateMark, hmarks,
      numberLiterals_hexUnit hsecond]
    by_cases hpaired : isLowSurrogate second = true
    · rw [if_pos hpaired] at hpair
      rw [((reads_pure _ _).unique hpair).2]
    · rw [if_neg hpaired] at hpair
      exact absurd hpair (not_reads_fail _ _ _ _)
  · rw [if_neg hhigh] at h
    cases h
    rfl

theorem numberLiterals_escaped {c : Char} (h : escaped text = .ok (c, rest)) :
    numberLiterals .escaped text = numberLiterals .quoted rest := by
  cases text with
  | nil => cases h
  | cons b r =>
    rw [escaped] at h
    by_cases hu : b = byte 'u'
    · rw [if_pos hu] at h
      exact numberLiterals_unicodeEscape h
    · rw [if_neg hu] at h
      cases hletter : ofEscapeLetter? b with
      | none =>
        rw [hletter] at h
        cases h
      | some letter =>
        rw [hletter] at h
        cases h
        rfl

/-- A string holds no number, whatever it holds; its end is where the reader finds it. -/
theorem numberLiterals_stringBytes {fuel : Nat} {s : Bytes}
    (h : stringBytes fuel text = .ok (s, rest)) :
    numberLiterals .quoted text = numberLiterals .outside rest := by
  induction fuel generalizing text s with
  | zero => cases h
  | succ fuel ih =>
    cases text with
    | nil => cases h
    | cons b r =>
      rw [stringBytes] at h
      by_cases hquote : b = byte '"'
      · rw [if_pos hquote] at h
        cases h
        rw [numberLiterals, if_pos hquote]
      rw [if_neg hquote] at h
      by_cases hescape : b = byte '\\'
      · rw [if_pos hescape] at h
        obtain ⟨⟨c, inner⟩, hescaped, h⟩ := bind_eq_ok_iff.mp h
        obtain ⟨⟨s', behind⟩, htail, h⟩ := bind_eq_ok_iff.mp h
        cases h
        rw [numberLiterals, if_neg hquote, if_pos hescape, numberLiterals_escaped hescaped,
          ih htail]
      rw [if_neg hescape] at h
      by_cases hcontrol : b < 0x20
      · rw [if_pos hcontrol] at h
        cases h
      · rw [if_neg hcontrol] at h
        obtain ⟨⟨s', behind⟩, htail, h⟩ := bind_eq_ok_iff.mp h
        cases h
        rw [numberLiterals_quoted hquote hescape, ih htail]

theorem numberLiterals_stringRest {s : String} (h : Reads stringRest text s rest) :
    numberLiterals .outside (byte '"' :: text) = numberLiterals .outside rest := by
  obtain ⟨⟨bytes, behind⟩, hbytes, h⟩ := bind_eq_ok_iff.mp h
  have hrest : behind = rest := by
    dsimp only at h
    split at h
    · cases h
      rfl
    · cases h
  rw [← hrest]
  exact numberLiterals_stringBytes hbytes

theorem stops_of_not_isNumberByte (text : Bytes) : Stops (text.dropWhile isNumberByte) := by
  cases hdrop : text.dropWhile isNumberByte with
  | nil => rfl
  | cons b r =>
    have hb : isNumberByte b = false := by
      have hhead := List.head?_dropWhile_not isNumberByte text
      rw [hdrop] at hhead
      simpa using hhead
    simp only [isNumberByte, Bool.or_eq_false_iff] at hb
    simp [Stops, nextIs, hb]

theorem Reads.start_of_signedNumber {n : Number} (h : Reads signedNumber text n rest) :
    ∃ b r, text = b :: r ∧ (b = byte '-' ∨ isDigit b = true) := by
  obtain ⟨_, _, hget, h⟩ := h.of_bind
  cases hget
  cases text with
  | nil => cases h
  | cons b r =>
    refine ⟨b, r, rfl, ?_⟩
    by_cases hminus : b = byte '-'
    · exact Or.inl hminus
    have hsign : nextIs (· == byte '-') (b :: r) = false := by simpa [nextIs] using hminus
    rw [hsign, if_neg Bool.false_ne_true] at h
    cases hdigit : isDigit b with
    | true => exact Or.inr rfl
    | false =>
      have hzero : b ≠ byte '0' := by
        rintro rfl
        exact absurd hdigit (by decide)
      simp [Reads, number, hzero, hdigit] at h

/-- A number that is written as a whole number is read as it. -/
theorem whole_of_signedNumber {n : Number} (whole : WholeNumbers text)
    (h : Reads signedNumber text n rest) : n.Exact ∧ WholeNumbers rest := by
  obtain ⟨b, r, rfl, hb⟩ := h.start_of_signedNumber
  have hquote : b ≠ byte '"' := by
    rintro rfl
    exact absurd hb (by decide)
  have hliterals : numberLiterals .outside (b :: r) =
      (b :: r.takeWhile isNumberByte) :: numberLiterals .outside (r.dropWhile isNumberByte) := by
    rw [numberLiterals, Place.behind, if_neg hquote, if_pos hb, numberLiterals_number,
      List.singleton_append]
  rw [WholeNumbers, hliterals, List.forall_mem_cons] at whole
  obtain ⟨⟨i, exact, hliteral⟩, hbehind⟩ := whole
  have hread := reads_signedNumber exact (stops_of_not_isNumberByte r)
  have htext : Text.Utf8.encode (Number.integer i).text ++ r.dropWhile isNumberByte = b :: r := by
    rw [Number.text, ← hliteral, List.cons_append, List.takeWhile_append_dropWhile]
  rw [htext] at hread
  obtain ⟨rfl, rfl⟩ := h.unique hread
  exact ⟨exact, hbehind⟩

theorem scans_wholeNumbers : Scans WholeNumbers Number.Exact where
  mark := by
    rintro b r ⟨hquote, hminus, hdigit⟩ whole
    have hb : ¬ (b = byte '-' ∨ isDigit b = true) := by simp [hminus, hdigit]
    rwa [WholeNumbers, numberLiterals, Place.behind, if_neg hquote, if_neg hb] at whole
  string whole h := by rwa [WholeNumbers, numberLiterals_stringRest h] at whole
  number whole h := whole_of_signedNumber whole h

end Reader

/-- A value whose text writes nothing but whole numbers is read back from its indented text. -/
theorem Value.readable_of_parse {text : String} {v : Value} (h : Value.parse text = .ok v)
    (whole : WholeNumbers (Text.Utf8.ofString text)) : v.Readable Reader.maxDepth := by
  obtain ⟨middle, rest, hread, -⟩ := Reader.reads_of_parse h
  exact (Reader.scans_wholeNumbers.value whole hread).1

end ElmPrerender.Json
