import ElmPrerender.Proofs.Json.Reads

/-!
# Written strings are read back

A string literal is read to its own closing quote, whatever bytes follow it. Escapes give back
their characters; all other characters are bytes that mean nothing to the reader.
-/

namespace ElmPrerender.Json.Reader

open Text.Utf8

/-- A byte that stands for itself in a string. -/
def IsPlain (b : UInt8) : Prop := b ≠ byte '"' ∧ b ≠ byte '\\' ∧ 32 ≤ b.toNat

theorem stringBytes_plain {b : UInt8} (h : IsPlain b) {fuel : Nat} {text s rest : Bytes}
    (tail : stringBytes fuel text = .ok (s, rest)) :
    stringBytes (fuel + 1) (b :: text) = .ok (b :: s, rest) := by
  have hcontrol : ¬ b < 0x20 := by
    rw [UInt8.lt_iff_toNat_lt]
    exact Nat.not_lt.mpr h.2.2
  simp only [stringBytes, if_neg h.1, if_neg h.2.1, if_neg hcontrol, tail, bind, Except.bind]

theorem stringBytes_plains {bytes : Bytes} (h : ∀ b ∈ bytes, IsPlain b) {fuel : Nat}
    {text s rest : Bytes} (tail : stringBytes fuel text = .ok (s, rest)) :
    stringBytes (fuel + bytes.length) (bytes ++ text) = .ok (bytes ++ s, rest) := by
  induction bytes with
  | nil => exact tail
  | cons b bs ih =>
    have hbs := ih fun b hb => h b (by simp [hb])
    exact stringBytes_plain (h b (by simp)) hbs

theorem stringBytes_escape (escape : Bytes) {c : Char}
    (h : ∀ text, escaped (escape ++ text) = .ok (c, text)) {fuel : Nat} {text s rest : Bytes}
    (tail : stringBytes fuel text = .ok (s, rest)) :
    stringBytes (fuel + 1) (byte '\\' :: (escape ++ text)) =
      .ok (String.utf8EncodeChar c ++ s, rest) := by
  have hquote : byte '\\' ≠ byte '"' := by decide
  simp only [stringBytes, if_neg hquote, if_true, h, tail, bind, Except.bind]

theorem escaped_letter {b : UInt8} {c : Char} (hu : b ≠ byte 'u')
    (h : ofEscapeLetter? b = some c) (text : Bytes) : escaped (b :: text) = .ok (c, text) := by
  simp only [escaped, if_neg hu, h]

theorem hexValue?_digit : ∀ n, n < 16 → hexValue? (byte (hexDigit n)) = some n := by
  decide

theorem isAscii_hexDigit : ∀ n, n < 16 → (hexDigit n).val.toNat < 128 := by
  decide

/-- A control character by its two last digits. -/
theorem escaped_unicode {c : Char} (h : c.val.toNat < 32) (text : Bytes) :
    escaped (byte 'u' :: byte '0' :: byte '0' :: byte (hexDigit (c.toNat / 16)) ::
      byte (hexDigit (c.toNat % 16)) :: text) = .ok (c, text) := by
  have hn : c.toNat < 32 := h
  have hzero : hexValue? (byte '0') = some 0 := by decide
  have hhigh := hexValue?_digit (c.toNat / 16) (by omega)
  have hlow := hexValue?_digit (c.toNat % 16) (by omega)
  have hunit : hexUnit (byte '0' :: byte '0' :: byte (hexDigit (c.toNat / 16)) ::
      byte (hexDigit (c.toNat % 16)) :: text) = .ok (c.toNat, text) := by
    simp only [hexUnit, hzero, hhigh, hlow]
    congr 2
    omega
  have hlowSurrogate : isLowSurrogate c.toNat = false := by
    simp [isLowSurrogate]
    omega
  have hhighSurrogate : isHighSurrogate c.toNat = false := by
    simp [isHighSurrogate]
    omega
  have hread : Reads unicodeEscape (byte '0' :: byte '0' :: byte (hexDigit (c.toNat / 16)) ::
      byte (hexDigit (c.toNat % 16)) :: text) (Char.ofNat c.toNat) text := by
    refine Reads.bind hunit ?_
    simp only [hlowSurrogate, hhighSurrogate, Bool.false_eq_true, if_false]
    exact reads_pure _ _
  rw [escaped, if_pos rfl]
  simpa only [Reads, Char.ofNat_toNat] using hread

/-- A character is written as an escape by a letter, as an escape by its number, or as itself. -/
theorem escape_cases (c : Char) :
    (∃ letter : Char, escape c = ['\\', letter] ∧ letter.val.toNat < 128 ∧
      byte letter ≠ byte 'u' ∧ ofEscapeLetter? (byte letter) = some c) ∨
    (c.val.toNat < 32 ∧
      escape c = ['\\', 'u', '0', '0', hexDigit (c.toNat / 16), hexDigit (c.toNat % 16)]) ∨
    (escape c = [c] ∧ c ≠ '"' ∧ c ≠ '\\' ∧ 32 ≤ c.val.toNat) := by
  by_cases h1 : c = '"'
  · exact Or.inl ⟨'"', by subst h1; decide⟩
  by_cases h2 : c = '\\'
  · exact Or.inl ⟨'\\', by subst h2; decide⟩
  by_cases h3 : c = '\n'
  · exact Or.inl ⟨'n', by subst h3; decide⟩
  by_cases h4 : c = '\r'
  · exact Or.inl ⟨'r', by subst h4; decide⟩
  by_cases h5 : c = '\t'
  · exact Or.inl ⟨'t', by subst h5; decide⟩
  by_cases h6 : c.toNat = 0x08
  · have hc : c = Char.ofNat 0x08 := by rw [← h6, Char.ofNat_toNat]
    exact Or.inl ⟨'b', by subst hc; decide⟩
  by_cases h7 : c.toNat = 0x0C
  · have hc : c = Char.ofNat 0x0C := by rw [← h7, Char.ofNat_toNat]
    exact Or.inl ⟨'f', by subst hc; decide⟩
  by_cases h8 : c.toNat < 0x20
  · refine Or.inr (Or.inl ⟨h8, ?_⟩)
    simp only [escape, if_neg h1, if_neg h2, if_neg h3, if_neg h4, if_neg h5, if_neg h6,
      if_neg h7, if_pos h8]
  · refine Or.inr (Or.inr ⟨?_, h1, h2, Nat.not_lt.mp h8⟩)
    simp only [escape, if_neg h1, if_neg h2, if_neg h3, if_neg h4, if_neg h5, if_neg h6,
      if_neg h7, if_neg h8]

/-- Outside ASCII no byte is a quote, a backslash or a control character. -/
theorem isPlain_encodeChar {c : Char} (quote : c ≠ '"') (backslash : c ≠ '\\')
    (printable : 32 ≤ c.val.toNat) : ∀ b ∈ String.utf8EncodeChar c, IsPlain b := by
  by_cases hascii : c.val.toNat < 128
  · rw [encodeChar_ascii hascii]
    intro b hb
    rw [List.mem_singleton.mp hb]
    refine ⟨fun h => quote ((byte_inj hascii (by decide)).mp h),
      fun h => backslash ((byte_inj hascii (by decide)).mp h), ?_⟩
    change 32 ≤ (byte c).toNat
    rw [byte_toNat hascii]
    exact printable
  · intro b hb
    have large := encodeChar_notAscii (Nat.not_lt.mp hascii) b hb
    refine ⟨?_, ?_, by omega⟩
    · rintro rfl
      exact absurd large (by decide)
    · rintro rfl
      exact absurd large (by decide)

/-- A written character takes some steps, no more than it has bytes. -/
theorem stringBytes_char (c : Char) :
    ∃ steps, steps ≤ (encode (escape c)).length ∧
      ∀ (fuel : Nat) (text s rest : Bytes), stringBytes fuel text = .ok (s, rest) →
        stringBytes (fuel + steps) (encode (escape c) ++ text) =
          .ok (String.utf8EncodeChar c ++ s, rest) := by
  rcases escape_cases c with ⟨letter, he, hascii, hu, hletter⟩ | ⟨hc, he⟩ |
    ⟨he, quote, backslash, printable⟩
  · rw [he, encode_ascii (by decide), encode_ascii hascii]
    refine ⟨1, by simp, ?_⟩
    intro fuel text s rest tail
    exact stringBytes_escape [byte letter] (escaped_letter hu hletter) tail
  · have hn : c.toNat < 32 := hc
    rw [he, encode_ascii (by decide), encode_ascii (by decide), encode_ascii (by decide),
      encode_ascii (by decide), encode_ascii (isAscii_hexDigit _ (by omega)),
      encode_ascii (isAscii_hexDigit _ (by omega))]
    refine ⟨1, by simp, ?_⟩
    intro fuel text s rest tail
    exact stringBytes_escape [byte 'u', byte '0', byte '0',
      byte (hexDigit (c.toNat / 16)), byte (hexDigit (c.toNat % 16))] (escaped_unicode hc) tail
  · have hbytes : encode [c] = String.utf8EncodeChar c := by simp [encode]
    rw [he, hbytes]
    refine ⟨_, Nat.le_refl _, ?_⟩
    intro fuel text s rest tail
    exact stringBytes_plains (isPlain_encodeChar quote backslash printable) tail

theorem stringBytes_text (s : List Char) (rest : Bytes) (fuel : Nat)
    (enough : (encode (s.flatMap escape)).length < fuel) :
    stringBytes fuel (encode (s.flatMap escape) ++ byte '"' :: rest) = .ok (encode s, rest) := by
  induction s generalizing fuel with
  | nil =>
    cases fuel with
    | zero => exact absurd enough (Nat.not_lt_zero _)
    | succ fuel => rfl
  | cons c r ih =>
    obtain ⟨steps, hsteps, hread⟩ := stringBytes_char c
    rw [List.flatMap_cons, encode_append, List.length_append] at enough
    have htail := ih (fuel - steps) (by omega)
    have hfuel : fuel - steps + steps = fuel := by omega
    have h := hread _ _ _ _ htail
    rw [hfuel] at h
    rw [List.flatMap_cons, encode_append, List.append_assoc, h]
    rfl

/-- A string whose opening quote has been read. -/
theorem reads_stringRest (s : String) (rest : Bytes) :
    Reads stringRest (encode (s.toList.flatMap escape) ++ byte '"' :: rest) s rest := by
  have h := stringBytes_text s.toList rest
    ((encode (s.toList.flatMap escape) ++ byte '"' :: rest).length + 1)
    (by simp only [List.length_append]; omega)
  simp only [Reads, stringRest, h, bind, Except.bind, read_encode, String.ofList_toList]

theorem encode_stringText (s : String) (rest : Bytes) :
    encode (stringText s) ++ rest =
      byte '"' :: (encode (s.toList.flatMap escape) ++ byte '"' :: rest) := by
  rw [stringText, encode_ascii (by decide), encode_append, encode_ascii (by decide)]
  simp only [encode_nil, List.cons_append, List.append_assoc, List.nil_append]

end ElmPrerender.Json.Reader
