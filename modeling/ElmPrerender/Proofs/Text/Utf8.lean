import ElmPrerender.Text.Utf8

/-!
# Encoded text is read back

The bytes of a text are read as the text, with nothing left. A character outside ASCII is encoded
by bytes outside ASCII only, so no byte of it can be taken for another character.
-/

namespace ElmPrerender.Text.Utf8

theorem isAscii_iff {a : UInt8} : isAscii a = true ↔ a.toNat < 128 := by
  simp [isAscii, UInt8.lt_iff_toNat_lt]

theorem isContinuation_iff {b : UInt8} :
    isContinuation b = true ↔ 128 ≤ b.toNat ∧ b.toNat ≤ 191 := by
  simp [isContinuation, UInt8.le_iff_toNat_le]

theorem isPair_iff {a b : UInt8} :
    isPair a b = true ↔ (194 ≤ a.toNat ∧ a.toNat ≤ 223) ∧ 128 ≤ b.toNat ∧ b.toNat ≤ 191 := by
  simp [isPair, isContinuation_iff, UInt8.le_iff_toNat_le]

theorem opensTriple_iff {a b : UInt8} :
    opensTriple a b = true ↔
      (224 ≤ a.toNat ∧ a.toNat ≤ 239) ∧ (128 ≤ b.toNat ∧ b.toNat ≤ 191) ∧
        (a.toNat ≠ 224 ∨ 160 ≤ b.toNat) ∧ (a.toNat ≠ 237 ∨ b.toNat ≤ 159) := by
  simp [opensTriple, isContinuation_iff, UInt8.le_iff_toNat_le, ← UInt8.toNat_inj, and_assoc]

theorem opensQuadruple_iff {a b : UInt8} :
    opensQuadruple a b = true ↔
      (240 ≤ a.toNat ∧ a.toNat ≤ 244) ∧ (128 ≤ b.toNat ∧ b.toNat ≤ 191) ∧
        (a.toNat ≠ 240 ∨ 144 ≤ b.toNat) ∧ (a.toNat ≠ 244 ∨ b.toNat ≤ 143) := by
  simp [opensQuadruple, isContinuation_iff, UInt8.le_iff_toNat_le, ← UInt8.toNat_inj, and_assoc]

theorem toNat_ofNat_of_lt {n : Nat} (h : n < 256) : (UInt8.ofNat n).toNat = n := by
  rw [UInt8.toNat_ofNat']
  exact Nat.mod_eq_of_lt h

theorem char_bounds (c : Char) :
    c.val.toNat < 0xD800 ∨ 0xDFFF < c.val.toNat ∧ c.val.toNat < 0x110000 :=
  c.valid

theorem read_one {a : UInt8} (h : a.toNat < 128) (rest : List UInt8) :
    read (a :: rest) = (Char.ofNat a.toNat :: (read rest).1, (read rest).2) := by
  rw [read.eq_def]
  simp only [if_pos (isAscii_iff.mpr h)]

theorem read_two {a b : UInt8} (ha : 194 ≤ a.toNat ∧ a.toNat ≤ 223)
    (hb : 128 ≤ b.toNat ∧ b.toNat ≤ 191) (rest : List UInt8) :
    read (a :: b :: rest) = (pair a b :: (read rest).1, (read rest).2) := by
  have h1 : ¬ isAscii a = true := by rw [isAscii_iff]; omega
  rw [read.eq_def]
  simp only [if_neg h1, if_pos (isPair_iff.mpr ⟨ha, hb⟩)]

theorem read_three {a b c : UInt8} (ha : 224 ≤ a.toNat ∧ a.toNat ≤ 239)
    (hb : 128 ≤ b.toNat ∧ b.toNat ≤ 191) (hc : 128 ≤ c.toNat ∧ c.toNat ≤ 191)
    (overlong : a.toNat ≠ 224 ∨ 160 ≤ b.toNat) (surrogate : a.toNat ≠ 237 ∨ b.toNat ≤ 159)
    (rest : List UInt8) :
    read (a :: b :: c :: rest) = (triple a b c :: (read rest).1, (read rest).2) := by
  have h1 : ¬ isAscii a = true := by rw [isAscii_iff]; omega
  have h2 : ¬ isPair a b = true := by rw [isPair_iff]; omega
  have h3 : (opensTriple a b && isContinuation c) = true := by
    rw [Bool.and_eq_true, opensTriple_iff, isContinuation_iff]
    exact ⟨⟨ha, hb, overlong, surrogate⟩, hc⟩
  rw [read.eq_def]
  simp only [if_neg h1, if_neg h2, if_pos h3]

theorem read_four {a b c d : UInt8} (ha : 240 ≤ a.toNat ∧ a.toNat ≤ 244)
    (hb : 128 ≤ b.toNat ∧ b.toNat ≤ 191) (hc : 128 ≤ c.toNat ∧ c.toNat ≤ 191)
    (hd : 128 ≤ d.toNat ∧ d.toNat ≤ 191)
    (overlong : a.toNat ≠ 240 ∨ 144 ≤ b.toNat) (large : a.toNat ≠ 244 ∨ b.toNat ≤ 143)
    (rest : List UInt8) :
    read (a :: b :: c :: d :: rest) = (quadruple a b c d :: (read rest).1, (read rest).2) := by
  have h1 : ¬ isAscii a = true := by rw [isAscii_iff]; omega
  have h2 : ¬ isPair a b = true := by rw [isPair_iff]; omega
  have h3 : ¬ (opensTriple a b && isContinuation c) = true := by
    rw [Bool.and_eq_true, opensTriple_iff]
    omega
  have h4 : (opensQuadruple a b && isContinuation c && isContinuation d) = true := by
    rw [Bool.and_eq_true, Bool.and_eq_true, opensQuadruple_iff, isContinuation_iff,
      isContinuation_iff]
    exact ⟨⟨⟨ha, hb, overlong, large⟩, hc⟩, hd⟩
  rw [read.eq_def]
  simp only [if_neg h1, if_neg h2, if_neg h3, if_pos h4]

/-- The bytes of a character and, for each, its value. -/
theorem encodeChar_cases (c : Char) :
    (∃ x : UInt8, String.utf8EncodeChar c = [x] ∧ c.val.toNat < 128 ∧ x.toNat = c.val.toNat) ∨
    (∃ x y : UInt8, String.utf8EncodeChar c = [x, y] ∧
      (128 ≤ c.val.toNat ∧ c.val.toNat < 2048) ∧
      x.toNat = c.val.toNat / 64 + 192 ∧ y.toNat = c.val.toNat % 64 + 128) ∨
    (∃ x y z : UInt8, String.utf8EncodeChar c = [x, y, z] ∧
      (2048 ≤ c.val.toNat ∧ c.val.toNat < 65536) ∧
      x.toNat = c.val.toNat / 4096 + 224 ∧ y.toNat = c.val.toNat / 64 % 64 + 128 ∧
      z.toNat = c.val.toNat % 64 + 128) ∨
    (∃ x y z w : UInt8, String.utf8EncodeChar c = [x, y, z, w] ∧ 65536 ≤ c.val.toNat ∧
      x.toNat = c.val.toNat / 262144 + 240 ∧ y.toNat = c.val.toNat / 4096 % 64 + 128 ∧
      z.toNat = c.val.toNat / 64 % 64 + 128 ∧ w.toNat = c.val.toNat % 64 + 128) := by
  have bounds := char_bounds c
  by_cases h1 : c.val.toNat ≤ 127
  · left
    refine ⟨UInt8.ofNat c.val.toNat, ?_, by omega, toNat_ofNat_of_lt (by omega)⟩
    simp only [String.utf8EncodeChar, if_pos h1]
  by_cases h2 : c.val.toNat ≤ 2047
  · right; left
    refine ⟨UInt8.ofNat (c.val.toNat / 64 % 32 + 192), UInt8.ofNat (c.val.toNat % 64 + 128), ?_,
      by omega, ?_, toNat_ofNat_of_lt (by omega)⟩
    · simp only [String.utf8EncodeChar, if_neg h1, if_pos h2]
    · rw [toNat_ofNat_of_lt (by omega)]
      omega
  by_cases h3 : c.val.toNat ≤ 65535
  · right; right; left
    refine ⟨UInt8.ofNat (c.val.toNat / 4096 % 16 + 224),
      UInt8.ofNat (c.val.toNat / 64 % 64 + 128), UInt8.ofNat (c.val.toNat % 64 + 128), ?_,
      by omega, ?_, toNat_ofNat_of_lt (by omega), toNat_ofNat_of_lt (by omega)⟩
    · simp only [String.utf8EncodeChar, if_neg h1, if_neg h2, if_pos h3]
    · rw [toNat_ofNat_of_lt (by omega)]
      omega
  · right; right; right
    refine ⟨UInt8.ofNat (c.val.toNat / 262144 % 8 + 240),
      UInt8.ofNat (c.val.toNat / 4096 % 64 + 128), UInt8.ofNat (c.val.toNat / 64 % 64 + 128),
      UInt8.ofNat (c.val.toNat % 64 + 128), ?_, by omega, ?_, toNat_ofNat_of_lt (by omega),
      toNat_ofNat_of_lt (by omega), toNat_ofNat_of_lt (by omega)⟩
    · simp only [String.utf8EncodeChar, if_neg h1, if_neg h2, if_neg h3]
    · rw [toNat_ofNat_of_lt (by omega)]
      omega

theorem ofNat_eq_of_toNat {n : Nat} {c : Char} (h : n = c.val.toNat) : Char.ofNat n = c := by
  rw [h]
  exact Char.ofNat_toNat c

theorem read_encodeChar_append (c : Char) (rest : List UInt8) :
    read (String.utf8EncodeChar c ++ rest) = (c :: (read rest).1, (read rest).2) := by
  have bounds := char_bounds c
  rcases encodeChar_cases c with ⟨x, he, hc, hx⟩ | ⟨x, y, he, hc, hx, hy⟩ |
    ⟨x, y, z, he, hc, hx, hy, hz⟩ | ⟨x, y, z, w, he, hc, hx, hy, hz, hw⟩
  · rw [he, List.singleton_append, read_one (by omega), ofNat_eq_of_toNat hx]
  · have hvalue : pair x y = c := by
      unfold pair tail
      refine ofNat_eq_of_toNat ?_
      omega
    rw [he, List.cons_append, List.singleton_append, read_two (by omega) (by omega), hvalue]
  · have hvalue : triple x y z = c := by
      unfold triple tail
      refine ofNat_eq_of_toNat ?_
      omega
    rw [he, List.cons_append, List.cons_append, List.singleton_append,
      read_three (by omega) (by omega) (by omega) (by omega) (by omega), hvalue]
  · have hvalue : quadruple x y z w = c := by
      unfold quadruple tail
      refine ofNat_eq_of_toNat ?_
      omega
    rw [he, List.cons_append, List.cons_append, List.cons_append, List.singleton_append,
      read_four (by omega) (by omega) (by omega) (by omega) (by omega) (by omega), hvalue]

theorem encode_append (s t : List Char) : encode (s ++ t) = encode s ++ encode t :=
  List.flatMap_append

theorem read_encode (s : List Char) : read (encode s) = (s, []) := by
  induction s with
  | nil => simp [encode, read]
  | cons c r ih =>
    rw [encode, List.flatMap_cons, read_encodeChar_append]
    simp only [encode] at ih
    rw [ih]

theorem encodeChar_ascii {c : Char} (h : c.val.toNat < 128) :
    String.utf8EncodeChar c = [c.toUInt8] := by
  rcases encodeChar_cases c with ⟨x, he, _, hx⟩ | ⟨x, y, _, hc, _⟩ | ⟨x, y, z, _, hc, _⟩ |
    ⟨x, y, z, w, _, hc, _⟩
  · have hcx : c.toUInt8 = x := by
      rw [← UInt8.toNat_inj, hx]
      exact toNat_ofNat_of_lt (by omega)
    rw [he, hcx]
  all_goals omega

theorem encodeChar_notAscii {c : Char} (h : 128 ≤ c.val.toNat) :
    ∀ b ∈ String.utf8EncodeChar c, 128 ≤ b.toNat := by
  rcases encodeChar_cases c with ⟨x, _, hc, _⟩ | ⟨x, y, he, hc, hx, hy⟩ |
    ⟨x, y, z, he, hc, hx, hy, hz⟩ | ⟨x, y, z, w, he, hc, hx, hy, hz, hw⟩
  · omega
  all_goals
    rw [he]
    simp only [List.forall_mem_cons, List.not_mem_nil, false_implies, implies_true, and_true]
    omega

theorem exists_encodeChar_notAscii {c : Char} (h : 128 ≤ c.val.toNat) :
    ∃ b more, String.utf8EncodeChar c = b :: more ∧ 128 ≤ b.toNat := by
  have hbytes := encodeChar_notAscii h
  rcases encodeChar_cases c with ⟨x, he, hc, _⟩ | ⟨x, y, he, _⟩ | ⟨x, y, z, he, _⟩ |
    ⟨x, y, z, w, he, _⟩
  · omega
  all_goals
    rw [he] at hbytes ⊢
    exact ⟨x, _, rfl, hbytes x (List.mem_cons_self ..)⟩

end ElmPrerender.Text.Utf8
