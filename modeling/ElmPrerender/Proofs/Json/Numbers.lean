import ElmPrerender.Proofs.Json.Reads

/-!
# Written whole numbers are read back

Numbers that fit a word are written by their digits and read as they are, if no character follows
that could go on with a number.
-/

namespace ElmPrerender.Json

/-- Whole numbers that fit a word, with or without sign. -/
def Number.Exact : Number → Prop
  | .integer i => -(Decimal.signedLimit : Int) ≤ i ∧ i < (Decimal.wordLimit : Int)
  | .float _ => False

namespace Reader

open Text.Utf8

/-- No character follows that could go on with a number. -/
def Stops (rest : Bytes) : Prop :=
  nextIs (fun b => isDigit b || b == byte '.' || isExponentMark b) rest = false

theorem Stops.nextIs_eq_false {rest : Bytes} (h : Stops rest) {p : UInt8 → Bool}
    (hp : ∀ b, p b = true → (isDigit b || b == byte '.' || isExponentMark b) = true) :
    nextIs p rest = false := by
  cases rest with
  | nil => rfl
  | cons b r =>
    cases hb : p b with
    | false => simpa [nextIs] using hb
    | true =>
      have hstop : (isDigit b || b == byte '.' || isExponentMark b) = false := by
        simpa [Stops, nextIs] using h
      rw [hp b hb] at hstop
      cases hstop

theorem Stops.noDigit {rest : Bytes} (h : Stops rest) : nextIs isDigit rest = false :=
  h.nextIs_eq_false fun b hb => by simp [hb]

theorem Stops.noPoint {rest : Bytes} (h : Stops rest) : nextIs (· == byte '.') rest = false :=
  h.nextIs_eq_false fun b hb => by simp [hb]

theorem Stops.noExponent {rest : Bytes} (h : Stops rest) : nextIs isExponentMark rest = false :=
  h.nextIs_eq_false fun b hb => by simp [hb]

theorem isDigit_bounds {c : Char} (h : c.isDigit = true) :
    48 ≤ c.val.toNat ∧ c.val.toNat ≤ 57 := by
  simpa [Char.isDigit, UInt32.le_iff_toNat_le] using h

theorem isDigit_byte {c : Char} (h : c.isDigit = true) : isDigit (byte c) = true := by
  have hb := isDigit_bounds h
  have hn := byte_toNat (c := c) (by omega)
  simp only [isDigit, Bool.and_eq_true, decide_eq_true_eq, UInt8.le_iff_toNat_le, hn]
  exact hb

theorem digitValue_byte {c : Char} (h : c.isDigit = true) :
    digitValue (byte c) = c.toNat - '0'.toNat := by
  have hb := isDigit_bounds h
  rw [digitValue, byte_toNat (by omega)]
  rfl

theorem encode_digits {digits : List Char} (h : ∀ c ∈ digits, c.isDigit = true) :
    encode digits = digits.map byte := by
  induction digits with
  | nil => rfl
  | cons c r ih =>
    have hb := isDigit_bounds (h c (by simp))
    rw [encode_ascii (by omega), ih fun d hd => h d (by simp [hd]), List.map_cons]

theorem le_ofDigitChars (digits : List Char) (n : Nat) : n ≤ Nat.ofDigitChars 10 digits n := by
  rw [Nat.ofDigitChars_eq_ofDigitChars_zero]
  have hpow : 1 ≤ 10 ^ digits.length := Nat.one_le_pow _ _ (by decide)
  have hmul := Nat.mul_le_mul_right n hpow
  omega

theorem absorb_digits {digits : List Char} (h : ∀ c ∈ digits, c.isDigit = true) {limit n : Nat}
    (fits : Nat.ofDigitChars 10 digits n ≤ limit) {rest : Bytes}
    (stop : nextIs isDigit rest = false) :
    absorb limit n (digits.map byte ++ rest) =
      (Nat.ofDigitChars 10 digits n, digits.length, rest) := by
  induction digits generalizing n with
  | nil =>
    cases rest with
    | nil => rfl
    | cons b r =>
      have hb : isDigit b = false := by simpa [nextIs] using stop
      simp [absorb, hb]
  | cons c r ih =>
    have hc := h c (by simp)
    rw [Nat.ofDigitChars_cons, Nat.mul_comm] at fits
    have hstep : n * 10 + digitValue (byte c) ≤ limit := by
      rw [digitValue_byte hc]
      exact Nat.le_trans (le_ofDigitChars r _) fits
    have htail := ih (fun d hd => h d (by simp [hd])) fits
    rw [← digitValue_byte hc] at htail
    simp only [List.map_cons, List.cons_append, absorb, isDigit_byte hc, hstep, decide_true,
      Bool.and_self, if_true, htail]
    rw [Nat.ofDigitChars_cons, Nat.mul_comm, ← digitValue_byte hc, List.length_cons]

theorem toDigits_isDigit (n : Nat) : ∀ c ∈ Nat.toDigits 10 n, c.isDigit = true :=
  fun _ hc => Nat.isDigit_of_mem_toDigits (by decide) (by decide) hc

/-- Only zero is written with a leading zero. -/
theorem head_toDigits_ne_zero {n : Nat} (h : n ≠ 0) : (Nat.toDigits 10 n).head? ≠ some '0' := by
  induction n using Nat.strongRecOn with
  | ind n ih =>
    by_cases small : n < 10
    · rw [Nat.toDigits_of_lt_base small]
      simpa using h
    · rw [Nat.toDigits_of_base_le (by decide) (by omega)]
      have hdiv := ih (n / 10) (by omega) (by omega)
      cases hd : Nat.toDigits 10 (n / 10) with
      | nil => exact absurd hd Nat.toDigits_ne_nil
      | cons c r => simpa [hd] using hdiv

theorem reads_afterWhole {rest : Bytes} (stop : Stops rest) (negative : Bool) (n : Nat) :
    Reads (afterWhole negative n) rest (wholeNumber negative n) rest := by
  refine (reads_get rest).bind ?_
  simp only [stop.noPoint, stop.noExponent, Bool.false_eq_true, if_false]
  exact reads_pure _ _

theorem reads_number {n : Nat} (fits : n < Decimal.wordLimit) (negative : Bool) {rest : Bytes}
    (stop : Stops rest) :
    Reads (number negative) (encode (Nat.toDigits 10 n) ++ rest) (wholeNumber negative n) rest := by
  by_cases zero : n = 0
  · subst zero
    have hzero : ∀ c ∈ ['0'], c.isDigit = true := by
      intro c hc
      rw [List.mem_singleton.mp hc]
      rfl
    rw [Nat.toDigits_zero, encode_digits hzero]
    simp only [Reads, number, List.map_cons, List.map_nil, List.cons_append, List.nil_append,
      if_true, stop.noDigit, Bool.false_eq_true, if_false]
    exact reads_afterWhole stop negative 0
  · have hdigits := toDigits_isDigit n
    have hhead := head_toDigits_ne_zero zero
    have hvalue := Nat.ofDigitChars_ten_toDigits (n := n)
    rw [encode_digits hdigits]
    cases hd : Nat.toDigits 10 n with
    | nil => exact absurd hd Nat.toDigits_ne_nil
    | cons c r =>
      rw [hd] at hdigits hhead hvalue
      have hc := hdigits c (by simp)
      have hbounds := isDigit_bounds hc
      have hne : byte c ≠ byte '0' := by
        intro h
        have hc0 := (byte_inj (by omega) (by decide)).mp h
        exact hhead (by rw [hc0]; rfl)
      have hstart : Nat.ofDigitChars 10 r (digitValue (byte c)) = n := by
        rw [digitValue_byte hc, ← hvalue, Nat.ofDigitChars_cons]
        simp
      have hfits : Nat.ofDigitChars 10 r (digitValue (byte c)) ≤ maxSignificand := by
        rw [hstart]
        unfold maxSignificand
        omega
      have habsorb := absorb_digits (List.forall_mem_cons.mp hdigits).2 hfits stop.noDigit
      rw [hstart] at habsorb
      simp only [Reads, number, List.map_cons, List.cons_append, if_neg hne, isDigit_byte hc,
        if_true, habsorb, stop.noDigit, Bool.false_eq_true, if_false]
      exact reads_afterWhole stop negative n

theorem toDigits_start (n : Nat) :
    ∃ b r, encode (Nat.toDigits 10 n) = b :: r ∧ isDigit b = true := by
  have hdigits := toDigits_isDigit n
  rw [encode_digits hdigits]
  cases hd : Nat.toDigits 10 n with
  | nil => exact absurd hd Nat.toDigits_ne_nil
  | cons c r =>
    rw [hd] at hdigits
    exact ⟨byte c, r.map byte, rfl, isDigit_byte (hdigits c (by simp))⟩

/-- The first byte of a whole number is a sign or a digit. -/
theorem integerText_start (i : Int) :
    ∃ b r, encode (integerText i) = b :: r ∧ (b = byte '-' ∨ isDigit b = true) := by
  unfold integerText
  split
  · exact ⟨byte '-', _, encode_ascii (by decide) _, Or.inl rfl⟩
  · obtain ⟨b, r, htext, hb⟩ := toDigits_start i.natAbs
    exact ⟨b, r, htext, Or.inr hb⟩

theorem wholeNumber_true {i : Int} (negative : i < 0) (low : -(Decimal.signedLimit : Int) ≤ i) :
    wholeNumber true i.natAbs = .integer i := by
  have hzero : i.natAbs ≠ 0 := by omega
  have hlimit : ¬ Decimal.signedLimit < i.natAbs := by omega
  simp only [wholeNumber, Bool.not_true, Bool.false_eq_true, if_false, hzero, hlimit,
    decide_false, Bool.or_self]
  congr 1
  omega

theorem wholeNumber_false {i : Int} (nonnegative : ¬ i < 0) :
    wholeNumber false i.natAbs = .integer i := by
  simp only [wholeNumber, Bool.not_false, if_true]
  congr 1
  omega

theorem reads_signedNumber {n : Number} (exact : n.Exact) {rest : Bytes} (stop : Stops rest) :
    Reads signedNumber (encode n.text ++ rest) n rest := by
  cases n with
  | float x => exact False.elim exact
  | integer i =>
    obtain ⟨hlow, hhigh⟩ := exact
    by_cases negative : i < 0
    · have htext : encode (Number.integer i).text =
          byte '-' :: encode (Nat.toDigits 10 i.natAbs) := by
        rw [Number.text, integerText, if_pos negative, encode_ascii (by decide)]
      have hsign : nextIs (· == byte '-')
          (byte '-' :: (encode (Nat.toDigits 10 i.natAbs) ++ rest)) = true := rfl
      have hfits : i.natAbs < Decimal.wordLimit := by
        simp only [Decimal.signedLimit, Decimal.wordLimit] at hlow ⊢
        omega
      rw [htext, ← wholeNumber_true negative hlow, List.cons_append]
      refine (reads_get _).bind ?_
      rw [if_pos hsign]
      exact (reads_skipByte _ _).bind (reads_number hfits true stop)
    · have htext : (Number.integer i).text = Nat.toDigits 10 i.natAbs := by
        rw [Number.text, integerText, if_neg negative]
      have hsign : nextIs (· == byte '-') (encode (Nat.toDigits 10 i.natAbs) ++ rest) = false := by
        obtain ⟨b, r, hstart, hb⟩ := toDigits_start i.natAbs
        have hne : b ≠ byte '-' := by
          rintro rfl
          exact absurd hb (by decide)
        simp [hstart, nextIs, hne]
      rw [htext, ← wholeNumber_false negative]
      refine (reads_get _).bind ?_
      rw [hsign]
      exact reads_number (by omega) false stop

end Reader

end ElmPrerender.Json
