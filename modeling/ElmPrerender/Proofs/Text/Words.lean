import Mathlib.Data.List.TakeWhile
import ElmPrerender.Text.White

/-!
# Words of a text

A word stands behind white space, and after it the text ends or goes on with white space. The next
word of a text is the only one that stands there: what the cut finds is what was put together.
-/

namespace ElmPrerender.Text

/-- Nothing but white space. -/
def White (s : List Char) : Prop := ∀ c ∈ s, isWhite c = true

/-- No white space anywhere. -/
def Solid (s : List Char) : Prop := ∀ c ∈ s, isWhite c = false

theorem Solid.of_all {s : List Char} (h : s.all (!isWhite ·) = true) : Solid s := by
  simpa [Solid] using h

/-- A word may end before this text, which is empty or begins with white space. -/
def EndsWord (rest : List Char) : Prop := ∀ c ∈ rest.head?, isWhite c = true

/-- The text is `gap`, then `word`, then `rest`; only white space keeps the word apart. -/
structure Stands (text gap word rest : List Char) : Prop where
  whole : text = gap ++ word ++ rest
  gap : White gap
  ends : EndsWord rest

section Cut

variable {p : Char → Bool} {inside rest : List Char}

theorem takeWhile_append_of_stop (all : ∀ c ∈ inside, p c = true)
    (stop : ∀ c ∈ rest.head?, p c = false) : (inside ++ rest).takeWhile p = inside := by
  rw [List.takeWhile_append_of_pos all]
  cases rest with
  | nil => simp
  | cons c r => simp [stop c rfl]

theorem dropWhile_append_of_stop (all : ∀ c ∈ inside, p c = true)
    (stop : ∀ c ∈ rest.head?, p c = false) : (inside ++ rest).dropWhile p = rest := by
  rw [List.dropWhile_append_of_pos all]
  cases rest with
  | nil => rfl
  | cons c r => simp [stop c rfl]

theorem stop_of_dropWhile (s : List Char) : ∀ c ∈ (s.dropWhile p).head?, p c = false := by
  intro c hc
  have h := List.head?_dropWhile_not p s
  rw [Option.mem_def.mp hc] at h
  exact h

theorem head?_append_cons {P : Char → Prop} {s rest : List Char} {d : Char}
    (head : ∀ c ∈ s.head?, P c) (next : P d) : ∀ c ∈ (s ++ d :: rest).head?, P c := by
  cases s with
  | nil => simpa using next
  | cons c r => simpa using head

/-- A text whose first and last characters do not satisfy `p`. -/
structure Firm (p : Char → Bool) (s : List Char) : Prop where
  starts : ∃ c ∈ s.head?, p c = false
  ends : ∃ c ∈ s.getLast?, p c = false

theorem Firm.of_forall {s : List Char} (nonempty : s ≠ []) (none : ∀ c ∈ s, p c = false) :
    Firm p s where
  starts := ⟨s.head nonempty, List.head?_eq_some_head nonempty, none _ (List.head_mem nonempty)⟩
  ends := ⟨s.getLast nonempty, List.getLast?_eq_some_getLast nonempty,
    none _ (List.getLast_mem nonempty)⟩

theorem Firm.between {s t : List Char} (first : Firm p s) (middle : Char) (last : Firm p t) :
    Firm p (s ++ middle :: t) where
  starts := by
    obtain ⟨c, hhead, hc⟩ := first.starts
    exact ⟨c, by rw [List.head?_append, Option.mem_def.mp hhead]; rfl, hc⟩
  ends := by
    obtain ⟨c, hlast, hc⟩ := last.ends
    refine ⟨c, ?_, hc⟩
    rw [List.append_cons, List.getLast?_append, Option.mem_def.mp hlast]
    rfl

theorem dropEndWhile_append (ends : ∃ c ∈ inside.getLast?, p c = false) (rest : List Char) :
    dropEndWhile p (inside ++ rest) = inside ++ dropEndWhile p rest := by
  obtain ⟨c, hlast, hc⟩ := ends
  obtain ⟨r, rfl⟩ := List.getLast?_eq_some_iff.mp hlast
  have hdrop : (r ++ [c]).reverse.dropWhile p = (r ++ [c]).reverse := by simp [hc]
  rw [dropEndWhile, List.reverse_append, List.dropWhile_append, hdrop]
  split
  · rename_i hnothing
    rw [dropEndWhile, List.isEmpty_iff.mp hnothing, List.reverse_reverse, List.reverse_nil,
      List.append_nil]
  · rw [List.reverse_append, List.reverse_reverse, dropEndWhile]

theorem dropEndWhile_of_forall {s : List Char} (all : ∀ c ∈ s, p c = true) :
    dropEndWhile p s = [] := by
  simpa [dropEndWhile] using all

theorem dropEndWhile_prefix (p : Char → Bool) (s : List Char) : dropEndWhile p s <+: s := by
  rw [← List.reverse_suffix, dropEndWhile, List.reverse_reverse]
  exact List.dropWhile_suffix p

/-- What is cut off at both ends of a text. -/
theorem Firm.cut (firm : Firm p inside) {before : List Char} (all : ∀ c ∈ before, p c = true)
    (rest : List Char) :
    dropEndWhile p ((before ++ (inside ++ rest)).dropWhile p) = inside ++ dropEndWhile p rest := by
  obtain ⟨c, hhead, hc⟩ := firm.starts
  have hstop : ∀ d ∈ (inside ++ rest).head?, p d = false := by
    rw [List.head?_append, Option.mem_def.mp hhead]
    rintro d ⟨⟩
    exact hc
  rw [dropWhile_append_of_stop all hstop, dropEndWhile_append firm.ends]

end Cut

theorem nextWord?_of_white {s : List Char} (h : White s) : nextWord? s = none := by
  rw [nextWord?, List.dropWhile_eq_nil_iff.mpr h]

variable {text gap word rest : List Char}

theorem Stands.nextWord? (h : Stands text gap word rest) (nonempty : word ≠ [])
    (solid : Solid word) : nextWord? text = some (word, rest) := by
  obtain ⟨c, r, rfl⟩ := List.exists_cons_of_ne_nil nonempty
  have hstop : ∀ d ∈ (c :: r ++ rest).head?, isWhite d = false := by
    rintro d ⟨⟩
    exact solid c (List.mem_cons_self ..)
  have hinside : ∀ d ∈ c :: r, (!isWhite d) = true := fun d hd => by simp [solid d hd]
  have houtside : ∀ d ∈ rest.head?, (!isWhite d) = false := fun d hd => by simp [h.ends d hd]
  have hdrop : text.dropWhile isWhite = c :: (r ++ rest) := by
    rw [h.whole, List.append_assoc, dropWhile_append_of_stop h.gap hstop]
    rfl
  rw [Text.nextWord?, hdrop]
  simp only [← List.cons_append, takeWhile_append_of_stop hinside houtside,
    dropWhile_append_of_stop hinside houtside]

/-- A text is white space, or a word stands in it. -/
theorem white_or_stands (text : List Char) :
    White text ∨ ∃ gap word rest, Stands text gap word rest ∧ word ≠ [] ∧ Solid word := by
  cases hdrop : text.dropWhile isWhite with
  | nil => exact Or.inl (List.dropWhile_eq_nil_iff.mp hdrop)
  | cons c r =>
    have hc : isWhite c = false := stop_of_dropWhile text c (by rw [hdrop]; rfl)
    refine Or.inr ⟨text.takeWhile isWhite, (c :: r).takeWhile (!isWhite ·),
      (c :: r).dropWhile (!isWhite ·), ⟨?_, ?_, ?_⟩, by simp [hc], ?_⟩
    · rw [List.append_assoc, List.takeWhile_append_dropWhile, ← hdrop,
        List.takeWhile_append_dropWhile]
    · exact fun d hd => List.mem_takeWhile_imp hd
    · exact fun d hd => by simpa using stop_of_dropWhile (c :: r) d hd
    · exact fun d hd => by simpa using List.mem_takeWhile_imp hd

theorem nextWord?_eq_some_iff :
    nextWord? text = some (word, rest) ↔
      ∃ gap, Stands text gap word rest ∧ word ≠ [] ∧ Solid word := by
  constructor
  · intro h
    rcases white_or_stands text with hwhite | ⟨gap, word', rest', hstands, hne, hsolid⟩
    · rw [nextWord?_of_white hwhite] at h
      cases h
    · rw [hstands.nextWord? hne hsolid] at h
      cases h
      exact ⟨gap, hstands, hne, hsolid⟩
  · rintro ⟨gap, hstands, hne, hsolid⟩
    exact hstands.nextWord? hne hsolid

/-- Where a word has just ended, another one stands behind some white space only. -/
theorem Stands.gap_ne_nil (h : Stands text gap word rest) (ended : EndsWord text)
    (nonempty : word ≠ []) (solid : Solid word) : gap ≠ [] := by
  rintro rfl
  obtain ⟨c, r, rfl⟩ := List.exists_cons_of_ne_nil nonempty
  have hwhite : isWhite c = true := ended c (by rw [h.whole]; rfl)
  rw [solid c (List.mem_cons_self ..)] at hwhite
  cases hwhite

/-- There is nothing to trim from a text without white space. -/
theorem Solid.trim {s : List Char} (h : Solid s) : Text.trim s = s := by
  by_cases hs : s = []
  · rw [hs]
    rfl
  · have hcut : Text.trim ([] ++ (s ++ [])) = s ++ [] :=
      (Firm.of_forall hs h).cut (List.forall_mem_nil _) []
    rwa [List.append_nil, List.nil_append] at hcut

/-- Printable ASCII characters are not white space. -/
theorem isWhite_of_printable {c : Char} (low : 0x20 < c.toNat) (high : c.toNat < 0x7F) :
    isWhite c = false := by
  simp only [isWhite, Bool.or_eq_false_iff, Bool.and_eq_false_iff, decide_eq_false_iff_not,
    beq_eq_false_iff_ne]
  omega

end ElmPrerender.Text
