import ElmPrerender.Proofs.Json.Numbers
import ElmPrerender.Proofs.Json.Strings

/-!
# Written lists and objects are read back

Items stand behind commas, with blanks around them as the writer likes. What an item may be is left
to its reader: it has to begin visibly and may not need what follows it.
-/

namespace ElmPrerender.Json.Reader

open Text.Utf8

variable {α : Type}

/-- A text that begins visibly, and not with the end of a list. -/
def Starts (text : Bytes) : Prop :=
  ∃ b r, text = b :: r ∧ isBlank b = false ∧ b ≠ byte ']'

/-- A text that `item` reads as `a`, behind any blanks and before anything that ends a number. -/
structure Written (item : Reader α) (text : Bytes) (a : α) : Prop where
  start : Starts text
  reads : ∀ {blanks rest : Bytes}, Blank blanks → Stops rest →
    Reads item (blanks ++ (text ++ rest)) a rest

theorem Blank.append {a b : Bytes} (ha : Blank a) (hb : Blank b) : Blank (a ++ b) := by
  intro x hx
  rcases List.mem_append.mp hx with h | h
  · exact ha x h
  · exact hb x h

/-- Blanks end a number. -/
theorem Stops.of_blank {blanks : Bytes} (h : Blank blanks) {b : UInt8} (rest : Bytes)
    (hb : Stops (b :: rest)) : Stops (blanks ++ b :: rest) := by
  cases blanks with
  | nil => exact hb
  | cons c r =>
    have hc := h c (by simp)
    simp only [isBlank, Bool.or_eq_true, beq_iff_eq] at hc
    rcases hc with ((rfl | rfl) | rfl) | rfl <;> rfl

theorem reads_hasItem_close {blanks : Bytes} (h : Blank blanks) (first : Bool) (rest : Bytes) :
    Reads (hasItem first) (blanks ++ byte ']' :: rest) false (byte ']' :: rest) := by
  refine (reads_peek? h (by decide) rest).bind ?_
  simp only [if_true]
  exact reads_pure _ _

theorem reads_hasItem_first {blanks text : Bytes} (h : Blank blanks) (start : Starts text)
    (rest : Bytes) : Reads (hasItem true) (blanks ++ (text ++ rest)) true (text ++ rest) := by
  obtain ⟨b, r, rfl, hb, hne⟩ := start
  refine (reads_peek? h hb _).bind ?_
  simp only [if_neg hne, if_true]
  exact reads_pure _ _

theorem reads_hasItem_next {blanks text : Bytes} (h : Blank blanks) (start : Starts text)
    (rest : Bytes) :
    Reads (hasItem false) (byte ',' :: (blanks ++ (text ++ rest))) true (text ++ rest) := by
  obtain ⟨b, r, rfl, hb, hne⟩ := start
  have hcomma : byte ',' ≠ byte ']' := by decide
  refine (reads_peek? Blank.nil (by decide) _).bind ?_
  simp only [if_neg hcomma, if_true, Bool.false_eq_true, if_false]
  refine (reads_skipByte _ _).bind ((reads_peek? h hb _).bind ?_)
  simp only [if_neg hne]
  exact reads_pure _ _

/-- Texts that follow a first one, each behind a comma and `gap`. -/
def following (gap : Bytes) (texts : List Bytes) : Bytes :=
  texts.flatMap fun text => byte ',' :: (gap ++ text)

theorem following_cons (gap text : Bytes) (texts : List Bytes) (rest : Bytes) :
    following gap (text :: texts) ++ rest =
      byte ',' :: (gap ++ (text ++ (following gap texts ++ rest))) := by
  simp only [following, List.flatMap_cons, List.cons_append, List.append_assoc]

theorem length_le_following (gap : Bytes) (texts : List Bytes) :
    texts.length ≤ (following gap texts).length := by
  induction texts with
  | nil => exact Nat.le_refl _
  | cons t r ih =>
    simp only [following, List.flatMap_cons, List.length_append, List.length_cons] at ih ⊢
    omega

theorem Stops.following (gap : Bytes) (texts : List Bytes) {rest : Bytes} (h : Stops rest) :
    Stops (following gap texts ++ rest) := by
  cases texts with
  | nil => exact h
  | cons t r => rfl

/-- The texts of several items, the first behind `gap` and the others behind a comma as well. -/
def between (gap : Bytes) : List Bytes → Bytes
  | [] => []
  | text :: texts => gap ++ (text ++ following gap texts)

/-- The texts of the items that are left, before the first of them all or behind another. -/
def remaining (first : Bool) (gap : Bytes) (texts : List Bytes) : Bytes :=
  if first then between gap texts else following gap texts

theorem remaining_nil (first : Bool) (gap : Bytes) : remaining first gap [] = [] := by
  cases first <;> rfl

section Items

variable {item : Reader α} {text : α → Bytes} {gap closing : Bytes}

theorem reads_hasItem (first : Bool) {t : Bytes} (hgap : Blank gap) (start : Starts t)
    (texts : List Bytes) (rest : Bytes) :
    Reads (hasItem first) (remaining first gap (t :: texts) ++ rest) true
      (t ++ (following gap texts ++ rest)) := by
  cases first with
  | true =>
    simp only [remaining, if_true, between, List.append_assoc]
    exact reads_hasItem_first hgap start _
  | false =>
    simp only [remaining, Bool.false_eq_true, if_false, following_cons]
    exact reads_hasItem_next hgap start _

/-- The loop over the items, by induction on those that are left. -/
theorem reads_items (hgap : Blank gap) (hclosing : Blank closing) {values : List α}
    (written : ∀ a ∈ values, Written item (text a) a) (fuel : Nat) (enough : values.length < fuel)
    (first : Bool) (rest : Bytes) :
    Reads (items item fuel first)
      (remaining first gap (values.map text) ++ (closing ++ byte ']' :: rest)) values
      (byte ']' :: rest) := by
  induction values generalizing fuel first with
  | nil =>
    cases fuel with
    | zero => exact absurd enough (Nat.not_lt_zero _)
    | succ fuel =>
      rw [List.map_nil, remaining_nil]
      exact (reads_hasItem_close hclosing first rest).bind (reads_pure _ _)
  | cons a values ih =>
    cases fuel with
    | zero => exact absurd enough (Nat.not_lt_zero _)
    | succ fuel =>
      obtain ⟨ha, hothers⟩ := List.forall_mem_cons.mp written
      have hstop := Stops.following gap (values.map text)
        (Stops.of_blank hclosing (b := byte ']') rest rfl)
      have hitem := ha.reads Blank.nil hstop
      have hvalues := ih hothers fuel (by simpa using enough) false
      rw [List.map_cons]
      refine (reads_hasItem first hgap ha.start _ _).bind ?_
      simp only [if_true]
      exact hitem.bind (hvalues.bind (reads_pure _ _))

theorem reads_enclosed {close : Bytes → Option Cause × Bytes} {content : Reader (Except Cause α)}
    {text middle rest : Bytes} {a : α} (inner : Reads content text (.ok a) middle)
    (closes : close middle = (none, rest)) : Reads (enclosed close content) text a rest := by
  simp only [Reads] at inner
  simp only [Reads, enclosed, inner, bind, Except.bind, closes]

theorem length_le_between (gap : Bytes) (texts : List Bytes) (nonempty : ∀ t ∈ texts, t ≠ []) :
    texts.length ≤ (between gap texts).length := by
  cases texts with
  | nil => exact Nat.le_refl _
  | cons t r =>
    have hpos := List.length_pos_iff.mpr (nonempty t (by simp))
    have hrest := length_le_following gap r
    simp only [between, List.length_append, List.length_cons]
    omega

/-- A list whose opening bracket has been read. -/
theorem reads_listRest (hgap : Blank gap) (hclosing : Blank closing) {values : List α}
    (written : ∀ a ∈ values, Written item (text a) a) (rest : Bytes) :
    Reads (listRest item) (between gap (values.map text) ++ (closing ++ byte ']' :: rest))
      values rest := by
  have hlength := length_le_between gap (values.map text) (by
    intro t ht
    obtain ⟨a, ha, rfl⟩ := List.mem_map.mp ht
    obtain ⟨b, r, htext, -⟩ := (written a ha).start
    simp [htext])
  have hitems := reads_items hgap hclosing written
    ((between gap (values.map text) ++ (closing ++ byte ']' :: rest)).length + 1)
    (by simp only [List.length_map, List.length_append] at hlength ⊢; omega) true rest
  exact reads_enclosed hitems.map rfl

end Items

theorem reads_hasMember_close {blanks : Bytes} (h : Blank blanks) (first : Bool) (rest : Bytes) :
    Reads (hasMember first) (blanks ++ byte '}' :: rest) false (byte '}' :: rest) := by
  refine (reads_peek? h (by decide) rest).bind ?_
  simp only [if_true]
  exact reads_pure _ _

theorem reads_hasMember_first {blanks : Bytes} (h : Blank blanks) (rest : Bytes) :
    Reads (hasMember true) (blanks ++ byte '"' :: rest) true rest := by
  have hquote : byte '"' ≠ byte '}' := by decide
  refine (reads_peek? h (by decide) rest).bind ?_
  simp only [if_neg hquote, if_true]
  exact (reads_skipByte _ _).bind (reads_pure _ _)

theorem reads_hasMember_next {blanks : Bytes} (h : Blank blanks) (rest : Bytes) :
    Reads (hasMember false) (byte ',' :: (blanks ++ byte '"' :: rest)) true rest := by
  have hcomma : byte ',' ≠ byte '}' := by decide
  refine (reads_peek? Blank.nil (by decide) _).bind ?_
  simp only [if_neg hcomma, if_true, Bool.false_eq_true, if_false]
  refine (reads_skipByte _ _).bind ((reads_peek? h (by decide) rest).bind ?_)
  simp only [if_true]
  exact (reads_skipByte _ _).bind (reads_pure _ _)

theorem reads_colon (rest : Bytes) : Reads colon (byte ':' :: rest) () rest := by
  refine (reads_peek? Blank.nil (by decide) rest).bind ?_
  simp only [if_true]
  exact reads_skipByte _ _

/-- A member: its name, a colon, `gap` and the text of its value. -/
def memberText (gap : Bytes) (text : α → Bytes) (m : String × α) : Bytes :=
  encode (stringText m.1) ++ byte ':' :: (gap ++ text m.2)

section Members

variable {item : Reader α} {text : α → Bytes} {gap space closing : Bytes}

/-- A member whose opening quote has been read, and what the loop does after it. -/
theorem reads_member (hspace : Blank space) {m : String × α} (written : Written item (text m.2) m.2)
    {fuel : Nat} {more rest : Bytes} {members : List (String × α)} (stop : Stops more)
    (others : Reads (Reader.members item fuel false) more members rest) :
    Reads (do
        let name ← stringRest
        colon
        let a ← item
        let rest ← Reader.members item fuel false
        pure ((name, a) :: rest))
      (encode (m.1.toList.flatMap escape) ++ byte '"' ::
        (byte ':' :: (space ++ (text m.2 ++ more)))) (m :: members) rest :=
  (reads_stringRest m.1 _).bind
    ((reads_colon _).bind ((written.reads hspace stop).bind (others.bind (reads_pure _ _))))

theorem memberText_append (m : String × α) (rest : Bytes) :
    memberText space text m ++ rest = byte '"' :: (encode (m.1.toList.flatMap escape) ++
      byte '"' :: (byte ':' :: (space ++ (text m.2 ++ rest)))) := by
  rw [memberText, List.append_assoc, encode_stringText]
  simp only [List.cons_append, List.append_assoc]

theorem reads_hasMember (first : Bool) (hgap : Blank gap) (m : String × α) (texts : List Bytes)
    (rest : Bytes) :
    Reads (hasMember first) (remaining first gap (memberText space text m :: texts) ++ rest) true
      (encode (m.1.toList.flatMap escape) ++ byte '"' ::
        (byte ':' :: (space ++ (text m.2 ++ (following gap texts ++ rest))))) := by
  cases first with
  | true =>
    simp only [remaining, if_true, between, List.append_assoc]
    rw [memberText_append]
    exact reads_hasMember_first hgap _
  | false =>
    simp only [remaining, Bool.false_eq_true, if_false, following_cons]
    rw [memberText_append]
    exact reads_hasMember_next hgap _

/-- The loop over the members, by induction on those that are left. -/
theorem reads_members (hgap : Blank gap) (hspace : Blank space) (hclosing : Blank closing)
    {members : List (String × α)} (written : ∀ m ∈ members, Written item (text m.2) m.2)
    (fuel : Nat) (enough : members.length < fuel) (first : Bool) (rest : Bytes) :
    Reads (Reader.members item fuel first)
      (remaining first gap (members.map (memberText space text)) ++
        (closing ++ byte '}' :: rest)) members (byte '}' :: rest) := by
  induction members generalizing fuel first with
  | nil =>
    cases fuel with
    | zero => exact absurd enough (Nat.not_lt_zero _)
    | succ fuel =>
      rw [List.map_nil, remaining_nil]
      exact (reads_hasMember_close hclosing first rest).bind (reads_pure _ _)
  | cons m members ih =>
    cases fuel with
    | zero => exact absurd enough (Nat.not_lt_zero _)
    | succ fuel =>
      obtain ⟨hm, hothers⟩ := List.forall_mem_cons.mp written
      have hstop := Stops.following gap (members.map (memberText space text))
        (Stops.of_blank hclosing (b := byte '}') rest rfl)
      have hmembers := ih hothers fuel (by simpa using enough) false
      rw [List.map_cons]
      refine (reads_hasMember first hgap m _ _).bind ?_
      simp only [if_true]
      exact reads_member hspace hm hstop hmembers

/-- An object is never shorter than it has members, so the loop does not run out of steps. -/
theorem length_lt_members (gap space : Bytes) (text : α → Bytes) (members : List (String × α))
    (rest : Bytes) :
    members.length < (between gap (members.map (memberText space text)) ++ rest).length + 1 := by
  have hlength := length_le_between gap (members.map (memberText space text)) (by
    intro t ht
    obtain ⟨m, -, rfl⟩ := List.mem_map.mp ht
    simp [memberText])
  simp only [List.length_map, List.length_append] at hlength ⊢
  omega

/-- An object whose opening brace has been read. -/
theorem reads_objectRest (hgap : Blank gap) (hspace : Blank space) (hclosing : Blank closing)
    {members : List (String × α)} (written : ∀ m ∈ members, Written item (text m.2) m.2)
    (rest : Bytes) :
    Reads (objectRest item)
      (between gap (members.map (memberText space text)) ++ (closing ++ byte '}' :: rest))
      members rest := by
  have enough := length_lt_members gap space text members (closing ++ byte '}' :: rest)
  have hmembers := reads_members hgap hspace hclosing written _ enough true rest
  exact reads_enclosed hmembers.map rfl

end Members

end ElmPrerender.Json.Reader
