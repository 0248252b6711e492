import ElmPrerender.Proofs.Json.Typed

/-!
# How objects are written

The grammar of an object, member by member: blanks, a comma from the second member on, a quoted
name, a colon and a value. What the reader of objects gives are the members in the order in which
they are written, and a text writes them in one way only.
-/

namespace ElmPrerender.Json.Reader

variable {α : Type} {text rest : Bytes}

/-- A reader has one result. -/
theorem Reads.unique {r : Reader α} {a b : α} {other : Bytes} (h : Reads r text a rest)
    (h' : Reads r text b other) : a = b ∧ rest = other := by
  have hsame : (a, rest) = (b, other) := Except.ok.inj (h.symm.trans h')
  exact Prod.mk.inj hsame

/-- What stands before a member: blanks, and among them a comma unless it is the first. -/
def Gap : Bool → Bytes → Prop
  | true, gap => Blank gap
  | false, gap => ∃ before after, Blank before ∧ Blank after ∧ gap = before ++ byte ',' :: after

/-- The members that follow an opening brace, and what is left behind the closing one. -/
inductive Writes (depth : Nat) : Bool → Bytes → List (String × Value) → Bytes → Prop
  | done {first : Bool} {blanks rest : Bytes} (blank : Blank blanks) :
      Writes depth first (blanks ++ byte '}' :: rest) [] rest
  | member {first : Bool} {gap quoted space item others rest : Bytes} {name : String} {v : Value}
      {written : List (String × Value)} (begins : Gap first gap)
      (named : Reads stringRest quoted name (space ++ byte ':' :: item)) (blank : Blank space)
      (holds : Reads (value depth) item v others)
      (more : Writes depth false others written rest) :
      Writes depth first (gap ++ byte '"' :: quoted) ((name, v) :: written) rest

/-- The text of an object with these members. -/
def WritesObject (depth : Nat) (text : Bytes) (written : List (String × Value)) (rest : Bytes) :
    Prop :=
  ∃ blanks inner, Blank blanks ∧ text = blanks ++ byte '{' :: inner ∧
    Writes depth true inner written rest

/-- What stands behind a comma and its blanks. -/
theorem Reads.of_comma {next : Option UInt8 → Reader α} {blanks inner : Bytes} {a : α}
    (hblanks : Blank blanks) (ends : ∀ a rest, ¬ Reads (next none) [] a rest)
    (h : Reads (skipByte >>= fun _ => peek? >>= next) (byte ',' :: inner) a rest) :
    ∃ gap b behind, Gap false gap ∧ blanks ++ byte ',' :: inner = gap ++ b :: behind ∧
      Reads (next (some b)) (b :: behind) a rest := by
  rcases h.of_skip.of_peeked with ⟨-, hnext⟩ | ⟨more, b, behind, hmore, rfl, hnext⟩
  · exact absurd hnext (ends a rest)
  · exact ⟨blanks ++ byte ',' :: more, b, behind, ⟨blanks, more, hblanks, hmore, rfl⟩, by simp,
      hnext⟩

theorem Reads.of_hasMember {first goesOn : Bool} (h : Reads (hasMember first) text goesOn rest) :
    (goesOn = false ∧ ∃ blanks inner, Blank blanks ∧ text = blanks ++ byte '}' :: inner ∧
        rest = byte '}' :: inner) ∨
      (goesOn = true ∧ ∃ gap, Gap first gap ∧ text = gap ++ byte '"' :: rest) := by
  rcases h.of_peeked with ⟨-, hnext⟩ | ⟨blanks, b, inner, hblanks, htext, hnext⟩
  · exact absurd hnext (not_reads_failAtNext _ _ _ _)
  dsimp only at hnext
  by_cases hclose : b = byte '}'
  · rw [if_pos hclose] at hnext
    cases hnext
    exact Or.inl ⟨rfl, blanks, inner, hblanks, hclose ▸ htext, hclose ▸ rfl⟩
  rw [if_neg hclose] at hnext
  cases first with
  | true =>
    rw [if_pos rfl] at hnext
    by_cases hquote : b = byte '"'
    · rw [if_pos hquote] at hnext
      cases hnext
      exact Or.inr ⟨rfl, blanks, hblanks, hquote ▸ htext⟩
    · rw [if_neg hquote] at hnext
      exact absurd hnext (not_reads_failAtNext _ _ _ _)
  | false =>
    rw [if_neg Bool.false_ne_true] at hnext
    by_cases hcomma : b = byte ','
    · rw [if_pos hcomma] at hnext
      subst hcomma
      obtain ⟨gap, c, behind, hgap, hgapped, hnext⟩ :=
        Reads.of_comma hblanks (fun _ _ => not_reads_failAtNext _ _ _ _) hnext
      dsimp only at hnext
      by_cases hquote : c = byte '"'
      · rw [if_pos hquote] at hnext
        cases hnext
        exact Or.inr ⟨rfl, gap, hgap, hquote ▸ htext.trans hgapped⟩
      · rw [if_neg hquote] at hnext
        by_cases htrailing : c = byte '}'
        · rw [if_pos htrailing] at hnext
          exact absurd hnext (not_reads_failAtNext _ _ _ _)
        · rw [if_neg htrailing] at hnext
          exact absurd hnext (not_reads_failAtNext _ _ _ _)
    · rw [if_neg hcomma] at hnext
      exact absurd hnext (not_reads_failAtNext _ _ _ _)

theorem reads_hasMember_gap {first : Bool} {gap : Bytes} (h : Gap first gap) (rest : Bytes) :
    Reads (hasMember first) (gap ++ byte '"' :: rest) true rest := by
  cases first with
  | true => exact reads_hasMember_first h rest
  | false =>
    obtain ⟨before, after, hbefore, hafter, rfl⟩ := h
    have hcomma : byte ',' ≠ byte '}' := by decide
    rw [List.append_assoc, List.cons_append]
    refine (reads_peek? hbefore (by decide) _).bind ?_
    simp only [if_neg hcomma, if_true, Bool.false_eq_true, if_false]
    refine (reads_skipByte _ _).bind ((reads_peek? hafter (by decide) rest).bind ?_)
    simp only [if_true]
    exact (reads_skipByte _ _).bind (reads_pure _ _)

theorem Reads.of_colon (h : Reads colon text () rest) :
    ∃ space, Blank space ∧ text = space ++ byte ':' :: rest := by
  rcases h.of_peeked with ⟨-, hnext⟩ | ⟨blanks, b, inner, hblanks, htext, hnext⟩
  · exact absurd hnext (not_reads_failAtNext _ _ _ _)
  dsimp only at hnext
  by_cases hcolon : b = byte ':'
  · rw [if_pos hcolon] at hnext
    cases hnext
    exact ⟨blanks, hblanks, hcolon ▸ htext⟩
  · rw [if_neg hcolon] at hnext
    exact absurd hnext (not_reads_failAtNext _ _ _ _)

theorem reads_colon_blank {space : Bytes} (h : Blank space) (rest : Bytes) :
    Reads colon (space ++ byte ':' :: rest) () rest := by
  refine (reads_peek? h (by decide) rest).bind ?_
  simp only [if_true]
  exact reads_skipByte _ _

theorem of_closeObject {middle : Bytes} (h : closeObject middle = (none, rest)) :
    ∃ blanks, Blank blanks ∧ middle = blanks ++ byte '}' :: rest := by
  unfold closeObject at h
  split at h
  · cases h
  · rename_i b inner hdrop
    split at h
    · rename_i hb
      cases h
      obtain ⟨blanks, inner', hblanks, hmiddle, hinner⟩ :=
        exists_blanks (b := b) (show (middle.dropWhile isBlank).head? = some b by rw [hdrop]; rfl)
      rw [hdrop] at hinner
      cases hinner
      exact ⟨blanks, hblanks, hb ▸ hmiddle⟩
    · split at h <;> cases h

theorem writes_of_members {depth fuel : Nat} {first : Bool} {written : List (String × Value)}
    {middle : Bytes} (h : Reads (members (value depth) fuel first) text written middle)
    (closes : closeObject middle = (none, rest)) : Writes depth first text written rest := by
  induction fuel generalizing first text written with
  | zero =>
    cases h
    obtain ⟨blanks, hblanks, rfl⟩ := of_closeObject closes
    exact .done hblanks
  | succ fuel ih =>
    obtain ⟨goesOn, quoted, hmember, hrest⟩ := h.of_bind
    rcases hmember.of_hasMember with ⟨rfl, blanks, inner, hblanks, rfl, rfl⟩ | ⟨rfl, gap, hgap, rfl⟩
    · rw [if_neg Bool.false_ne_true] at hrest
      cases hrest
      cases closes
      exact .done hblanks
    · rw [if_pos rfl] at hrest
      obtain ⟨name, afterName, hname, hrest⟩ := hrest.of_bind
      obtain ⟨⟨⟩, item, hcolon, hrest⟩ := hrest.of_bind
      obtain ⟨v, others, hvalue, hrest⟩ := hrest.of_bind
      obtain ⟨more, _, hmore, hpure⟩ := hrest.of_bind
      cases hpure
      obtain ⟨space, hspace, rfl⟩ := hcolon.of_colon
      exact .member hgap hname hspace hvalue (ih hmore)

/-- What the reader of objects gives is what the text writes. -/
theorem writesObject_of_reads {depth : Nat} {written : List (String × Value)}
    (h : Reads (object depth) text written rest) :
    ∃ nested, depth = nested + 1 ∧ WritesObject nested text written rest := by
  obtain ⟨blanks, inner, nested, hblanks, htext, hdepth, hinner⟩ := h.of_object
  obtain ⟨middle, hmembers, hcloses⟩ := Reads.of_enclosed hinner
  obtain ⟨written', hmembers, hwritten⟩ := hmembers.of_map
  cases hwritten
  exact ⟨nested, hdepth, blanks, inner, hblanks, htext, writes_of_members hmembers hcloses⟩

/-- A text writes one list of members. -/
theorem Writes.unique {depth : Nat} {first : Bool} {written written' : List (String × Value)}
    {rest' : Bytes} (h : Writes depth first text written rest)
    (h' : Writes depth first text written' rest') : written = written' ∧ rest = rest' := by
  induction h generalizing written' rest' with
  | done hblanks =>
    rename_i first blanks rest
    have hends := reads_hasMember_close hblanks first rest
    generalize htext : blanks ++ byte '}' :: rest = text at h' hends
    cases h' with
    | done hblanks' =>
      obtain ⟨_, hrest⟩ := hends.unique (reads_hasMember_close hblanks' first rest')
      exact ⟨rfl, (List.cons.inj hrest).2⟩
    | member hgap' hname' hspace' hvalue' hmore' =>
      obtain ⟨hgoesOn, _⟩ := hends.unique (reads_hasMember_gap hgap' _)
      cases hgoesOn
  | member hgap hname hspace hvalue hmore ih =>
    rename_i first gap quoted space item others rest name v written
    have hgoesOn := reads_hasMember_gap hgap quoted
    generalize htext : gap ++ byte '"' :: quoted = text at h' hgoesOn
    cases h' with
    | done hblanks' =>
      obtain ⟨hends, _⟩ := hgoesOn.unique (reads_hasMember_close hblanks' first rest')
      cases hends
    | member hgap' hname' hspace' hvalue' hmore' =>
      obtain ⟨_, rfl⟩ := hgoesOn.unique (reads_hasMember_gap hgap' _)
      obtain ⟨rfl, hcolon⟩ := hname.unique hname'
      have hitem := reads_colon_blank hspace item
      rw [hcolon] at hitem
      obtain ⟨_, rfl⟩ := hitem.unique (reads_colon_blank hspace' _)
      obtain ⟨rfl, rfl⟩ := hvalue.unique hvalue'
      obtain ⟨rfl, rfl⟩ := ih hmore'
      exact ⟨rfl, rfl⟩

/-- Blanks before an object make no difference. -/
theorem WritesObject.of_dropWhile {depth : Nat} {written : List (String × Value)}
    (h : WritesObject depth (text.dropWhile isBlank) written rest) :
    WritesObject depth text written rest := by
  obtain ⟨blanks, inner, hblanks, hdrop, hwrites⟩ := h
  refine ⟨text.takeWhile isBlank ++ blanks, inner, (blank_takeWhile text).append hblanks, ?_,
    hwrites⟩
  rw [List.append_assoc, ← hdrop, List.takeWhile_append_dropWhile]

theorem WritesObject.unique {depth : Nat} {written written' : List (String × Value)}
    {rest' : Bytes} (h : WritesObject depth text written rest)
    (h' : WritesObject depth text written' rest') : written = written' ∧ rest = rest' := by
  obtain ⟨blanks, inner, hblanks, htext, hwrites⟩ := h
  obtain ⟨blanks', inner', hblanks', htext', hwrites'⟩ := h'
  have hpeek := reads_peek? hblanks (b := byte '{') (by decide) inner
  rw [← htext, htext'] at hpeek
  obtain ⟨_, hinner⟩ := hpeek.unique (reads_peek? hblanks' (by decide) inner')
  obtain rfl := (List.cons.inj hinner).2
  exact hwrites.unique hwrites'

end ElmPrerender.Json.Reader
